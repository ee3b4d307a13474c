/-!
# JSON values

A value keeps its numbers as they are written, so that the reader of a field decides what
numbers it takes, and the members of an object in their order, repeated names included.
-/

set_option autoImplicit false

namespace FeedIngest

structure JsonNumber where
  negative : Bool
  whole : List Char
  /-- The digits after the point; empty if there is no point. -/
  fraction : List Char
  exponent : Option (Bool × List Char)
deriving DecidableEq, Repr

inductive Json where
  | null
  | bool (value : Bool)
  | number (value : JsonNumber)
  | string (value : String)
  /-- A string that is no text: it holds ill-formed bytes or half a surrogate pair. -/
  | brokenString
  | array (items : List Json)
  | object (members : List (String × Json))
  /-- An object with a name that is no text. -/
  | brokenObject
deriving Repr, Inhabited

end FeedIngest
