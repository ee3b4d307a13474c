import FeedIngest.Url.Parse

/-!
# References

A reference is read where some URL of a special scheme is known, and need only say how it
differs from that one.
-/

set_option autoImplicit false

namespace FeedIngest.Url

open Text

def Path.parts : Path → List String
  | segments parts => parts
  | plain _ => []

def isSlash (c : Char) : Bool := c == '/' || c == '\\'

def follow (base : Url) (cs : List Char) : Except Fault Url :=
  let (body, query, fragment) := splitTail .special cs
  match (body.takeWhile isSlash).length with
  | 0 =>
    if body.isEmpty then .ok { base with query := query <|> base.query, fragment }
    else
      let path := segmentsAfter .special base.path.parts.dropLast body
      .ok { base with path := .segments path, query, fragment }
  | 1 => .ok { base with path := .segments (segments .special (body.drop 1)), query, fragment }
  | _ => do
    let (authority, path) ← specialBody base.scheme body
    return ⟨base.scheme, some authority, .segments path, query, fragment⟩

def resolve (base : Url) (reference : String) : Except Fault Url :=
  let cs := significant reference
  match scheme? cs with
  | some (scheme, rest) =>
    if scheme = base.scheme ∧ (rest.takeWhile isSlash).length < 2 then base.follow rest
    else parse reference
  | none => base.follow cs

end FeedIngest.Url
