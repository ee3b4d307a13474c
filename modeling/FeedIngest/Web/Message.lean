import FeedIngest.Catalog.Entry
import FeedIngest.Text.Utf8
import FeedIngest.Web.Fault

/-!
# Requests and responses

A conditional request names the version of the document that is known. A response has a
status, headers and a body that arrives in pieces.
-/

set_option autoImplicit false

namespace FeedIngest.Web

open Catalog (Validators)
open Text

/-- Whether the body of the document is asked for. -/
inductive RequestMethod where
  | get
  | head
deriving DecidableEq, Repr

structure Request where
  method : RequestMethod
  url : Url
  validators : Validators
deriving DecidableEq, Repr

inductive BodyEnd where
  | complete
  | cut
  | unfinished
deriving DecidableEq, Repr

structure Response where
  status : Nat
  headers : List (String × List UInt8)
  announced : Option Nat
  pieces : List (List UInt8)
  ending : BodyEnd
deriving DecidableEq, Repr

inductive Reply where
  | response (response : Response)
  | dropped
  | silence
deriving DecidableEq, Repr

/-! ## Headers -/

/-- Whether a header may carry a byte: all but control characters, of which tabs are fine. -/
def isHeaderByte (b : UInt8) : Bool := b == 0x09 || (0x20 ≤ b && b != 0x7F)

def isHeaderText (s : String) : Bool := (Utf8.encode s.toList).all isHeaderByte

def areSendable (v : Validators) : Bool := v.etag.all isHeaderText && v.lastModified.all isHeaderText

def isHeaderBlank (b : UInt8) : Bool := b == 0x20 || b == 0x09

/-- The value of the first header of a name, whose letters may be of either case. -/
def Response.header? (r : Response) (name : String) : Option (List UInt8) :=
  (r.headers.find? fun h => h.1.toList.map asciiLower == name.toList).map fun h =>
    dropEnd isHeaderBlank (h.2.dropWhile isHeaderBlank)

/-- The value of a header as a text, if all of it is visible. -/
def Response.headerText? (r : Response) (name : String) : Option String :=
  (r.header? name).bind fun value =>
    if value.all fun b => isHeaderBlank b || (0x21 ≤ b && b ≤ 0x7E) then
      some (String.ofList (value.map fun b => Char.ofNat b.toNat))
    else none

def Response.validators (r : Response) : Validators :=
  ⟨r.headerText? "etag", r.headerText? "last-modified"⟩

end FeedIngest.Web
