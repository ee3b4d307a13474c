import FeedIngest.Markup.Fault

/-!
# Entities and character references

The five entities that need no declaration, references to characters by number, and the text
of attribute values. Escaping writes the five characters as entities.
-/

set_option autoImplicit false

namespace FeedIngest.Markup

open Text

def entity? (name : List Char) : Option Char :=
  if name = ['l', 't'] then some '<'
  else if name = ['g', 't'] then some '>'
  else if name = ['a', 'm', 'p'] then some '&'
  else if name = ['a', 'p', 'o', 's'] then some '\''
  else if name = ['q', 'u', 'o', 't'] then some '"'
  else none

def escapeChar (c : Char) : List Char :=
  match c with
  | '<' => ['&', 'l', 't', ';']
  | '>' => ['&', 'g', 't', ';']
  | '&' => ['&', 'a', 'm', 'p', ';']
  | '\'' => ['&', 'a', 'p', 'o', 's', ';']
  | '"' => ['&', 'q', 'u', 'o', 't', ';']
  | c => [c]

def escape (cs : List Char) : List Char := cs.flatMap escapeChar

def numberFrom (radix : Nat) (value : Nat) : List Char → Except NumberFault Nat
  | [] => .ok value
  | c :: cs =>
    match hexValue? c with
    | some d =>
      if radix ≤ d then .error .badDigit
      else if Nat.pow 2 32 ≤ value * radix + d then .error .tooLarge
      else numberFrom radix (value * radix + d) cs
    | none => .error .badDigit

def number (radix : Nat) : List Char → Except NumberFault Nat
  | [] => .error .empty
  | '+' :: _ | '-' :: _ => .error .signed
  | cs => numberFrom radix 0 cs

/-- The character of a reference by number, given without its number sign: decimal digits, or
hexadecimal ones after an `x`. -/
def characterOf (cs : List Char) : Except NumberFault Char := do
  let n ← match cs with
    | 'x' :: cs => number 16 cs
    | cs => number 10 cs
  if n = 0 then .error .null
  else if h : n.isValidChar then .ok (Char.ofNatAux n h)
  else .error (.noCharacter n)

/-- The text that a reference in running text stands for. An unknown entity stands for itself. -/
def referenceText (name : List Char) : Except Fault (List Char) :=
  match entity? name with
  | some c => .ok [c]
  | none =>
    match name with
    | '#' :: digits => (characterOf digits).mapError .number |>.map fun c => [c]
    | name => .ok ('&' :: name ++ [';'])

def byteLength (cs : List Char) : Nat := cs.foldl (fun n c => n + c.utf8Size) 0

/-- Whether a character may stand between an ampersand and its semicolon. -/
def isNamePart (c : Char) : Bool := c != ';' && c != '&'

/-- The text of an attribute value from a place on: references are resolved, and tabs and line
breaks become spaces. Unknown entities are faults. -/
def valueTextFrom (total : Nat) (place : Nat) (read : List Char) (cs : List Char) :
    Except Fault (List Char) :=
  match cs with
  | [] => .ok read.reverse
  | '\r' :: '\n' :: rest => valueTextFrom total (place + 2) (' ' :: read) rest
  | '&' :: rest =>
    let name := rest.takeWhile isNamePart
    let stop := place + 1 + byteLength name
    match _ended : rest.dropWhile isNamePart with
    | ';' :: after =>
      match entity? name with
      | some c => valueTextFrom total (stop + 1) (c :: read) after
      | none =>
        match name with
        | '#' :: digits =>
          match characterOf digits with
          | .ok c => valueTextFrom total (stop + 1) (c :: read) after
          | .error fault => .error (.number fault)
        | name => .error (.unknownEntity (place + 1) stop (String.ofList name))
    | _ => .error (.unterminatedEntity place total)
  | c :: rest =>
    let c' := if c = '\t' ∨ c = '\n' ∨ c = '\r' then ' ' else c
    valueTextFrom total (place + c.utf8Size) (c' :: read) rest
termination_by cs.length
decreasing_by
  all_goals try have shorter := (List.dropWhile_suffix isNamePart (l := rest)).length_le
  all_goals simp_all only [List.length_cons]
  all_goals omega

def valueText (cs : List Char) : Except Fault (List Char) :=
  valueTextFrom (byteLength cs) 0 [] cs

end FeedIngest.Markup
