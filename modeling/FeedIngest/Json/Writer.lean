import FeedIngest.Json.Value
import FeedIngest.Text.Blank

/-!
# Writing JSON

The compact form, without any blank, and the pretty form, with one member or item a line and
two spaces for every level.
-/

set_option autoImplicit false

namespace FeedIngest.Json.Writer

open Text

def hexDigit (n : Nat) : Char := Char.ofNat (if n < 10 then 48 + n else 87 + n)

/-- A character inside a string: quotes, backslashes and control characters are escaped, with
a letter where there is one. -/
def escape (c : Char) : List Char :=
  match c with
  | '"' => ['\\', '"']
  | '\\' => ['\\', '\\']
  | '\x08' => ['\\', 'b']
  | '\t' => ['\\', 't']
  | '\n' => ['\\', 'n']
  | '\x0c' => ['\\', 'f']
  | '\r' => ['\\', 'r']
  | c =>
    if c < ' ' then ['\\', 'u', '0', '0', hexDigit (c.toNat / 16), hexDigit (c.toNat % 16)]
    else [c]

def string (s : String) : List Char := '"' :: s.toList.flatMap escape ++ ['"']

def number (n : JsonNumber) : List Char :=
  (if n.negative then ['-'] else []) ++ n.whole ++
    (if n.fraction.isEmpty then [] else '.' :: n.fraction) ++
    match n.exponent with
    | none => []
    | some (negative, ds) => 'e' :: (if negative then '-' :: ds else ds)

/-- What stands between the parts of arrays and objects. -/
structure Layout where
  /-- What a nested level begins each line with, if there are lines. -/
  indent : Option (List Char)
  colon : List Char
deriving Repr

def compact : Layout := ⟨none, [':']⟩

def pretty : Layout := ⟨some [' ', ' '], [':', ' ']⟩

def Layout.newline (layout : Layout) (depth : Nat) : List Char :=
  match layout.indent with
  | none => []
  | some indent => '\n' :: (List.replicate depth indent).flatten

def Layout.enclose (layout : Layout) (opening closing : Char) (depth : Nat)
    (parts : List (List Char)) : List Char :=
  match parts with
  | [] => [opening, closing]
  | first :: others =>
    opening :: layout.newline (depth + 1) ++ first ++
      others.flatMap (fun part => ',' :: layout.newline (depth + 1) ++ part) ++
      layout.newline depth ++ [closing]

mutual

/-- A value at a depth. A string that is no text, or an object with such a name, is written as an empty
one. -/
def value (layout : Layout) (depth : Nat) : Json → List Char
  | .null => ['n', 'u', 'l', 'l']
  | .bool true => ['t', 'r', 'u', 'e']
  | .bool false => ['f', 'a', 'l', 's', 'e']
  | .number n => number n
  | .string s => string s
  | .brokenString => ['"', '"']
  | .array items => layout.enclose '[' ']' depth (values layout (depth + 1) items)
  | .object fields => layout.enclose '\x7b' '\x7d' depth (members layout (depth + 1) fields)
  | .brokenObject => ['\x7b', '\x7d']

def values (layout : Layout) (depth : Nat) : List Json → List (List Char)
  | [] => []
  | item :: items => value layout depth item :: values layout depth items

def members (layout : Layout) (depth : Nat) : List (String × Json) → List (List Char)
  | [] => []
  | (name, item) :: fields =>
    (string name ++ layout.colon ++ value layout depth item) :: members layout depth fields

end

end FeedIngest.Json.Writer

namespace FeedIngest.Json

def render (json : Json) : String := String.ofList (Writer.value Writer.compact 0 json)

def renderPretty (json : Json) : String := String.ofList (Writer.value Writer.pretty 0 json)

end FeedIngest.Json
