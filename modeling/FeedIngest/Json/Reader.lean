import FeedIngest.Json.Value
import FeedIngest.Text.Blank
import FeedIngest.Text.Utf8

/-!
# Reading JSON

`Json.parse?` reads a document. Strings and numbers are only checked for their form: a string
that is no text, as a value or as the name of a member, and a number out of every range do no harm
where nobody asks for them.
-/

set_option autoImplicit false

namespace FeedIngest.Json.Reader

open Text

/-- What is left of a document. `none` stands for an ill-formed part. -/
abbrev Input := List (Option Char)

def isBlank (c : Option Char) : Bool :=
  c == some ' ' || c == some '\n' || c == some '\t' || c == some '\r'

def skipBlanks (input : Input) : Input := input.dropWhile isBlank

inductive Piece where
  | char (c : Char)
  | unit (value : Nat)
  | broken
deriving DecidableEq, Repr

def escaped? : Char → Option Char
  | '"' => some '"'
  | '\\' => some '\\'
  | '/' => some '/'
  | 'b' => some '\x08'
  | 'f' => some '\x0c'
  | 'n' => some '\n'
  | 'r' => some '\r'
  | 't' => some '\t'
  | _ => none

def unit? (a b c d : Option Char) : Option Nat := do
  let a ← hexValue? (← a)
  let b ← hexValue? (← b)
  let c ← hexValue? (← c)
  let d ← hexValue? (← d)
  some (((a * 16 + b) * 16 + c) * 16 + d)

def pieces? (read : List Piece) : Input → Option (List Piece × Input)
  | [] => none
  | none :: rest => pieces? (.broken :: read) rest
  | some '"' :: rest => some (read.reverse, rest)
  | some '\\' :: some 'u' :: a :: b :: c :: d :: rest =>
    match unit? a b c d with
    | some value => pieces? (.unit value :: read) rest
    | none => none
  | some '\\' :: some e :: rest =>
    match escaped? e with
    | some c => pieces? (.char c :: read) rest
    | none => none
  | some c :: rest => if c = '\\' ∨ c < ' ' then none else pieces? (.char c :: read) rest

def isHighHalf (unit : Nat) : Bool := 0xD800 ≤ unit && unit < 0xDC00

/-- The second half of a surrogate pair. -/
def isLowHalf (unit : Nat) : Bool := 0xDC00 ≤ unit && unit < 0xE000

/-- The text of the pieces, unless one is ill-formed or half a pair stands alone. -/
def textOnto? (read : List Char) : List Piece → Option (List Char)
  | [] => some read.reverse
  | .char c :: rest => textOnto? (c :: read) rest
  | .unit high :: .unit low :: rest =>
    if isHighHalf high then
      if isLowHalf low then
        textOnto?
          (Char.ofNat (0x10000 + (high - 0xD800) * 0x400 + (low - 0xDC00)) :: read) rest
      else none
    else if isLowHalf high then none
    else textOnto? (Char.ofNat high :: read) (.unit low :: rest)
  | .unit unit :: rest =>
    if isHighHalf unit || isLowHalf unit then none else textOnto? (Char.ofNat unit :: read) rest
  | .broken :: _ => none

/-- Reads a string after its opening quote; `none` inside if it is no text. -/
def string? (input : Input) : Option (Option String × Input) :=
  (pieces? [] input).map fun (pieces, rest) => ((textOnto? [] pieces).map String.ofList, rest)

def isDigit : Option Char → Bool
  | some c => Text.isDigit c
  | none => false

def digits (input : Input) : List Char × Input :=
  ((input.takeWhile isDigit).filterMap id, input.dropWhile isDigit)

/-- Reads the digits before the point: a zero alone, or digits that begin with another one. -/
def whole? (input : Input) : Option (List Char × Input) :=
  let (ds, rest) := digits input
  match ds with
  | [] => none
  | '0' :: _ :: _ => none
  | ds => some (ds, rest)

def fraction? : Input → Option (List Char × Input)
  | some '.' :: input =>
    let (ds, rest) := digits input
    if ds.isEmpty then none else some (ds, rest)
  | input => some ([], input)

def signed? (input : Input) : Option ((Bool × List Char) × Input) :=
  let (negative, input) :=
    match input with
    | some '-' :: rest => (true, rest)
    | some '+' :: rest => (false, rest)
    | rest => (false, rest)
  let (ds, rest) := digits input
  if ds.isEmpty then none else some ((negative, ds), rest)

def exponent? : Input → Option (Option (Bool × List Char) × Input)
  | some 'e' :: input | some 'E' :: input =>
    (signed? input).map fun (exponent, rest) => (some exponent, rest)
  | input => some (none, input)

def number? (input : Input) : Option (JsonNumber × Input) := do
  let (negative, input) :=
    match input with
    | some '-' :: rest => (true, rest)
    | rest => (false, rest)
  let (whole, input) ← whole? input
  let (fraction, input) ← fraction? input
  let (exponent, input) ← exponent? input
  some (⟨negative, whole, fraction, exponent⟩, input)

/-- The members read so far, the last one first. There are none once a name was no text. -/
abbrev Members := Option (List (String × Json))

def Members.add (read : Members) (name : Option String) (value : Json) : Members := do
  some ((← name, value) :: (← read))

def Members.object : Members → Json
  | some read => .object read.reverse
  | none => .brokenObject

mutual

/-- Reads a value after blanks. The first argument bounds the number of steps. -/
def value? : Nat → Input → Option (Json × Input)
  | 0, _ => none
  | steps + 1, input =>
    match skipBlanks input with
    | some 'n' :: some 'u' :: some 'l' :: some 'l' :: rest => some (.null, rest)
    | some 't' :: some 'r' :: some 'u' :: some 'e' :: rest => some (.bool true, rest)
    | some 'f' :: some 'a' :: some 'l' :: some 's' :: some 'e' :: rest => some (.bool false, rest)
    | some '"' :: rest =>
      match string? rest with
      | some (some text, rest) => some (.string text, rest)
      | some (none, rest) => some (.brokenString, rest)
      | none => none
    | some '[' :: rest =>
      match skipBlanks rest with
      | some ']' :: rest => some (.array [], rest)
      | rest => items? steps [] rest
    | some '\x7b' :: rest =>
      match skipBlanks rest with
      | some '\x7d' :: rest => some (.object [], rest)
      | rest => members? steps (some []) rest
    | rest =>
      match number? rest with
      | some (n, rest) => some (.number n, rest)
      | none => none

def items? : Nat → List Json → Input → Option (Json × Input)
  | 0, _, _ => none
  | steps + 1, read, input =>
    match value? steps input with
    | none => none
    | some (item, rest) =>
      match skipBlanks rest with
      | some ',' :: rest => items? steps (item :: read) rest
      | some ']' :: rest => some (.array (item :: read).reverse, rest)
      | _ => none

def members? : Nat → Members → Input → Option (Json × Input)
  | 0, _, _ => none
  | steps + 1, read, input =>
    match skipBlanks input with
    | some '"' :: rest =>
      match string? rest with
      | none => none
      | some (name, rest) =>
        match skipBlanks rest with
        | some ':' :: rest =>
          match value? steps rest with
          | none => none
          | some (value, rest) =>
            match skipBlanks rest with
            | some ',' :: rest => members? steps (read.add name value) rest
            | some '\x7d' :: rest => some ((read.add name value).object, rest)
            | _ => none
        | _ => none
    | _ => none

end

/-- Reads a document of scanned characters: one value with nothing but blanks around it. -/
def document? (input : Input) : Option Json :=
  match value? (2 * input.length + 2) input with
  | some (value, rest) => if (skipBlanks rest).isEmpty then some value else none
  | none => none

end FeedIngest.Json.Reader

namespace FeedIngest.Json

def parse? (bytes : List UInt8) : Option Json := Reader.document? (Text.Utf8.scan bytes)

end FeedIngest.Json
