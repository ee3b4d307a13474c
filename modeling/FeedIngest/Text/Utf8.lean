/-!
# UTF-8

Encoding and decoding over lists of bytes. `decode?` accepts exactly the well-formed
sequences; `decodeLossy` replaces every maximal ill-formed part by U+FFFD.
-/

set_option autoImplicit false

namespace FeedIngest.Text.Utf8

def encode (cs : List Char) : List UInt8 := cs.flatMap String.utf8EncodeChar

/-- How a byte sequence begins: with a character of some length, or with an ill-formed part. -/
inductive Head where
  | char (c : Char) (size : Nat)
  | broken (size : Nat)
deriving Repr, DecidableEq

/-- The number of bytes that a leading byte announces, with the range of the second one. -/
def announced (lead : UInt8) : Option (Nat × UInt8 × UInt8) :=
  if 0xC2 ≤ lead ∧ lead ≤ 0xDF then some (2, 0x80, 0xBF)
  else if lead = 0xE0 then some (3, 0xA0, 0xBF)
  else if lead = 0xED then some (3, 0x80, 0x9F)
  else if 0xE1 ≤ lead ∧ lead ≤ 0xEF then some (3, 0x80, 0xBF)
  else if lead = 0xF0 then some (4, 0x90, 0xBF)
  else if 0xF1 ≤ lead ∧ lead ≤ 0xF3 then some (4, 0x80, 0xBF)
  else if lead = 0xF4 then some (4, 0x80, 0x8F)
  else none

def isTail (b : UInt8) : Bool := 0x80 ≤ b && b ≤ 0xBF

def low (b : UInt8) : Nat := b.toNat % 64

def head (lead : UInt8) (rest : List UInt8) : Head :=
  if lead < 0x80 then .char (Char.ofNat lead.toNat) 1
  else match announced lead with
    | none => .broken 1
    | some (size, least, greatest) =>
      match rest with
      | [] => .broken 1
      | b :: rest =>
        if ¬(least ≤ b ∧ b ≤ greatest) then .broken 1
        else if size = 2 then .char (Char.ofNat (lead.toNat % 32 * 64 + low b)) 2
        else match rest with
          | [] => .broken 2
          | c :: rest =>
            if ¬isTail c then .broken 2
            else if size = 3 then
              .char (Char.ofNat ((lead.toNat % 16 * 64 + low b) * 64 + low c)) 3
            else match rest with
              | [] => .broken 3
              | d :: _ =>
                if ¬isTail d then .broken 3
                else .char
                  (Char.ofNat (((lead.toNat % 8 * 64 + low b) * 64 + low c) * 64 + low d)) 4

def decodeOnto? (read : List Char) : List UInt8 → Option (List Char)
  | [] => some read.reverse
  | lead :: rest =>
    match head lead rest with
    | .char c n => decodeOnto? (c :: read) (rest.drop (n - 1))
    | .broken _ => none
termination_by bytes => bytes.length
decreasing_by simp only [List.length_drop, List.length_cons]; omega

def decode? (bytes : List UInt8) : Option (List Char) := decodeOnto? [] bytes

def decodeLossyOnto (read : List Char) : List UInt8 → List Char
  | [] => read.reverse
  | lead :: rest =>
    match head lead rest with
    | .char c n => decodeLossyOnto (c :: read) (rest.drop (n - 1))
    | .broken n => decodeLossyOnto ('\uFFFD' :: read) (rest.drop (n - 1))
termination_by bytes => bytes.length
decreasing_by all_goals simp only [List.length_drop, List.length_cons]; omega

def decodeLossy (bytes : List UInt8) : List Char := decodeLossyOnto [] bytes

def scanOnto (read : List (Option Char)) : List UInt8 → List (Option Char)
  | [] => read.reverse
  | lead :: rest =>
    match head lead rest with
    | .char c n => scanOnto (some c :: read) (rest.drop (n - 1))
    | .broken n => scanOnto (none :: read) (rest.drop (n - 1))
termination_by bytes => bytes.length
decreasing_by all_goals simp only [List.length_drop, List.length_cons]; omega

/-- The characters of any sequence, with `none` for every maximal ill-formed part. -/
def scan (bytes : List UInt8) : List (Option Char) := scanOnto [] bytes

def string? (bytes : List UInt8) : Option String := (decode? bytes).map String.ofList

def stringLossy (bytes : List UInt8) : String := String.ofList (decodeLossy bytes)

end FeedIngest.Text.Utf8
