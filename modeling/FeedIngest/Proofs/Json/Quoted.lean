import FeedIngest.Json.Reader
import FeedIngest.Json.Writer

/-!
# Reading strings

Between its quotes a string is spelled piece by piece: a character as it is, a character behind a
backslash, or a unit of sixteen bits by its number. Two units that are halves of a pair stand for
one character. A half that stands alone makes the string no text, which does no harm where nobody
asks for it.
-/

set_option autoImplicit false

namespace FeedIngest.Json

open Reader (Piece)

/-- The characters that have a short name, each with the letter behind the backslash. -/
def shortNames : List (Char × Char) :=
  [('"', '"'), ('\\', '\\'), ('/', '/'), ('b', '\x08'), ('f', '\x0c'), ('n', '\n'), ('r', '\r'),
    ('t', '\t')]

inductive SpellsPiece : Piece → List Char → Prop where
  | char {c : Char} (visible : ¬c < ' ') (noQuote : c ≠ '"') (noBackslash : c ≠ '\\') :
      SpellsPiece (.char c) [c]
  | named {letter c : Char} (named : (letter, c) ∈ shortNames) :
      SpellsPiece (.char c) ['\\', letter]
  | unit {a b c d : Char} {w x y z : Nat} (first : Text.hexValue? a = some w)
      (second : Text.hexValue? b = some x) (third : Text.hexValue? c = some y)
      (fourth : Text.hexValue? d = some z) :
      SpellsPiece (.unit (((w * 16 + x) * 16 + y) * 16 + z)) ['\\', 'u', a, b, c, d]

inductive SpellsPieces : List Piece → List Char → Prop where
  | nil : SpellsPieces [] []
  | cons {piece : Piece} {pieces : List Piece} {text more : List Char}
      (first : SpellsPiece piece text) (others : SpellsPieces pieces more) :
      SpellsPieces (piece :: pieces) (text ++ more)

inductive Denotes : List Piece → List Char → Prop where
  | nil : Denotes [] []
  | char {c : Char} {pieces : List Piece} {cs : List Char} (others : Denotes pieces cs) :
      Denotes (.char c :: pieces) (c :: cs)
  | unit {n : Nat} {pieces : List Piece} {cs : List Char} (whole : n < 0xD800 ∨ 0xE000 ≤ n)
      (others : Denotes pieces cs) : Denotes (.unit n :: pieces) (Char.ofNat n :: cs)
  | pair {high low : Nat} {pieces : List Piece} {cs : List Char}
      (first : 0xD800 ≤ high ∧ high < 0xDC00) (second : 0xDC00 ≤ low ∧ low < 0xE000)
      (others : Denotes pieces cs) :
      Denotes (.unit high :: .unit low :: pieces)
        (Char.ofNat (0x10000 + (high - 0xD800) * 0x400 + (low - 0xDC00)) :: cs)

def SpellsString (s : String) (text : List Char) : Prop :=
  ∃ pieces, SpellsPieces pieces text ∧ Denotes pieces s.toList

/-- A string that is no text. -/
def SpellsBroken (text : List Char) : Prop :=
  ∃ pieces, SpellsPieces pieces text ∧ ∀ cs, ¬Denotes pieces cs

namespace Reader

variable {rest : Input}

private theorem escaped?_shortNames :
    ∀ name ∈ shortNames, name.1 ≠ 'u' ∧ escaped? name.1 = some name.2 := by
  decide

private theorem pieces?_of_spellsPiece {piece : Piece} {text : List Char}
    (spells : SpellsPiece piece text) (read : List Piece) (rest : Input) :
    pieces? read (text.map some ++ rest) = pieces? (piece :: read) rest := by
  cases spells with
  | @char c visible noQuote noBackslash =>
    show pieces? read (some c :: rest) = _
    rw [pieces?]
    · simp [noBackslash, visible]
    · exact noQuote
    · exact fun _ _ _ _ _ _ => noBackslash
    · exact fun _ _ _ => noBackslash
  | @named letter c named =>
    obtain ⟨other, short⟩ := escaped?_shortNames _ named
    show pieces? read (some '\\' :: some letter :: rest) = _
    rw [pieces?]
    · simp only [short]
    · exact fun _ _ _ _ _ _ unit => other unit
  | unit first second third fourth => simp [pieces?, unit?, first, second, third, fourth]

theorem pieces?_of_spells {pieces : List Piece} {text : List Char}
    (spells : SpellsPieces pieces text) (read : List Piece) :
    pieces? read (text.map some ++ some '"' :: rest) = some (read.reverse ++ pieces, rest) := by
  induction spells generalizing read with
  | nil => simp [pieces?]
  | cons first _ ih =>
    rw [List.map_append, List.append_assoc, pieces?_of_spellsPiece first, ih]
    simp

private theorem textOnto?_unit {n : Nat} (whole : n < 0xD800 ∨ 0xE000 ≤ n) (read : List Char)
    (pieces : List Piece) :
    textOnto? read (.unit n :: pieces) = textOnto? (Char.ofNat n :: read) pieces := by
  have noHigh : isHighHalf n = false := by simp [isHighHalf]; omega
  have noLow : isLowHalf n = false := by simp [isLowHalf]; omega
  cases pieces with
  | nil => simp [textOnto?, noHigh, noLow]
  | cons piece pieces => cases piece <;> simp [textOnto?, noHigh, noLow]

private theorem textOnto?_of_denotes {pieces : List Piece} {cs : List Char}
    (denotes : Denotes pieces cs) (read : List Char) :
    textOnto? read pieces = some (read.reverse ++ cs) := by
  induction denotes generalizing read with
  | nil => simp [textOnto?]
  | char _ ih => simp [textOnto?, ih]
  | unit whole _ ih =>
    rw [textOnto?_unit whole, ih]
    simp
  | @pair high low _ _ first second _ ih =>
    have isHigh : isHighHalf high = true := by simpa [isHighHalf] using first
    have isLow : isLowHalf low = true := by simpa [isLowHalf] using second
    simp [textOnto?, isHigh, isLow, ih]

/-- Only what stands for characters is read as text. -/
theorem exists_denotes {pieces : List Piece} {read cs : List Char}
    (reads : textOnto? read pieces = some cs) : ∃ cs, Denotes pieces cs := by
  fun_induction textOnto? read pieces with
  | case1 => exact ⟨[], .nil⟩
  | case2 read c rest ih =>
    obtain ⟨cs, others⟩ := ih reads
    exact ⟨_, .char others⟩
  | case3 read high low rest isHigh isLow ih =>
    obtain ⟨cs, others⟩ := ih reads
    exact ⟨_, .pair (by simpa [isHighHalf] using isHigh) (by simpa [isLowHalf] using isLow) others⟩
  | case4 => cases reads
  | case5 => cases reads
  | case6 read high low rest noHigh noLow ih =>
    obtain ⟨cs, others⟩ := ih reads
    exact ⟨_, .unit (by simp [isHighHalf, isLowHalf] at noHigh noLow; omega) others⟩
  | case7 => cases reads
  | case8 read n rest _ whole ih =>
    obtain ⟨cs, others⟩ := ih reads
    exact ⟨_, .unit (by simp [isHighHalf, isLowHalf] at whole; omega) others⟩
  | case9 => cases reads

/-- A string is read after its opening quote. -/
theorem string?_of_spells {s : String} {text : List Char} (spells : SpellsString s text) :
    string? (text.map some ++ some '"' :: rest) = some (some s, rest) := by
  obtain ⟨pieces, spells, denotes⟩ := spells
  simp [string?, pieces?_of_spells spells, textOnto?_of_denotes denotes]

theorem string?_of_broken {text : List Char} (broken : SpellsBroken text) :
    string? (text.map some ++ some '"' :: rest) = some (none, rest) := by
  obtain ⟨pieces, spells, noText⟩ := broken
  have none : textOnto? [] pieces = none := by
    cases reads : textOnto? [] pieces with
    | none => rfl
    | some cs =>
      obtain ⟨cs, denotes⟩ := exists_denotes reads
      exact absurd denotes (noText cs)
  simp [string?, pieces?_of_spells spells, none]

end Reader

/-! ## The written form -/

private theorem hexValue?_hexDigit : ∀ n < 16, Text.hexValue? (Writer.hexDigit n) = some n := by
  decide

/-- A character is written as one piece that stands for it. -/
theorem exists_spellsPiece_escape (c : Char) :
    ∃ piece, SpellsPiece piece (Writer.escape c) ∧
      ∀ pieces cs, Denotes pieces cs → Denotes (piece :: pieces) (c :: cs) := by
  unfold Writer.escape
  split
  case h_8 noQuote noBackslash _ _ _ _ _ =>
    split
    · next control =>
      have small : c.toNat < 32 := UInt32.lt_iff_toNat_lt.mp (Char.lt_def.mp control)
      have zero : Text.hexValue? '0' = some 0 := rfl
      have spells := SpellsPiece.unit zero zero
        (hexValue?_hexDigit (c.toNat / 16) (by omega)) (hexValue?_hexDigit (c.toNat % 16) (by omega))
      have value : ((0 * 16 + 0) * 16 + c.toNat / 16) * 16 + c.toNat % 16 = c.toNat := by omega
      rw [value] at spells
      refine ⟨_, spells, fun pieces cs others => ?_⟩
      have denotes := Denotes.unit (n := c.toNat) (.inl (by omega)) others
      rwa [Char.ofNat_toNat] at denotes
    · next visible => exact ⟨_, .char visible noQuote noBackslash, fun _ _ => .char⟩
  all_goals exact ⟨_, .named (by decide), fun _ _ => .char⟩

theorem spellsString_escape (s : String) : SpellsString s (s.toList.flatMap Writer.escape) := by
  unfold SpellsString
  induction s.toList with
  | nil => exact ⟨[], .nil, .nil⟩
  | cons c cs ih =>
    obtain ⟨piece, spells, denotes⟩ := exists_spellsPiece_escape c
    obtain ⟨pieces, others, denotesAll⟩ := ih
    rw [List.flatMap_cons]
    exact ⟨piece :: pieces, .cons spells others, denotes pieces cs denotesAll⟩

end FeedIngest.Json
