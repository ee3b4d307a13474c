import FeedIngest.Json.Reader
import FeedIngest.Json.Record
import FeedIngest.Json.Writer
import FeedIngest.Proofs.Text.Decimal

/-!
# Reading numbers

A number is read from every text that spells it, whatever stands behind it, as long as that goes on
with nothing that belongs to a number. An integer as it is written is one of these texts.
-/

set_option autoImplicit false

namespace FeedIngest.Json

/-! ## The texts of a number -/

structure IsDigits (ds : List Char) : Prop where
  nonempty : ds ≠ []
  plain : ∀ c ∈ ds, Text.isDigit c = true

inductive SpellsFraction : List Char → List Char → Prop where
  | none : SpellsFraction [] []
  | digits {ds : List Char} (is : IsDigits ds) : SpellsFraction ds ('.' :: ds)

/-- A plus sign before an exponent means nothing. -/
inductive SpellsSign : Bool → List Char → Prop where
  | none : SpellsSign false []
  | plus : SpellsSign false ['+']
  | minus : SpellsSign true ['-']

inductive SpellsExponent : Option (Bool × List Char) → List Char → Prop where
  | none : SpellsExponent none []
  | scaled {mark : Char} {negative : Bool} {sign ds : List Char} (marks : mark = 'e' ∨ mark = 'E')
      (signs : SpellsSign negative sign) (digits : IsDigits ds) :
      SpellsExponent (some (negative, ds)) (mark :: (sign ++ ds))

/-- A number begins with its sign, and no other digit follows a leading zero. -/
inductive SpellsNumber : JsonNumber → List Char → Prop where
  | parts (negative : Bool) {whole fraction point scale : List Char}
      {exponent : Option (Bool × List Char)} (digits : IsDigits whole)
      (bare : ∀ d ds, whole ≠ '0' :: d :: ds) (fractions : SpellsFraction fraction point)
      (exponents : SpellsExponent exponent scale) :
      SpellsNumber ⟨negative, whole, fraction, exponent⟩
        ((if negative then ['-'] else []) ++ (whole ++ (point ++ scale)))

namespace Reader

open Text (digit_isDigit)

variable {rest : Input}

def EndsDigits : Input → Prop
  | some c :: _ => Text.isDigit c = false
  | _ => True

/-- What may stand behind the digits after the point, or instead of them. -/
def EndsFraction : Input → Prop
  | some c :: _ => Text.isDigit c = false ∧ c ≠ '.'
  | _ => True

/-- What may stand behind a number. -/
def EndsInteger : Input → Prop
  | some c :: _ => Text.isDigit c = false ∧ c ≠ '.' ∧ c ≠ 'e' ∧ c ≠ 'E'
  | _ => True

theorem EndsFraction.endsDigits (ends : EndsFraction rest) : EndsDigits rest := by
  match rest, ends with
  | [], _ => trivial
  | none :: _, _ => trivial
  | some _ :: _, ends => exact ends.1

theorem EndsInteger.endsFraction (ends : EndsInteger rest) : EndsFraction rest := by
  match rest, ends with
  | [], _ => trivial
  | none :: _, _ => trivial
  | some _ :: _, ends => exact ⟨ends.1, ends.2.1⟩

theorem digits_append {ds : List Char} (plain : ∀ c ∈ ds, Text.isDigit c = true)
    (ends : EndsDigits rest) : digits (ds.map some ++ rest) = (ds, rest) := by
  have all : ∀ c ∈ ds.map some, isDigit c = true := by
    intro c member
    obtain ⟨d, inside, rfl⟩ := List.mem_map.mp member
    exact plain d inside
  have none : rest.takeWhile isDigit = [] ∧ rest.dropWhile isDigit = rest := by
    match rest, ends with
    | [], _ => exact ⟨rfl, rfl⟩
    | none :: _, _ => exact ⟨rfl, rfl⟩
    | some c :: _, noDigit =>
      have noDigit : Text.isDigit c = false := noDigit
      simp [isDigit, noDigit]
  unfold digits
  rw [List.takeWhile_append_of_pos all, List.dropWhile_append_of_pos all, none.1, none.2]
  simp

private theorem whole?_append {ds : List Char} (is : IsDigits ds)
    (bare : ∀ d more, ds ≠ '0' :: d :: more) (ends : EndsDigits rest) :
    whole? (ds.map some ++ rest) = some (ds, rest) := by
  unfold whole?
  rw [digits_append is.plain ends]
  dsimp only
  split
  · exact absurd rfl is.nonempty
  · next d more => exact absurd rfl (bare d more)
  · rfl

private theorem fraction?_of_spells {ds text : List Char} (spells : SpellsFraction ds text)
    (ends : EndsFraction rest) : fraction? (text.map some ++ rest) = some (ds, rest) := by
  cases spells with
  | none =>
    rw [List.map_nil, List.nil_append]
    unfold fraction?
    split
    · exact absurd rfl ends.2
    · rfl
  | digits is =>
    rw [List.map_cons, List.cons_append, fraction?, digits_append is.plain ends.endsDigits]
    have nonempty : ds.isEmpty = false := List.isEmpty_eq_false_iff.mpr is.nonempty
    simp only [nonempty, Bool.false_eq_true, if_false]

private theorem signed?_of_spells {negative : Bool} {sign ds : List Char}
    (signs : SpellsSign negative sign) (is : IsDigits ds) (ends : EndsDigits rest) :
    signed? ((sign ++ ds).map some ++ rest) = some ((negative, ds), rest) := by
  have read := digits_append is.plain ends
  have nonempty : ds.isEmpty = false := List.isEmpty_eq_false_iff.mpr is.nonempty
  obtain ⟨c, more, rfl⟩ := List.exists_cons_of_ne_nil is.nonempty
  have digit : Text.isDigit c = true := is.plain c List.mem_cons_self
  have noSign : c ≠ '-' ∧ c ≠ '+' := by
    constructor <;> rintro rfl <;> cases digit
  rw [List.map_cons, List.cons_append] at read
  cases signs with
  | none => simp [signed?, noSign, read]
  | plus => simp [signed?, read]
  | minus => simp [signed?, read]

private theorem exponent?_of_spells {exponent : Option (Bool × List Char)} {text : List Char}
    (spells : SpellsExponent exponent text) (ends : EndsInteger rest) :
    exponent? (text.map some ++ rest) = some (exponent, rest) := by
  cases spells with
  | none =>
    rw [List.map_nil, List.nil_append]
    unfold exponent?
    split
    · exact absurd rfl ends.2.2.1
    · exact absurd rfl ends.2.2.2
    · rfl
  | scaled marks signs is =>
    have read := signed?_of_spells signs is ends.endsFraction.endsDigits
    obtain rfl | rfl := marks
    · rw [List.map_cons, List.cons_append, exponent?, read]
      rfl
    · rw [List.map_cons, List.cons_append, exponent?, read]
      rfl

private theorem endsFraction_of_spells {exponent : Option (Bool × List Char)} {text : List Char}
    (spells : SpellsExponent exponent text) (ends : EndsInteger rest) :
    EndsFraction (text.map some ++ rest) := by
  cases spells with
  | none => exact ends.endsFraction
  | scaled marks _ _ => obtain rfl | rfl := marks <;> exact ⟨rfl, by decide⟩

private theorem endsDigits_of_spells {ds text : List Char} (spells : SpellsFraction ds text)
    (ends : EndsFraction rest) : EndsDigits (text.map some ++ rest) := by
  cases spells with
  | none => exact ends.endsDigits
  | digits _ => exact rfl

private theorem number?_of_spells {n : JsonNumber} {text : List Char} (spells : SpellsNumber n text)
    (ends : EndsInteger rest) : number? (text.map some ++ rest) = some (n, rest) := by
  obtain @⟨negative, whole, fraction, point, scale, exponent, is, bare, fractions,
      exponents⟩ := spells
  have ending := endsFraction_of_spells exponents ends
  have first := whole?_append is bare (endsDigits_of_spells fractions ending)
  have second := fraction?_of_spells fractions ending
  have third := exponent?_of_spells exponents ends
  cases negative with
  | true => simp [number?, first, second, third]
  | false =>
    -- The first digit is no minus sign.
    obtain ⟨c, more, rfl⟩ := List.exists_cons_of_ne_nil is.nonempty
    have noSign : c ≠ '-' := by
      rintro rfl
      cases is.plain '-' List.mem_cons_self
    rw [List.map_cons, List.cons_append] at first
    simp [number?, noSign, first, second, third]

/-- A number begins with a minus sign or a digit. -/
theorem number_begins {n : JsonNumber} {text : List Char} (spells : SpellsNumber n text) :
    ∃ c more, text = c :: more ∧ (c = '-' ∨ Text.isDigit c = true) := by
  obtain @⟨negative, whole, fraction, point, scale, exponent, is, _, _, _⟩ := spells
  obtain ⟨c, more, rfl⟩ := List.exists_cons_of_ne_nil is.nonempty
  cases negative with
  | true => exact ⟨'-', _, rfl, .inl rfl⟩
  | false => exact ⟨c, _, rfl, .inr (is.plain c List.mem_cons_self)⟩

def otherBeginnings : List Char := [' ', '\n', '\t', '\r', 'n', 't', 'f', '"', '[', '\x7b', ']']

theorem begins_otherwise {c : Char} (sort : c = '-' ∨ Text.isDigit c = true) :
    c ∉ otherBeginnings := by
  intro member
  obtain rfl | digit := sort
  · revert member
    decide
  · have none : otherBeginnings.any Text.isDigit = false := rfl
    exact List.any_eq_false.mp none c member digit

theorem value?_of_spellsNumber {n : JsonNumber} {text : List Char} (spells : SpellsNumber n text)
    (steps : Nat) (ends : EndsInteger rest) :
    value? (steps + 1) (text.map some ++ rest) = some (.number n, rest) := by
  have read := number?_of_spells spells ends
  obtain ⟨c, more, rfl, sort⟩ := number_begins spells
  have other := begins_otherwise sort
  simp only [otherBeginnings, List.mem_cons, List.not_mem_nil, or_false, not_or] at other
  rw [List.map_cons, List.cons_append] at read ⊢
  simp [value?, skipBlanks, isBlank, other, read]

end Reader

theorem spellsNumber_ofInt (n : Int) : SpellsNumber (.ofInt n) (Writer.number (.ofInt n)) := by
  have digits : IsDigits (Text.digits n.natAbs) :=
    ⟨Text.digits_ne_nil _, fun _ => Text.digit_isDigit⟩
  have spells := SpellsNumber.parts (decide (n < 0)) digits
    (fun _ _ => Text.digits_ne_zero_cons n.natAbs) .none .none
  simpa [Writer.number, JsonNumber.ofInt] using spells

end FeedIngest.Json

namespace FeedIngest.JsonNumber

theorem int?_ofInt (n : Int) : (ofInt n).int? = some n := by
  unfold ofInt int?
  rw [Text.digitsValue_digits]
  by_cases negative : n < 0
  · have nonzero : n.natAbs ≠ 0 := by omega
    have value : -(n.natAbs : Int) = n := by omega
    simp only [List.isEmpty_nil, Option.isNone_none, Bool.and_self, if_true,
      decide_eq_true negative, nonzero, if_false, value]
  · have value : (n.natAbs : Int) = n := by omega
    simp only [List.isEmpty_nil, Option.isNone_none, Bool.and_self, if_true,
      decide_eq_false negative, Bool.false_eq_true, if_false, value]

end FeedIngest.JsonNumber
