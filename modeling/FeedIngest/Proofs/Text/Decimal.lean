import FeedIngest.Text.Blank

/-!
# Decimal text

Reading the digits of a number gives the number back, so two numbers never share their decimal
text. A digit is none of the signs that separate numbers.
-/

set_option autoImplicit false

namespace FeedIngest.Text

private theorem toNat_digit {n : Nat} (small : n < 10) : (Char.ofNat (48 + n)).toNat = 48 + n := by
  have valid : (48 + n).isValidChar := .inl (by omega)
  rw [Char.ofNat, dif_pos valid]
  rfl

private theorem digitValue_digit {n : Nat} (small : n < 10) :
    digitValue (Char.ofNat (48 + n)) = n := by
  simp only [digitValue, toNat_digit small]
  omega

theorem digitsValue_digits (n : Nat) : digitsValue (digits n) = n := by
  induction n using digits.induct with
  | case1 n small =>
    rw [digits, if_pos small]
    simp [digitsValue, digitValue_digit small]
  | case2 n large ih =>
    have last : n % 10 < 10 := Nat.mod_lt _ (by decide)
    rw [digits, if_neg large]
    simp only [digitsValue, List.foldl_append, List.foldl_cons, List.foldl_nil] at ih ⊢
    rw [ih, digitValue_digit last]
    omega

theorem digits_injective {m n : Nat} (same : digits m = digits n) : m = n := by
  rw [← digitsValue_digits m, same, digitsValue_digits]

theorem digit_bounds {n : Nat} {c : Char} (member : c ∈ digits n) :
    48 ≤ c.toNat ∧ c.toNat < 58 := by
  induction n using digits.induct with
  | case1 n small =>
    rw [digits, if_pos small, List.mem_singleton] at member
    rw [member, toNat_digit small]
    omega
  | case2 n large ih =>
    have last : n % 10 < 10 := Nat.mod_lt _ (by decide)
    rw [digits, if_neg large, List.mem_append, List.mem_singleton] at member
    rcases member with member | rfl
    · exact ih member
    · rw [toNat_digit last]
      omega

theorem colon_not_mem_digits (n : Nat) : ':' ∉ digits n := by
  intro member
  have bounds := digit_bounds member
  exact absurd bounds.2 (by decide)

theorem digit_isDigit {n : Nat} {c : Char} (member : c ∈ digits n) : isDigit c = true := by
  obtain ⟨least, greatest⟩ := digit_bounds member
  have lower : '0' ≤ c := Char.le_def.mpr (UInt32.le_iff_toNat_le.mpr least)
  have upper : c ≤ '9' := Char.le_def.mpr (UInt32.le_iff_toNat_le.mpr (Nat.le_of_lt_succ greatest))
  simp [isDigit, lower, upper]

theorem digits_ne_nil (n : Nat) : digits n ≠ [] := by
  rw [digits]
  split <;> simp

/-- No number but zero begins with a zero. -/
theorem digits_head_ne {n : Nat} (positive : 0 < n) {c : Char} {more : List Char}
    (begins : digits n = c :: more) : c ≠ '0' := by
  induction n using digits.induct generalizing more with
  | case1 n small =>
    rw [digits, if_pos small] at begins
    obtain ⟨rfl, _⟩ := List.cons.inj begins
    intro zero
    have value := congrArg Char.toNat zero
    rw [toNat_digit small] at value
    have : ('0' : Char).toNat = 48 := rfl
    omega
  | case2 n large ih =>
    rw [digits, if_neg large] at begins
    cases first : digits (n / 10) with
    | nil => exact absurd first (digits_ne_nil _)
    | cons d others =>
      rw [first, List.cons_append] at begins
      obtain ⟨rfl, _⟩ := List.cons.inj begins
      exact ih (by omega) first

/-- A zero that begins a number is all of it. -/
theorem digits_ne_zero_cons (n : Nat) {c : Char} {more : List Char} :
    digits n ≠ '0' :: c :: more := by
  intro begins
  cases n with
  | zero => simp [digits] at begins
  | succ n => exact digits_head_ne (Nat.succ_pos n) begins rfl

/-! ## Padding -/

private theorem digits_length_le {n width : Nat} (positive : 0 < width)
    (small : n < Nat.pow 10 width) :
    (digits n).length ≤ width := by
  induction n using digits.induct generalizing width with
  | case1 n below =>
    rw [digits, if_pos below]
    exact positive
  | case2 n large ih =>
    rw [digits, if_neg large, List.length_append, List.length_singleton]
    obtain ⟨less, rfl⟩ := Nat.exists_eq_add_of_lt positive
    rw [Nat.zero_add] at small
    change n < Nat.pow 10 less * 10 at small
    have more : 0 < less := by
      rcases Nat.eq_zero_or_pos less with rfl | more
      · exact absurd small large
      · exact more
    have := ih more (by omega)
    omega

theorem padded_length {n width : Nat} (positive : 0 < width) (small : n < Nat.pow 10 width) :
    (padded width n).length = width := by
  have := digits_length_le positive small
  simp only [padded, List.length_append, List.length_replicate]
  omega

theorem le_padded_length (width n : Nat) : width ≤ (padded width n).length := by
  simp only [padded, List.length_append, List.length_replicate]
  omega

theorem padded_isDigit {width n : Nat} {c : Char} (member : c ∈ padded width n) :
    isDigit c = true := by
  rcases List.mem_append.mp member with zero | digit
  · rw [List.eq_of_mem_replicate zero]
    rfl
  · exact digit_isDigit digit

/-- Zeros before a number do not change its value. -/
theorem digitsValue_padded (width n : Nat) : digitsValue (padded width n) = n := by
  have zeros : ∀ count cs, digitsValue (List.replicate count '0' ++ cs) = digitsValue cs := by
    intro count cs
    induction count with
    | zero => rfl
    | succ count ih => exact ih
  rw [padded, zeros, digitsValue_digits]

end FeedIngest.Text
