import FeedIngest.Proofs.Text.Decimal
import FeedIngest.Proofs.Time.Calendar
import FeedIngest.Time.Rfc3339

/-!
# Reading written timestamps

The clock reading of a moment is a reading of that moment, leap seconds included. Its text is read
back by the relaxed reader: each number ends where its digits are used up or another character
follows.
-/

set_option autoImplicit false

namespace FeedIngest.Time

/-! ## Clock readings -/

private theorem Timestamp.of?_parts (t : Timestamp) : of? t.seconds t.nanos = some t := by
  unfold of?
  rw [dif_pos ⟨t.first_le, t.le_last, t.nanos_lt, t.leap⟩]

/-- A moment is the one that its clock reading shows. -/
theorem Timestamp.ofClock?_toClock (t : Timestamp) : ofClock? t.toClock = some t := by
  have first : -96465292 ≤ t.seconds / 86400 := by
    have := t.first_le
    unfold firstSecond at this
    omega
  have last : t.seconds / 86400 ≤ 95026236 := by
    have := t.le_last
    unfold lastSecond at this
    omega
  obtain ⟨fromYear, toYear⟩ := Date.year_ofDayNumber first last
  have bound := t.nanos_lt
  unfold ofClock? toClock
  simp only [Date.isValid_ofDayNumber, Date.dayNumber_ofDayNumber, firstYear, lastYear, fromYear,
    toYear]
  generalize isOfDay : (t.seconds % 86400).toNat = ofDay
  by_cases isLeap : 1000000000 ≤ t.nanos
  · have ends := t.leap isLeap
    have seconds :
        t.seconds / 86400 * 86400 + (ofDay / 3600 * 3600 + ofDay / 60 % 60 * 60 + 59 : Nat) - 0 =
        t.seconds := by omega
    have nanos : t.nanos - 1000000000 + 1000000000 = t.nanos := by omega
    simp only [isLeap, if_true]
    rw [if_pos, seconds, nanos, of?_parts]
    simp only [Bool.and_eq_true, decide_eq_true_eq, true_and]
    omega
  · have seconds : t.seconds / 86400 * 86400 +
        (ofDay / 3600 * 3600 + ofDay / 60 % 60 * 60 + ofDay % 60 : Nat) - 0 = t.seconds := by omega
    have noLeap : ofDay % 60 ≠ 60 := by omega
    simp only [isLeap, if_false, noLeap]
    rw [if_pos, seconds, of?_parts]
    simp only [Bool.and_eq_true, decide_eq_true_eq, true_and]
    omega

namespace Rfc3339

open Text

variable {rest : List Char}

/-! ## Numbers -/

/-- What may stand behind digits. -/
def EndsDigits : List Char → Prop
  | c :: _ => isDigit c = false
  | [] => True

theorem isBlank_of_isDigit {c : Char} (digit : isDigit c = true) : isBlank c = false := by
  simp only [isDigit, Bool.and_eq_true, decide_eq_true_eq, Char.le_def,
      UInt32.le_iff_toNat_le] at digit
  have lower : 48 ≤ c.toNat := digit.1
  have upper : c.toNat ≤ 57 := digit.2
  simp [isBlank]
  omega

private theorem number?_digits {least most : Nat} {ds : List Char}
    (plain : ∀ c ∈ ds, isDigit c = true) (long : least ≤ ds.length) (short : ds.length ≤ most)
    (ends : ds.length = most ∨ EndsDigits rest) :
    number? least most (ds ++ rest) = some (digitsValue ds, rest) := by
  have none : (rest.take (most - ds.length)).takeWhile isDigit = [] := by
    rcases ends with rfl | ends
    · simp
    · cases rest with
      | nil => simp
      | cons c rest =>
        cases most - ds.length with
        | zero => rfl
        | succ more =>
          have ends : isDigit c = false := ends
          rw [List.take_succ_cons, List.takeWhile_cons, ends]
          rfl
  unfold number?
  rw [List.take_append, List.take_of_length_le short, List.takeWhile_append_of_pos plain, none,
    List.append_nil]
  simp [Nat.not_lt.mpr long]

theorem number?_padded {least most width n : Nat} (long : least ≤ width)
    (short : (padded width n).length ≤ most)
    (ends : (padded width n).length = most ∨ EndsDigits rest) :
    number? least most (padded width n ++ rest) = some (n, rest) := by
  have enough := Nat.le_trans long (le_padded_length width n)
  have read := number?_digits (fun _ => padded_isDigit) enough short ends
  rwa [digitsValue_padded] at read

theorem padded_begins (width n : Nat) :
    ∃ c more, padded width n = c :: more ∧ isDigit c = true := by
  obtain ⟨c, more, is⟩ := List.exists_cons_of_ne_nil (l := padded width n)
    (List.append_ne_nil_of_right_ne_nil _ (digits_ne_nil n))
  exact ⟨c, more, is, padded_isDigit (is ▸ List.mem_cons_self)⟩

private theorem short?_padded {n : Nat} (small : n < 100) :
    short? (padded 2 n ++ rest) = some (n, rest) := by
  obtain ⟨c, more, is, digit⟩ := padded_begins 2 n
  have length : (padded 2 n).length = 2 := padded_length (by decide) small
  have trimmed : trimStart (padded 2 n ++ rest) = padded 2 n ++ rest := by
    rw [is, List.cons_append, trimStart, List.dropWhile_cons, isBlank_of_isDigit digit]
    rfl
  rw [short?, trimmed]
  exact number?_padded (by decide) (Nat.le_of_eq length) (.inl length)

private theorem mark?_cons {c : Char} (visible : isBlank c = false) :
    mark? c (c :: rest) = some rest := by
  rw [mark?, trimStart, List.dropWhile_cons, visible]
  simp [char?]

/-! ## Years and fractions -/

theorem trimStart_cons {c : Char} (visible : isBlank c = false) :
    trimStart (c :: rest) = c :: rest := by
  rw [trimStart, List.dropWhile_cons, visible]
  rfl

private theorem year?_yearText (year : Int) :
    year? (trimStart (yearText year ++ '-' :: rest)) = some (year, '-' :: rest) := by
  have ends : EndsDigits ('-' :: rest) := rfl
  have signed : number? 1 (padded 4 year.natAbs ++ '-' :: rest).length
      (padded 4 year.natAbs ++ '-' :: rest) = some (year.natAbs, '-' :: rest) :=
    number?_padded (by decide) (by simp) (.inr ends)
  unfold yearText
  split
  · next plain =>
    have length : (padded 4 year.natAbs).length = 4 := padded_length (by decide) (by
      show year.natAbs < 10000
      omega)
    have read :
        number? 1 4 (padded 4 year.natAbs ++ '-' :: rest) = some (year.natAbs, '-' :: rest) :=
      number?_padded (by decide) (Nat.le_of_eq length) (.inr ends)
    obtain ⟨c, more, is, digit⟩ := padded_begins 4 year.natAbs
    have noMinus : c ≠ '-' := by
      rintro rfl
      cases digit
    have noPlus : c ≠ '+' := by
      rintro rfl
      cases digit
    have whole : (year.natAbs : Int) = year := by omega
    rw [is, List.cons_append] at read ⊢
    rw [trimStart_cons (isBlank_of_isDigit digit), year?, read]
    · exact congrArg (fun year => some (year, '-' :: rest)) whole
    · exact fun _ same => noMinus (List.cons.inj same).1
    · exact fun _ same => noPlus (List.cons.inj same).1
  · next far =>
    by_cases negative : year < 0
    · have whole : -(year.natAbs : Int) = year := by omega
      rw [if_pos negative, List.cons_append, trimStart_cons rfl, year?, signed]
      exact congrArg (fun year => some (year, '-' :: rest)) whole
    · have whole : (year.natAbs : Int) = year := by omega
      rw [if_neg negative, List.cons_append, trimStart_cons rfl, year?, signed]
      exact congrArg (fun year => some (year, '-' :: rest)) whole

private theorem fraction?_padded {width n : Nat} (positive : 0 < width) (within : width ≤ 9)
    (small : n < Nat.pow 10 width) (ends : EndsDigits rest) :
    fraction? (padded width n ++ rest) = some (n * Nat.pow 10 (9 - width), rest) := by
  have length := padded_length positive small
  have none : rest.takeWhile isDigit = [] := by
    cases rest with
    | nil => rfl
    | cons c rest =>
      have ends : isDigit c = false := ends
      rw [List.takeWhile_cons, ends]
      rfl
  have nonempty : (padded width n).isEmpty = false := by
    rw [List.isEmpty_eq_false_iff, ← List.length_pos_iff]
    omega
  have kept : (padded width n).take 9 = padded width n :=
    List.take_of_length_le (Nat.le_trans (Nat.le_of_eq length) within)
  unfold fraction?
  rw [List.takeWhile_append_of_pos fun _ => padded_isDigit, none, List.append_nil]
  simp [nonempty, kept, digitsValue_padded, length]

theorem optionalFraction?_fractionText {nanos : Nat} (small : nanos < 1000000000) :
    optionalFraction? (fractionText nanos ++ ['Z']) = some (nanos, ['Z']) := by
  have ends : EndsDigits ['Z'] := rfl
  unfold fractionText
  split
  · next zero =>
    rw [zero]
    rfl
  split
  · next millis =>
    have whole : nanos / 1000000 * 1000000 = nanos := by omega
    show fraction? (padded 3 (nanos / 1000000) ++ ['Z']) = _
    rw [fraction?_padded (by decide) (by decide) (by show _ < 1000; omega) ends]
    exact congrArg (fun nanos => some (nanos, ['Z'])) whole
  split
  · next micros =>
    have whole : nanos / 1000 * 1000 = nanos := by omega
    show fraction? (padded 6 (nanos / 1000) ++ ['Z']) = _
    rw [fraction?_padded (by decide) (by decide) (by show _ < 1000000; omega) ends]
    exact congrArg (fun nanos => some (nanos, ['Z'])) whole
  · show fraction? (padded 9 nanos ++ ['Z']) = _
    rw [fraction?_padded (by decide) (by decide) small ends]
    exact congrArg (fun nanos => some (nanos, ['Z'])) (Nat.mul_one nanos)

/-! ## Whole texts -/

/-- A reading of universal time whose numbers have no more digits than the text gives them. -/
structure Regular (r : ClockReading) : Prop where
  month : r.date.month < 100
  day : r.date.day < 100
  hour : r.hour < 100
  minute : r.minute < 100
  second : r.second < 100
  nanos : r.nanos < 1000000000
  offset : r.offset = 0

theorem toClock_regular (t : Timestamp) : Regular t.toClock := by
  have bounds : t.toClock.date.month ≤ 12 ∧ t.toClock.date.day ≤ 31 :=
    Date.bounds_of_isValid (Date.isValid_ofDayNumber _)
  have nanos := t.nanos_lt
  unfold Timestamp.toClock at bounds ⊢
  by_cases isLeap : 1000000000 ≤ t.nanos
  · simp only [isLeap, if_true] at bounds ⊢
    constructor <;> dsimp only <;> omega
  · simp only [isLeap, if_false] at bounds ⊢
    constructor <;> dsimp only <;> omega

private theorem parseRelaxed?_clockText {r : ClockReading} (regular : Regular r) :
    parseRelaxed? (clockText r) = Timestamp.ofClock? r := by
  obtain ⟨date, hour, minute, second, nanos, offset⟩ := r
  obtain ⟨month, day, hour, minute, second, nanos, rfl⟩ := regular
  have separator : ∀ cs, separator? ('T' :: cs) = some cs := fun _ => rfl
  have dash : ∀ cs, mark? '-' ('-' :: cs) = some cs := fun _ => mark?_cons rfl
  have colon : ∀ cs, mark? ':' (':' :: cs) = some cs := fun _ => mark?_cons rfl
  have zone : relaxedZone? (trimStart ['Z']) = some (0, []) := rfl
  simp only [parseRelaxed?, clockText, List.append_assoc, List.cons_append, Option.bind_eq_bind,
    Option.bind_some, year?_yearText, dash, colon, separator, zone, short?_padded month, short?_padded day,
    short?_padded hour, short?_padded minute, short?_padded second, optionalFraction?_fractionText nanos]
  rfl

/-- A moment is read back from its text. -/
theorem parseRelaxed?_render (t : Timestamp) : parseRelaxed? (render t).toList = some t := by
  rw [render, String.toList_ofList, parseRelaxed?_clockText (toClock_regular t),
    Timestamp.ofClock?_toClock]

/-! ## The strict form -/

private theorem number?_two {n : Nat} (small : n < 100) :
    number? 2 2 (padded 2 n ++ rest) = some (n, rest) := by
  have length : (padded 2 n).length = 2 := padded_length (by decide) small
  exact number?_padded (by decide) (Nat.le_of_eq length) (.inl length)

theorem yearText_of_four_digits {year : Int} (first : 0 ≤ year) (last : year ≤ 9999) :
    yearText year = padded 4 year.natAbs ∧ (padded 4 year.natAbs).length = 4 := by
  refine ⟨if_pos ⟨first, last⟩, padded_length (by decide) ?_⟩
  show year.natAbs < 10000
  omega

/-- A reading in a year of four digits is read back by the strict reader too. -/
theorem parse?_clockText {r : ClockReading} (regular : Regular r) (first : 0 ≤ r.date.year)
    (last : r.date.year ≤ 9999) : parse? (clockText r) = Timestamp.ofClock? r := by
  obtain ⟨⟨year, month, day⟩, hour, minute, second, nanos, offset⟩ := r
  obtain ⟨monthSmall, daySmall, hourSmall, minuteSmall, secondSmall, nanosSmall, rfl⟩ := regular
  obtain ⟨text, length⟩ := yearText_of_four_digits first last
  have whole : (year.natAbs : Int) = year := Int.natAbs_of_nonneg first
  have years : ∀ rest, number? 4 4 (yearText year ++ rest) = some (year.natAbs, rest) := by
    intro rest
    rw [text]
    exact number?_padded (Nat.le_refl 4) (Nat.le_of_eq length) (.inl length)
  have char : ∀ c cs, char? c (c :: cs) = some cs := fun c cs => if_pos rfl
  have separator : ∀ cs, separator? ('T' :: cs) = some cs := fun _ => rfl
  have zone : zone? (char? ':') ['Z'] = some (0, []) := rfl
  simp only [parse?, clockText, List.append_assoc, List.cons_append, Option.bind_eq_bind,
    Option.bind_some, years, char, separator, zone, number?_two monthSmall, number?_two daySmall,
    number?_two hourSmall, number?_two minuteSmall, number?_two secondSmall,
    optionalFraction?_fractionText nanosSmall, whole]
  rfl

end Rfc3339

end FeedIngest.Time
