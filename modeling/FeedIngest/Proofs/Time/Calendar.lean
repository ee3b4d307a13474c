import FeedIngest.Time.Calendar

/-!
# Dates of day numbers

A day number is divided into eras, centuries, cycles of four years and years that begin in March.
Whatever is left over is the day of such a year, and tells the month. The date that is found exists
and has the day number.
-/

set_option autoImplicit false

namespace FeedIngest.Time.Date

/-- The date of a day of a year that begins in March; the first day is number zero. -/
def ofMarch (year : Int) (dayOfYear : Nat) : Date :=
  let month := (5 * dayOfYear + 2) / 153
  if month < 10 then ⟨year, month + 3, dayOfYear - daysBefore month + 1⟩
  else ⟨year + 1, month - 9, dayOfYear - daysBefore month + 1⟩

/-- The parts of a day number. Only the last year of a cycle has a leap day, and the last cycle of a
century only if it ends an era. -/
structure Parts (n : Int) (era : Int) (century cycle year dayOfYear : Nat) : Prop where
  century_le : century ≤ 3
  cycle_le : cycle ≤ 24
  year_le : year ≤ 3
  leap : dayOfYear ≤ 364 ∨ dayOfYear = 365 ∧ year = 3 ∧ (cycle = 24 → century = 3)
  sum : n + 719468 = 146097 * era + (36524 * century + 1461 * cycle + 365 * year + dayOfYear : Nat)

theorem exists_parts (n : Int) : ∃ era century cycle year dayOfYear,
    Parts n era century cycle year dayOfYear ∧
      ofDayNumber n = ofMarch (400 * era + (100 * century + 4 * cycle + year : Nat)) dayOfYear := by
  refine ⟨(n + 719468) / 146097, _, _, _, _, ?_, rfl⟩
  obtain ⟨dayOfEra, is⟩ : ∃ dayOfEra, dayOfEra = ((n + 719468) % 146097).toNat := ⟨_, rfl⟩
  have inEra : dayOfEra < 146097 := by omega
  rw [← is]
  obtain ⟨century, isCentury⟩ : ∃ century, century = min 3 (dayOfEra / 36524) := ⟨_, rfl⟩
  rw [← isCentury]
  obtain ⟨dayOfCentury, isDay⟩ : ∃ day, day = dayOfEra - century * 36524 := ⟨_, rfl⟩
  rw [← isDay]
  have inCentury : dayOfCentury < 36524 ∨ dayOfCentury = 36524 ∧ century = 3 := by omega
  refine ⟨by omega, by omega, by omega, ?_, ?_⟩
  · omega
  · omega

theorem daysBefore_le {dayOfYear : Nat} : daysBefore ((5 * dayOfYear + 2) / 153) ≤ dayOfYear := by
  unfold daysBefore
  omega

theorem dayNumber_ofMarch (year : Int) {dayOfYear : Nat} (within : dayOfYear ≤ 365) :
    (ofMarch year dayOfYear).dayNumber =
      365 * year + year / 4 - year / 100 + year / 400 + dayOfYear - 719468 := by
  have begun := @daysBefore_le dayOfYear
  unfold ofMarch
  generalize isMonth : (5 * dayOfYear + 2) / 153 = month at begun
  dsimp only
  split
  · next early =>
    have later : ¬month + 3 ≤ 2 := by omega
    have same : (month + 3 + 9) % 12 = month := by omega
    simp only [dayNumber, later, if_false, same]
    omega
  · next late =>
    have early : month - 9 ≤ 2 := by omega
    have same : (month - 9 + 9) % 12 = month := by omega
    simp only [dayNumber, early, if_true, same]
    omega

/-- The date of a day number has that number. -/
theorem dayNumber_ofDayNumber (n : Int) : (ofDayNumber n).dayNumber = n := by
  obtain ⟨era, century, cycle, year, dayOfYear, parts, is⟩ := exists_parts n
  obtain ⟨hCentury, hCycle, hYear, leap, sum⟩ := parts
  rw [is, dayNumber_ofMarch _ (by omega)]
  omega

/-! ## Dates that exist -/

private theorem daysInMonth_eq (year : Int) {month : Nat} (early : month < 10) :
    daysInMonth year (month + 3) = daysBefore (month + 1) - daysBefore month := by
  match month, early with
  | 0, _ | 1, _ | 2, _ | 3, _ | 4, _ | 5, _ | 6, _ | 7, _ | 8, _ | 9, _ => rfl

private theorem isValid_ofMarch {year : Int} {dayOfYear : Nat}
    (within : dayOfYear ≤ 364 ∨ dayOfYear = 365 ∧ isLeapYear (year + 1) = true) :
    (ofMarch year dayOfYear).isValid = true := by
  have begun := @daysBefore_le dayOfYear
  have ends : dayOfYear < daysBefore ((5 * dayOfYear + 2) / 153 + 1) := by
    unfold daysBefore
    omega
  unfold ofMarch
  generalize isMonth : (5 * dayOfYear + 2) / 153 = month at begun ends
  dsimp only
  split
  · next early =>
    simp only [isValid, daysInMonth_eq year early, Bool.and_eq_true, decide_eq_true_eq]
    omega
  · next late =>
    obtain rfl | rfl : month = 10 ∨ month = 11 := by omega
    · show (decide (1 ≤ dayOfYear - daysBefore 10 + 1) &&
        decide (dayOfYear - daysBefore 10 + 1 ≤ 31)) = true
      unfold daysBefore at begun ends ⊢
      simp only [Bool.and_eq_true, decide_eq_true_eq]
      omega
    · show (decide (1 ≤ dayOfYear - daysBefore 11 + 1) &&
        decide (dayOfYear - daysBefore 11 + 1 ≤ if isLeapYear (year + 1) then 29 else 28)) = true
      unfold daysBefore at begun ⊢
      simp only [Bool.and_eq_true, decide_eq_true_eq]
      rcases within with short | ⟨_, leap⟩
      · split <;> omega
      · rw [if_pos leap]
        omega

/-- The date of a day number exists. -/
theorem isValid_ofDayNumber (n : Int) : (ofDayNumber n).isValid = true := by
  obtain ⟨era, century, cycle, year, dayOfYear, parts, is⟩ := exists_parts n
  rw [is]
  refine isValid_ofMarch ?_
  rcases parts.leap with short | ⟨last, ends, whole⟩
  · exact .inl short
  · refine .inr ⟨last, ?_⟩
    have within := parts.cycle_le
    have withinToo := parts.century_le
    simp only [isLeapYear, Bool.and_eq_true, Bool.or_eq_true, beq_iff_eq, bne_iff_ne]
    omega

private theorem daysInMonth_le (year : Int) (month : Nat) : daysInMonth year month ≤ 31 := by
  unfold daysInMonth
  split
  case h_12 => split <;> decide
  all_goals decide

private theorem daysInMonth_of_lt (year : Int) {month : Nat} (late : 12 < month) :
    daysInMonth year month = 0 := by
  match month, late with
  | _ + 13, _ => rfl

theorem bounds_of_isValid {d : Date} (valid : d.isValid = true) : d.month ≤ 12 ∧ d.day ≤ 31 := by
  obtain ⟨least, within⟩ : 1 ≤ d.day ∧ d.day ≤ daysInMonth d.year d.month := by
    simpa [isValid] using valid
  refine ⟨?_, Nat.le_trans within (daysInMonth_le _ _)⟩
  refine Nat.not_lt.mp fun late => ?_
  rw [daysInMonth_of_lt _ late] at within
  omega

/-- The days from the first one on and up to the last one have years from the first one on and up to
the last one. -/
theorem year_ofDayNumber {n : Int} (first : -96465292 ≤ n) (last : n ≤ 95026236) :
    -262143 ≤ (ofDayNumber n).year ∧ (ofDayNumber n).year ≤ 262142 := by
  have number := dayNumber_ofDayNumber n
  obtain ⟨era, century, cycle, year, dayOfYear, parts, is⟩ := exists_parts n
  have within : dayOfYear ≤ 365 := by
    have := parts.leap
    omega
  rw [is, dayNumber_ofMarch _ within] at number
  rw [is]
  generalize 400 * era + ((100 * century + 4 * cycle + year : Nat) : Int) = march at number ⊢
  have years : -262144 ≤ march ∧ march ≤ 262142 := by omega
  unfold ofMarch
  dsimp only
  split
  · next early =>
    have : march ≠ -262144 := by
      rintro rfl
      omega
    dsimp only
    omega
  · next late =>
    have : march ≠ 262142 := by
      rintro rfl
      omega
    dsimp only
    omega

end FeedIngest.Time.Date
