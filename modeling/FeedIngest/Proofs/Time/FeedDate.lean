import FeedIngest.Proofs.Text.Blank
import FeedIngest.Proofs.Time.Rfc3339
import FeedIngest.Syndication.Rss

/-!
# Dates of written items

An item is written with a date in the form of a timestamp, and such a date is no date of a mail
header: there a day has two digits at most, and a blank follows it.
-/

set_option autoImplicit false

namespace FeedIngest.Time

open Text

private theorem asciiLower_digit {c : Char} (digit : isDigit c = true) : asciiLower c = c := by
  have bounds : '0' ≤ c ∧ c ≤ '9' := by simpa [isDigit] using digit
  unfold asciiLower
  rw [if_neg]
  rintro ⟨upper, _⟩
  have upper : 65 ≤ c.toNat := UInt32.le_iff_toNat_le.mp (Char.le_def.mp upper)
  have lower : c.toNat ≤ 57 := UInt32.le_iff_toNat_le.mp (Char.le_def.mp bounds.2)
  omega

namespace MailDate

variable {a b c : Char} {rest : List Char}

private theorem weekday?_digit (digit : isDigit a = true) :
    weekday? (a :: rest) = some (none, a :: rest) := by
  have same := asciiLower_digit digit
  have none : shortName? weekdayNames (a :: rest) = none := by
    have letters : ∀ name ∈ weekdayNames, (!name.toList.head?.any isDigit) = true :=
      List.all_eq_true.mp rfl
    have other : ∀ name ∈ weekdayNames,
        (name.toList == ((a :: rest).take 3).map asciiLower) = false := by
      intro name member
      apply beq_eq_false_iff_ne.mpr
      intro equal
      have noDigit := letters name member
      rw [equal, List.take_succ_cons, List.map_cons, same, List.head?_cons, Option.any_some,
        digit] at noDigit
      cases noDigit
    rw [shortName?, List.findIdx?_eq_none_iff.mpr other]
    rfl
  rw [weekday?, none]

/-- No day of a mail header has three digits. -/
theorem parse?_digits (first : isDigit a = true) (second : isDigit b = true)
    (third : isDigit c = true) : parse? (a :: b :: c :: rest) = none := by
  have visible := Rfc3339.isBlank_of_isDigit first
  have trimmed : trimStart (a :: b :: c :: rest) = a :: b :: c :: rest :=
    Rfc3339.trimStart_cons visible
  have day : Rfc3339.number? 1 2 (a :: b :: c :: rest) = some (digitsValue [a, b], c :: rest) := by
    simp [Rfc3339.number?, first, second]
  have blanks : blanks? (c :: rest) = none := by
    rw [blanks?, Rfc3339.isBlank_of_isDigit third]
    rfl
  simp only [parse?, trimmed, weekday?_digit first, day, blanks, bind, Option.bind_some,
    Option.bind_none]

end MailDate

namespace Rfc3339

def InPlainYear (t : Timestamp) : Prop := 0 ≤ t.toClock.date.year ∧ t.toClock.date.year ≤ 9999

variable {t : Timestamp}

theorem clockText_begins (plain : InPlainYear t) : ∃ a b c rest,
    clockText t.toClock = a :: b :: c :: rest ∧ isDigit a = true ∧ isDigit b = true ∧
      isDigit c = true := by
  obtain ⟨text, length⟩ := yearText_of_four_digits plain.1 plain.2
  have digits : ∀ e ∈ padded 4 t.toClock.date.year.natAbs, isDigit e = true :=
    fun _ => padded_isDigit
  have whole : ∃ more, clockText t.toClock = padded 4 t.toClock.date.year.natAbs ++ more := by
    simp only [clockText, text, List.append_assoc]
    exact ⟨_, rfl⟩
  obtain ⟨more, whole⟩ := whole
  generalize padded 4 t.toClock.date.year.natAbs = year at length digits whole
  rcases year with _ | ⟨a, _ | ⟨b, _ | ⟨c, year⟩⟩⟩
  case cons.cons.cons =>
    exact ⟨a, b, c, year ++ more, whole, digits a (by simp), digits b (by simp), digits c (by simp)⟩
  all_goals simp at length

theorem trim_clockText (plain : InPlainYear t) :
    trim (clockText t.toClock) = clockText t.toClock := by
  obtain ⟨a, b, c, rest, begins, digit, _⟩ := clockText_begins plain
  have start : trimStart (clockText t.toClock) = clockText t.toClock := by
    rw [begins]
    exact trimStart_cons (isBlank_of_isDigit digit)
  have ends : ∃ front, clockText t.toClock = front ++ ['Z'] := ⟨_, rfl⟩
  obtain ⟨front, ends⟩ := ends
  rw [trim, start, trimEnd_eq_rdropWhile, ends]
  exact List.rdropWhile_concat_neg isBlank front 'Z' (by decide)

theorem render_normal (plain : InPlainYear t) :
    Syndication.Trimmed (render t) ∧ render t ≠ "" := by
  constructor
  · rw [Syndication.Trimmed, render, String.toList_ofList, trim_clockText plain]
  · obtain ⟨a, b, c, rest, text, _⟩ := clockText_begins plain
    rw [render, text]
    exact fun empty => List.cons_ne_nil _ _ (String.ofList_eq_empty_iff.mp empty)

theorem date?_render (plain : InPlainYear t) : Syndication.Rss.date? (render t) = some t := by
  obtain ⟨a, b, c, rest, text, first, second, third⟩ := clockText_begins plain
  have noMail : MailDate.parse? (clockText t.toClock) = none := by
    rw [text]
    exact MailDate.parse?_digits first second third
  rw [Syndication.Rss.date?, render, String.toList_ofList, trim_clockText plain, noMail,
    parse?_clockText (toClock_regular t) plain.1 plain.2, Timestamp.ofClock?_toClock]
  rfl

end Rfc3339

end FeedIngest.Time
