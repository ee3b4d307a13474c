import FeedIngest.Web.Body

/-!
# Bodies as a whole

Whether a body is read does not depend on how it was cut into pieces: all of its pieces together
are held against the limit, and so is the length that was announced. Nor is more than the limit
ever kept while the pieces come in.
-/

set_option autoImplicit false

namespace FeedIngest.Web

def Response.Exceeds (limit : Nat) (r : Response) : Prop :=
  r.announced.any (limit < ·) = true ∨ limit < r.pieces.flatten.length

private theorem gather_of_fits {limit : Nat} {read : List UInt8} {pieces : List (List UInt8)}
    (fits : (read ++ pieces.flatten).length ≤ limit) :
    gather limit read pieces = .ok (read ++ pieces.flatten) := by
  induction pieces generalizing read with
  | nil => simp [gather]
  | cons piece pieces ih =>
    rw [List.flatten_cons, ← List.append_assoc] at fits ⊢
    have room : ¬limit < read.length + piece.length := by
      simp only [List.length_append] at fits
      omega
    rw [gather, if_neg room]
    exact ih fits

private theorem gather_of_exceeds {limit : Nat} {read : List UInt8} {pieces : List (List UInt8)}
    (fits : read.length ≤ limit) (exceeds : limit < (read ++ pieces.flatten).length) :
    gather limit read pieces = .error (.tooLarge limit) := by
  induction pieces generalizing read with
  | nil =>
    simp only [List.flatten_nil, List.append_nil] at exceeds
    omega
  | cons piece pieces ih =>
    unfold gather
    split
    · rfl
    · next room =>
      apply ih
      · simp only [List.length_append]
        omega
      · rwa [List.append_assoc, ← List.flatten_cons]

namespace Response

variable {limit : Nat} {r : Response}

theorem readCapped_of_exceeds (exceeds : r.Exceeds limit) :
    r.readCapped limit = .error (.tooLarge limit) := by
  unfold readCapped
  split
  · rfl
  · next announced =>
    have longer : limit < ([] ++ r.pieces.flatten).length := exceeds.resolve_left announced
    rw [gather_of_exceeds (Nat.zero_le _) longer]
    rfl

theorem readCapped_of_fits (fits : ¬r.Exceeds limit) :
    r.readCapped limit = r.ending.close r.pieces.flatten := by
  obtain ⟨announced, short⟩ := not_or.mp fits
  have within : ([] ++ r.pieces.flatten).length ≤ limit := Nat.not_lt.mp short
  rw [readCapped, if_neg announced, gather_of_fits within]
  rfl

theorem not_exceeds_iff : ¬r.Exceeds limit ↔
    (∀ length ∈ r.announced, length ≤ limit) ∧ r.pieces.flatten.length ≤ limit := by
  unfold Exceeds
  rw [not_or, Nat.not_lt]
  refine and_congr_left' ?_
  cases r.announced <;> simp

private theorem readCapped_congr {other : Response} (announced : other.announced = r.announced)
    (body : other.pieces.flatten = r.pieces.flatten) (ending : other.ending = r.ending) :
    other.readCapped limit = r.readCapped limit := by
  have alike : other.Exceeds limit ↔ r.Exceeds limit := by
    unfold Exceeds
    rw [announced, body]
  by_cases exceeds : r.Exceeds limit
  · rw [readCapped_of_exceeds exceeds, readCapped_of_exceeds (alike.mpr exceeds)]
  · rw [readCapped_of_fits exceeds, readCapped_of_fits (mt alike.mp exceeds), body, ending]

end Response

/-! ## While the pieces come in -/

/-- How far the reading of a body has come: what is kept of it and what is still to come, or what
it was read as. -/
inductive Intake where
  | underway (kept : List UInt8) (coming : List (List UInt8))
  | ended (result : Except BodyFault (List UInt8))

namespace Intake

def kept : Intake → List UInt8
  | underway kept _ => kept
  | ended (.ok body) => body
  | ended (.error _) => []

def next (limit : Nat) (ending : BodyEnd) : Intake → Intake
  | underway kept [] => ended (ending.close kept)
  | underway kept (piece :: coming) =>
    if limit < kept.length + piece.length then ended (.error (.tooLarge limit))
    else underway (kept ++ piece) coming
  | ended result => ended result

def result (limit : Nat) (ending : BodyEnd) : Intake → Except BodyFault (List UInt8)
  | underway kept coming => (gather limit kept coming).bind ending.close
  | ended result => result

def left : Intake → Nat
  | underway _ coming => coming.length + 1
  | ended _ => 0

variable {limit : Nat} {ending : BodyEnd} {body kept piece : List UInt8}
  {coming : List (List UInt8)} {intake : Intake}

theorem next_of_exceeds (exceeds : limit < kept.length + piece.length) :
    (underway kept (piece :: coming)).next limit ending = ended (.error (.tooLarge limit)) :=
  if_pos exceeds

theorem next_of_fits (fits : ¬limit < kept.length + piece.length) :
    (underway kept (piece :: coming)).next limit ending = underway (kept ++ piece) coming :=
  if_neg fits

private theorem result_next (intake : Intake) :
    (intake.next limit ending).result limit ending = intake.result limit ending := by
  cases intake with
  | underway kept coming =>
    cases coming with
    | nil => rfl
    | cons piece coming =>
      by_cases exceeds : limit < kept.length + piece.length
      · simp only [next_of_exceeds exceeds, result, gather, if_pos exceeds]
        rfl
      · simp only [next_of_fits exceeds, result, gather, if_neg exceeds]
  | ended result => rfl

private theorem left_next (limit : Nat) (ending : BodyEnd) (intake : Intake) :
    (intake.next limit ending).left ≤ intake.left - 1 := by
  cases intake with
  | underway kept coming =>
    cases coming with
    | nil => exact Nat.le_refl 0
    | cons piece coming =>
      by_cases exceeds : limit < kept.length + piece.length
      · rw [next_of_exceeds exceeds]
        exact Nat.zero_le _
      · rw [next_of_fits exceeds]
        exact Nat.le_refl _
  | ended result => exact Nat.le_refl 0

private theorem eq_ended_of_left (done : intake.left = 0) :
    intake = ended (intake.result limit ending) := by
  cases intake with
  | underway kept coming => cases done
  | ended result => rfl

/-- What is kept is the body as far as it has come in, and no longer than the limit. -/
inductive Sound (limit : Nat) (body : List UInt8) : Intake → Prop where
  | underway {kept : List UInt8} {coming : List (List UInt8)}
      (whole : kept ++ coming.flatten = body) (short : kept.length ≤ limit) :
      Sound limit body (.underway kept coming)
  | read (short : body.length ≤ limit) : Sound limit body (.ended (.ok body))
  | refused {fault : BodyFault} : Sound limit body (.ended (.error fault))

private theorem Sound.next (sound : Sound limit body intake) :
    Sound limit body (intake.next limit ending) := by
  cases sound with
  | @underway kept coming whole short =>
    cases coming with
    | nil =>
      obtain rfl : kept = body := by rwa [List.flatten_nil, List.append_nil] at whole
      cases ending with
      | complete => exact .read short
      | cut => exact .refused
      | unfinished => exact .refused
    | cons piece coming =>
      by_cases exceeds : limit < kept.length + piece.length
      · rw [next_of_exceeds exceeds]
        exact .refused
      · rw [next_of_fits exceeds]
        refine .underway ?_ ?_
        · rwa [List.append_assoc, ← List.flatten_cons]
        · rw [List.length_append]
          omega
  | read short => exact .read short
  | refused => exact .refused

private theorem Sound.kept_isPrefix (sound : Sound limit body intake) : intake.kept <+: body := by
  cases sound with
  | underway whole _ => exact ⟨_, whole⟩
  | read _ => exact List.prefix_rfl
  | refused => exact List.nil_prefix

private theorem Sound.kept_length_le (sound : Sound limit body intake) :
    intake.kept.length ≤ limit := by
  cases sound with
  | underway _ short => exact short
  | read short => exact short
  | refused => exact Nat.zero_le limit

end Intake

namespace Response

variable {limit : Nat} {r : Response}

def intake (limit : Nat) (r : Response) : Nat → Intake
  | 0 =>
    if r.announced.any (limit < ·) then .ended (.error (.tooLarge limit))
    else .underway [] r.pieces
  | count + 1 => (r.intake limit count).next limit r.ending

private theorem result_intake (count : Nat) :
    (r.intake limit count).result limit r.ending = r.readCapped limit := by
  induction count with
  | zero =>
    unfold intake readCapped
    split <;> rfl
  | succ count ih => rw [intake, Intake.result_next, ih]

private theorem left_intake (limit : Nat) (r : Response) (count : Nat) :
    (r.intake limit count).left ≤ r.pieces.length + 1 - count := by
  induction count with
  | zero =>
    unfold intake
    split
    · exact Nat.zero_le _
    · exact Nat.le_refl _
  | succ count ih =>
    have step := Intake.left_next limit r.ending (r.intake limit count)
    rw [intake]
    omega

private theorem intake_eq_ended {count : Nat} (past : r.pieces.length < count) :
    r.intake limit count = .ended (r.readCapped limit) := by
  have done : (r.intake limit count).left = 0 := by
    have left := left_intake limit r count
    omega
  rw [← result_intake count]
  exact Intake.eq_ended_of_left done

private theorem sound_intake (limit : Nat) (r : Response) (count : Nat) :
    (r.intake limit count).Sound limit r.pieces.flatten := by
  induction count with
  | zero =>
    unfold intake
    split
    · exact .refused
    · exact .underway (List.nil_append _) (Nat.zero_le limit)
  | succ count ih => exact ih.next

/-- A body that comes to its end is read exactly if neither its length nor the announced one
exceeds the limit. At any moment of the reading a beginning of the body is kept that is no longer
than the limit, and the reading comes to an end. How the body was cut makes no difference. -/
theorem readCapped_as_whole (limit : Nat) (r : Response) :
    (r.ending = .complete → r.readCapped limit =
      if (∀ length ∈ r.announced, length ≤ limit) ∧ r.pieces.flatten.length ≤ limit then
        .ok r.pieces.flatten
      else .error (.tooLarge limit)) ∧
    (∀ count, (r.intake limit count).kept <+: r.pieces.flatten ∧
      (r.intake limit count).kept.length ≤ limit) ∧
    (∀ count, r.pieces.length < count → r.intake limit count = .ended (r.readCapped limit)) ∧
    ∀ other : Response, other.announced = r.announced →
      other.pieces.flatten = r.pieces.flatten → other.ending = r.ending →
      other.readCapped limit = r.readCapped limit := by
  refine ⟨fun complete => ?_, fun count => ?_, fun _ past => intake_eq_ended past,
    fun _ announced body ending => readCapped_congr announced body ending⟩
  · by_cases exceeds : r.Exceeds limit
    · rw [readCapped_of_exceeds exceeds, if_neg fun fits => not_exceeds_iff.mpr fits exceeds]
    · rw [readCapped_of_fits exceeds, complete, if_pos (not_exceeds_iff.mp exceeds)]
      rfl
  · have sound := sound_intake limit r count
    exact ⟨sound.kept_isPrefix, sound.kept_length_le⟩

/-- A body that is just as long as it may be, cut in three, one piece of which is empty. -/
def inThree : Response := ⟨200, [], some 3, [[0x61], [], [0x62, 0x63]], .complete⟩

def inOne : Response := ⟨200, [], some 3, [[0x61, 0x62, 0x63]], .complete⟩

theorem readCapped_in_three :
    inThree.ending = .complete ∧
    inThree.readCapped 3 = .ok [0x61, 0x62, 0x63] ∧
    inThree.readCapped 2 = .error (.tooLarge 2) ∧
    (inThree.intake 3 2).kept.length ≤ 3 ∧
    inThree.intake 3 4 = .ended (.ok [0x61, 0x62, 0x63]) ∧
    inOne.pieces.flatten = inThree.pieces.flatten ∧
    inOne.readCapped 3 = inThree.readCapped 3 := by
  obtain ⟨fits, keeps, ends, uncut⟩ := readCapped_as_whole 3 inThree
  obtain ⟨exceeds, _⟩ := readCapped_as_whole 2 inThree
  have read : inThree.readCapped 3 = .ok [0x61, 0x62, 0x63] := (fits rfl).trans rfl
  have refused : inThree.readCapped 2 = .error (.tooLarge 2) := (exceeds rfl).trans rfl
  have last : inThree.intake 3 4 = .ended (inThree.readCapped 3) := ends 4 (by decide)
  rw [read] at last
  exact ⟨rfl, read, refused, (keeps 2).2, last, rfl, uncut inOne rfl rfl rfl⟩

end Response

end FeedIngest.Web
