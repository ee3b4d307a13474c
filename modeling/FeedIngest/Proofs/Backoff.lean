import Mathlib.Order.Bounds.Basic
import FeedIngest.Backoff

/-!
# What a repeated operation does

An operation is tried until an attempt is final or the budget is spent, whichever comes first. The
attempts are numbered from one without a gap, and between each two of them goes one delay. The law
is first stated for any state that attempts and delays change, by the course of events from the
first attempt to the last one; on the record of these events it says what the course is.
-/

set_option autoImplicit false

namespace FeedIngest.Backoff

open Decimal (Binary64)
open Time (Span)

variable {σ α : Type}

def Outcome.IsFinal : Outcome α → Prop
  | .ok _ => True
  | .transient _ => False
  | .permanent _ => True

theorem exists_transient {outcome : Outcome α} (notFinal : ¬outcome.IsFinal) :
    ∃ fault, outcome = .transient fault := by
  cases outcome with
  | ok => exact absurd trivial notFinal
  | transient fault => exact ⟨fault, rfl⟩
  | permanent => exact absurd trivial notFinal

/-- What is answered after so many attempts, the last of which ended so. -/
def answer (p : Backoff) : Nat → Outcome α → Except Fault α
  | 0, _ => .error (.retryExhausted 0 "no attempts allowed")
  | _ + 1, .ok value => .ok value
  | _ + 1, .permanent fault => .error fault
  | _ + 1, .transient fault => .error (.retryExhausted p.maxAttempts fault.message)

/-- The number of the last attempt: the budget, or the first final attempt if that is less. -/
def IsLast (p : Backoff) (outcome : Nat → Outcome α) (last : Nat) : Prop :=
  IsLeast {n | n = p.maxAttempts ∨ 0 < n ∧ (outcome n).IsFinal} last

theorem IsLast.congr {p : Backoff} {outcome other : Nat → Outcome α} {last : Nat}
    (isLast : p.IsLast outcome last) (same : ∀ n, 0 < n → outcome n = other n) :
    p.IsLast other last := by
  have alike : ∀ n, n = p.maxAttempts ∨ 0 < n ∧ (outcome n).IsFinal ↔
      n = p.maxAttempts ∨ 0 < n ∧ (other n).IsFinal := by
    refine fun n => or_congr_right (and_congr_right fun positive => ?_)
    rw [same n positive]
  exact ⟨(alike last).mp isLast.1, fun n member => isLast.2 ((alike n).mpr member)⟩

section Steps

variable {p : Backoff} {factor : Nat → JitterFactor} {attempt : Nat → σ → Outcome α × σ}
  {pause : Span → σ → σ} {book : State} {s : σ}

theorem isSteady_of_zero (zero : p.jitter.units = 0) : p.isSteady = true := by
  have within : p.jitter.isAboveOne = false := by
    rw [Binary64.isAboveOne, zero, decide_eq_false (Nat.not_lt_zero _), Bool.and_false]
  have none : (Binary64.zero false).units = 0 := by decide
  unfold isSteady Binary64.clampUnit
  rw [within]
  split
  · rw [none]; rfl
  · split
    · rw [none]; rfl
    · rw [if_neg Bool.false_ne_true, zero]; rfl

theorem jitteredDelay_of_steady (steady : p.isSteady = true) (drawn : JitterFactor) (n : Nat) :
    p.jitteredDelay drawn n = p.baseDelay n := by
  rw [jitteredDelay, if_pos steady]

theorem begin_of_lt (room : book.attempt < p.maxAttempts) :
    book.begin p = (some (book.attempt + 1), { book with attempt := book.attempt + 1 }) := by
  rw [State.begin, if_neg (Nat.not_le.mpr room)]

theorem begin_of_le (spent : p.maxAttempts ≤ book.attempt) : book.begin p = (none, book) := by
  rw [State.begin, if_pos spent]

theorem fail_of_lt (room : book.attempt < p.maxAttempts) (drawn : JitterFactor) :
    book.fail p drawn = (some (p.jitteredDelay drawn book.attempt),
      { book with nextBackoff := p.baseDelay (book.attempt + 1) }) := by
  rw [State.fail, if_neg (Nat.not_le.mpr room)]

theorem fail_of_le (spent : p.maxAttempts ≤ book.attempt) (drawn : JitterFactor) :
    book.fail p drawn = (none, book) := by
  rw [State.fail, if_pos spent]

theorem runFrom_of_le (spent : p.maxAttempts ≤ book.attempt) :
    p.runFrom factor attempt pause book s =
      (.error (.retryExhausted 0 "no attempts allowed"), s) := by
  rw [runFrom]
  split
  · rfl
  · next n book' begun =>
    rw [begin_of_le spent] at begun
    cases begun

theorem runFrom_of_lt (room : book.attempt < p.maxAttempts) :
    p.runFrom factor attempt pause book s =
      match attempt (book.attempt + 1) s with
      | (.ok value, s) => (.ok value, s)
      | (.permanent fault, s) => (.error fault, s)
      | (.transient fault, s) =>
        match State.fail ⟨book.attempt + 1, book.nextBackoff⟩ p (factor (book.attempt + 1)) with
        | (some delay, book) => p.runFrom factor attempt pause book (pause delay s)
        | (none, book) => (.error (.retryExhausted book.attempt fault.message), s) := by
  rw [runFrom]
  split
  · next begun =>
    rw [begin_of_lt room] at begun
    cases begun
  · next begun =>
    rw [begin_of_lt room] at begun
    cases begun
    cases tried : attempt (book.attempt + 1) s with
    | mk outcome after =>
      cases outcome with
      | ok value => rfl
      | permanent fault => rfl
      | transient fault =>
        dsimp only
        split <;> next failed => rw [failed]

/-- An attempt that is final is the last one. -/
theorem runFrom_of_final (room : book.attempt < p.maxAttempts)
    (final : (attempt (book.attempt + 1) s).1.IsFinal) :
    p.runFrom factor attempt pause book s =
      (p.answer (book.attempt + 1) (attempt (book.attempt + 1) s).1,
        (attempt (book.attempt + 1) s).2) := by
  rw [runFrom_of_lt room]
  cases tried : attempt (book.attempt + 1) s with
  | mk outcome after =>
    rw [tried] at final
    cases outcome with
    | ok value => rfl
    | permanent fault => rfl
    | transient fault => cases final

/-- A transient failure of the last attempt is told with its text. -/
theorem runFrom_of_spent (spends : book.attempt + 1 = p.maxAttempts) {fault : Fault}
    (fails : (attempt (book.attempt + 1) s).1 = .transient fault) :
    p.runFrom factor attempt pause book s =
      (.error (.retryExhausted p.maxAttempts fault.message), (attempt (book.attempt + 1) s).2) := by
  rw [runFrom_of_lt (Nat.lt_of_succ_le (Nat.le_of_eq spends))]
  cases tried : attempt (book.attempt + 1) s with
  | mk outcome after =>
    rw [tried] at fails
    cases fails
    rw [fail_of_le (Nat.le_of_eq spends.symm), ← spends]

/-- After another transient failure there is a delay and then the next attempt. -/
theorem runFrom_of_transient (room : book.attempt + 1 < p.maxAttempts) {fault : Fault}
    (fails : (attempt (book.attempt + 1) s).1 = .transient fault) :
    p.runFrom factor attempt pause book s =
      p.runFrom factor attempt pause ⟨book.attempt + 1, p.baseDelay (book.attempt + 2)⟩
        (pause (p.jitteredDelay (factor (book.attempt + 1)) (book.attempt + 1))
          (attempt (book.attempt + 1) s).2) := by
  rw [runFrom_of_lt (Nat.lt_of_succ_lt room)]
  cases tried : attempt (book.attempt + 1) s with
  | mk outcome after =>
    rw [tried] at fails
    cases fails
    rw [fail_of_lt room]

/-- If no attempt succeeds, the operation fails with what an attempt has failed with, or because its
budget is spent. -/
theorem runFrom_error {P : Fault → Prop} (spent : ∀ n text, P (.retryExhausted n text))
    (fails : ∀ n s, ∃ fault,
      (attempt n s).1 = .permanent fault ∧ P fault ∨ (attempt n s).1 = .transient fault)
    (book : State) (s : σ) :
    ∃ fault, (p.runFrom factor attempt pause book s).1 = .error fault ∧ P fault := by
  induction left : p.maxAttempts - book.attempt generalizing book s with
  | zero =>
    rw [runFrom_of_le (Nat.sub_eq_zero_iff_le.mp left)]
    exact ⟨_, rfl, spent _ _⟩
  | succ left ih =>
    have room : book.attempt < p.maxAttempts := by omega
    obtain ⟨fault, ⟨final, holds⟩ | fails⟩ := fails (book.attempt + 1) s
    · rw [runFrom_of_final room (by rw [final]; trivial), final]
      exact ⟨fault, rfl, holds⟩
    · rcases Nat.lt_or_eq_of_le (Nat.succ_le_of_lt room) with more | last
      · rw [runFrom_of_transient more fails]
        exact ih _ _ (by simp only; omega)
      · rw [runFrom_of_spent last fails]
        exact ⟨_, rfl, spent _ _⟩

end Steps

/-! ## Any state -/

section Course

variable (p : Backoff) (attempt : Nat → σ → Outcome α × σ) (pause : Span → σ → σ) (s : σ)

/-- The state before the attempt that follows so many ones which were not final. -/
def stateBefore : Nat → σ
  | 0 => s
  | n + 1 => pause (p.baseDelay (n + 1)) (attempt (n + 1) (stateBefore n)).2

def outcomeOf (n : Nat) : Outcome α := (attempt n (p.stateBefore attempt pause s (n - 1))).1

def stateAfter : Nat → σ
  | 0 => s
  | n + 1 => (attempt (n + 1) (p.stateBefore attempt pause s n)).2

end Course

variable {p : Backoff} {attempt : Nat → σ → Outcome α × σ} {pause : Span → σ → σ} {s : σ}

private theorem runFrom_stateBefore
    (alike : ∀ drawn n s, pause (p.jitteredDelay drawn n) s = pause (p.baseDelay n) s)
    (factor : Nat → JitterFactor) (book : State) (room : book.attempt < p.maxAttempts)
    (none : ∀ n, 0 < n → n ≤ book.attempt → ¬(p.outcomeOf attempt pause s n).IsFinal) :
    ∃ last, p.IsLast (p.outcomeOf attempt pause s) last ∧
      p.runFrom factor attempt pause book (p.stateBefore attempt pause s book.attempt) =
        (p.answer last (p.outcomeOf attempt pause s last), p.stateAfter attempt pause s last) := by
  -- The induction is on the attempts that are left.
  induction left : p.maxAttempts - book.attempt generalizing book with
  | zero => omega
  | succ left ih =>
    have least : ∀ n, n = p.maxAttempts ∨ 0 < n ∧ (p.outcomeOf attempt pause s n).IsFinal →
        book.attempt + 1 ≤ n := by
      rintro n (rfl | ⟨positive, final⟩)
      · exact room
      · exact Nat.lt_of_not_le fun before => none n positive before final
    have now : p.outcomeOf attempt pause s (book.attempt + 1) =
        (attempt (book.attempt + 1) (p.stateBefore attempt pause s book.attempt)).1 := rfl
    by_cases final : (p.outcomeOf attempt pause s (book.attempt + 1)).IsFinal
    · exact ⟨book.attempt + 1, ⟨.inr ⟨Nat.succ_pos _, final⟩, least⟩, runFrom_of_final room final⟩
    · obtain ⟨fault, fails⟩ := exists_transient final
      rw [now] at fails
      by_cases more : book.attempt + 1 < p.maxAttempts
      · rw [runFrom_of_transient more fails, alike]
        refine ih ⟨book.attempt + 1, _⟩ more ?_ (by dsimp only; omega)
        intro n positive before
        rcases Nat.lt_or_eq_of_le before with earlier | rfl
        · exact none n positive (Nat.le_of_lt_succ earlier)
        · exact final
      · have spends : book.attempt + 1 = p.maxAttempts := by omega
        refine ⟨book.attempt + 1, ⟨.inl spends, least⟩, ?_⟩
        rw [runFrom_of_spent spends fails, now, fails, answer]
        rfl

/-- The operation is tried up to its last attempt, and what that one came to is answered. Delays may
be drawn at random where it makes no difference how long they are. -/
theorem run_eq_answer_of_alike
    (alike : ∀ drawn n s, pause (p.jitteredDelay drawn n) s = pause (p.baseDelay n) s)
    (factor : Nat → JitterFactor) (attempt : Nat → σ → Outcome α × σ) (s : σ) :
    ∃ last, p.IsLast (p.outcomeOf attempt pause s) last ∧
      p.run factor attempt pause s =
        (p.answer last (p.outcomeOf attempt pause s last), p.stateAfter attempt pause s last) := by
  rcases Nat.eq_zero_or_pos p.maxAttempts with nothing | room
  · refine ⟨0, ⟨.inl nothing.symm, fun _ _ => Nat.zero_le _⟩, ?_⟩
    exact runFrom_of_le (Nat.le_of_eq nothing)
  · exact runFrom_stateBefore alike factor p.start room fun n positive none => by
      rw [Nat.le_zero.mp none] at positive
      cases positive

theorem run_eq_answer (steady : p.isSteady = true) (factor : Nat → JitterFactor)
    (attempt : Nat → σ → Outcome α × σ) (pause : Span → σ → σ) (s : σ) :
    ∃ last, p.IsLast (p.outcomeOf attempt pause s) last ∧
      p.run factor attempt pause s =
        (p.answer last (p.outcomeOf attempt pause s last), p.stateAfter attempt pause s last) :=
  run_eq_answer_of_alike (fun drawn n s => by rw [jitteredDelay_of_steady steady]) factor attempt s

/-! ## The record of a run -/

inductive Event where
  | attempt (n : Nat)
  | pause (delay : Span)
deriving DecidableEq, Repr

def retries (p : Backoff) : Nat → List Event
  | 0 => []
  | n + 1 => p.retries n ++ [.attempt (n + 1), .pause (p.baseDelay (n + 1))]

/-- So many attempts, with a delay between each two and none after the last. -/
def course (p : Backoff) : Nat → List Event
  | 0 => []
  | n + 1 => p.retries n ++ [.attempt (n + 1)]

def attemptsIn (events : List Event) : Nat := events.countP (· matches .attempt _)

/-- An operation that comes to one outcome after the other, whatever numbers it is told. -/
def recordAttempt (outcome : Nat → Outcome α) (n : Nat) (events : List Event) :
    Outcome α × List Event := (outcome (attemptsIn events + 1), events ++ [.attempt n])

def recordPause (delay : Span) (events : List Event) : List Event := events ++ [.pause delay]

section Record

variable (p : Backoff) (outcome : Nat → Outcome α)

private theorem attemptsIn_retries (n : Nat) : attemptsIn (p.retries n) = n := by
  induction n with
  | zero => rfl
  | succ n ih =>
    have more : attemptsIn (p.retries (n + 1)) = attemptsIn (p.retries n) + 1 := List.countP_append
    rw [more, ih]

theorem stateBefore_record (n : Nat) :
    p.stateBefore (recordAttempt outcome) recordPause [] n = p.retries n := by
  induction n with
  | zero => rfl
  | succ n ih => rw [stateBefore, ih, recordAttempt, recordPause, List.append_assoc, retries]; rfl

private theorem stateAfter_record (n : Nat) :
    p.stateAfter (recordAttempt outcome) recordPause [] n = p.course n := by
  cases n with
  | zero => rfl
  | succ n => rw [stateAfter, stateBefore_record, recordAttempt, course]

private theorem outcomeOf_record (n : Nat) :
    p.outcomeOf (recordAttempt outcome) recordPause [] (n + 1) = outcome (n + 1) := by
  rw [outcomeOf, stateBefore_record, recordAttempt, Nat.add_sub_cancel, attemptsIn_retries]

end Record

/-- Without jitter an operation is attempted up to the first final outcome, or as often as the
budget allows, with the doubling delays in between, and the last outcome is answered. -/
theorem run_record (p : Backoff) (steady : p.isSteady = true) (factor : Nat → JitterFactor)
    (outcome : Nat → Outcome α) :
    ∃ last, p.IsLast outcome last ∧
      p.run factor (recordAttempt outcome) recordPause [] =
        (p.answer last (outcome last), p.course last) := by
  obtain ⟨last, least, runs⟩ := run_eq_answer steady factor (recordAttempt outcome) recordPause []
  have same : ∀ n, 0 < n →
      p.outcomeOf (recordAttempt outcome) recordPause [] n = outcome n := by
    intro n positive
    obtain ⟨n, rfl⟩ := Nat.exists_eq_succ_of_ne_zero (Nat.ne_of_gt positive)
    exact outcomeOf_record p outcome n
  refine ⟨last, least.congr same, ?_⟩
  rw [runs, stateAfter_record]
  cases last with
  | zero => rfl
  | succ n => rw [outcomeOf_record]

def patient : Backoff := ⟨5, Span.ofMillis 100, Span.ofMillis 150, Binary64.zero false⟩

def thirdTime (n : Nat) : Outcome Nat := if n < 3 then .transient (.timeout "slow") else .ok n

theorem run_patient : patient.isSteady = true ∧
    patient.run (fun _ => evenFactor) (recordAttempt thirdTime) recordPause [] =
      (.ok 3, [.attempt 1, .pause (Span.ofMillis 100), .attempt 2, .pause (Span.ofMillis 150),
        .attempt 3]) := by
  have isLast : patient.IsLast thirdTime 3 := by
    refine ⟨.inr ⟨by decide, trivial⟩, ?_⟩
    rintro n (rfl | ⟨_, final⟩)
    · decide
    · refine Nat.le_of_not_lt fun early => ?_
      rw [thirdTime, if_pos early] at final
      exact final
  have steady : patient.isSteady = true := isSteady_of_zero (by decide)
  obtain ⟨last, least, runs⟩ := run_record patient steady (fun _ => evenFactor) thirdTime
  rw [least.unique isLast] at runs
  exact ⟨steady, runs⟩

end FeedIngest.Backoff
