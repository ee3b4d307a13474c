import Mathlib.Data.List.Chain
import FeedIngest.Proofs.Backoff

/-!
# Delays and the book of attempts

How long the delay after an attempt is, and what the book of one operation keeps whatever calls it
is given in whatever order: attempts within the budget, numbers without a gap, and delays that only
grow.
-/

set_option autoImplicit false

namespace FeedIngest.Backoff

open Decimal (Binary64)
open Time (Span)

/-! ## The delays -/

section Delays

variable (p : Backoff)

/-- The initial delay doubled for every attempt after the first, up to the ceiling. -/
def doubled (n : Nat) : Nat := min (p.initial.nanos * Nat.pow 2 (n - 1)) p.ceiling.nanos

/-- Nothing is lost beyond the greatest span, because the ceiling is a span. -/
theorem nanos_baseDelay (n : Nat) :
    (p.baseDelay n).nanos = min (p.initial.nanos * Nat.pow 2 (min (n - 1) 31)) p.ceiling.nanos := by
  rw [baseDelay, Span.nanos_shorter, rawDelay, Span.times, Span.nanos_clamped, Nat.min_assoc,
    Nat.min_eq_right p.ceiling.le_limit]

theorem baseDelay_le_ceiling (n : Nat) : (p.baseDelay n).nanos ≤ p.ceiling.nanos := by
  rw [nanos_baseDelay]
  exact Nat.min_le_right _ _

/-- More doublings make a delay no shorter. -/
theorem mul_pow_le {n m : Nat} (le : n ≤ m) :
    p.initial.nanos * Nat.pow 2 n ≤ p.initial.nanos * Nat.pow 2 m :=
  Nat.mul_le_mul_left _ (Nat.pow_le_pow_right Nat.two_pos le)

theorem baseDelay_mono {n m : Nat} (le : n ≤ m) :
    (p.baseDelay n).nanos ≤ (p.baseDelay m).nanos := by
  have more := p.mul_pow_le (show min (n - 1) 31 ≤ min (m - 1) 31 by omega)
  rw [nanos_baseDelay, nanos_baseDelay]
  omega

private theorem baseDelay_eq_doubled {n : Nat} (early : n ≤ 32) :
    (p.baseDelay n).nanos = p.doubled n := by
  rw [nanos_baseDelay, doubled, Nat.min_eq_left (show n - 1 ≤ 31 by omega)]

/-- The delays after more than 32 attempts are all alike. -/
theorem nanos_baseDelay_of_lt {n : Nat} (late : 32 < n) :
    (p.baseDelay n).nanos = min (p.initial.nanos * Nat.pow 2 31) p.ceiling.nanos := by
  rw [nanos_baseDelay, Nat.min_eq_right (show 31 ≤ n - 1 by omega)]

private theorem mul_pow_lt_doubled {n : Nat} (late : 32 < n) (positive : 0 < p.initial.nanos)
    (below : p.initial.nanos * Nat.pow 2 31 < p.ceiling.nanos) :
    p.initial.nanos * Nat.pow 2 31 < p.doubled n := by
  have powers : Nat.pow 2 31 < Nat.pow 2 (n - 1) :=
    Nat.pow_lt_pow_right Nat.one_lt_two (show 31 < n - 1 by omega)
  exact Nat.lt_min.mpr ⟨Nat.mul_lt_mul_of_pos_left powers positive, below⟩

/-- A delay is the initial one doubled up to 31 times, and never above the ceiling. So it goes on
doubling up to the ceiling if 31 times are enough to reach it, and else it does so for 32 attempts
and then stays below. -/
theorem baseDelay_doubled_iff (n : Nat) :
    (p.baseDelay n).nanos =
        min (p.initial.nanos * Nat.pow 2 (min (n - 1) 31)) p.ceiling.nanos ∧
      ((p.baseDelay n).nanos = p.doubled n ↔
        n ≤ 32 ∨ p.initial.nanos = 0 ∨ p.ceiling.nanos ≤ p.initial.nanos * Nat.pow 2 31) := by
  refine ⟨p.nanos_baseDelay n, ?_⟩
  rcases Nat.lt_or_ge 32 n with late | early
  case inr => exact iff_of_true (p.baseDelay_eq_doubled early) (.inl early)
  rw [p.nanos_baseDelay_of_lt late]
  constructor
  · intro same
    by_contra neither
    simp only [not_or, Nat.not_le] at neither
    obtain ⟨_, nonzero, below⟩ := neither
    have more := p.mul_pow_lt_doubled late (Nat.pos_of_ne_zero nonzero) below
    rw [← same, Nat.min_eq_left (Nat.le_of_lt below)] at more
    exact Nat.lt_irrefl _ more
  · rintro (early | none | reached)
    · exact absurd early (Nat.not_le.mpr late)
    · rw [doubled, none, Nat.zero_mul, Nat.zero_mul]
    · have reachedToo := Nat.le_trans reached (p.mul_pow_le (show 31 ≤ n - 1 by omega))
      rw [doubled, Nat.min_eq_right reached, Nat.min_eq_right reachedToo]

end Delays

/-- A millisecond that doubles up to thirty days, with more attempts than that takes. -/
def unhurried : Backoff := ⟨40, Span.ofMillis 1, Span.ofMillis 2592000000, Binary64.zero false⟩

/-- The delay after the 33rd attempt is not 30 days, but as long as the one before. -/
theorem not_forall_baseDelay_doubled :
    ¬∀ (p : Backoff) (n : Nat), 1 ≤ n → n < Nat.pow 2 32 → (p.baseDelay n).nanos = p.doubled n := by
  intro doubles
  have told := doubles unhurried 33 (by decide) (by decide)
  have stays : (unhurried.baseDelay 33).nanos = 2147483648000000 := by decide
  have due : unhurried.doubled 33 = 2592000000000000 := by decide
  rw [stays, due] at told
  cases told

/-! ## The book -/

/-- A call to the book of an operation. A failure comes with the factor that is drawn for it. -/
inductive Call where
  | begin
  | fail (factor : JitterFactor)
deriving DecidableEq, Repr

def Call.isBegin : Call → Bool
  | .begin => true
  | .fail _ => false

inductive Reply where
  | number (attempt : Option Nat)
  | pause (delay : Option Span)
deriving DecidableEq, Repr

def State.reply (s : State) (p : Backoff) : Call → Reply
  | .begin => .number (s.begin p).1
  | .fail factor => .pause (s.fail p factor).1

def State.next (s : State) (p : Backoff) : Call → State
  | .begin => (s.begin p).2
  | .fail factor => (s.fail p factor).2

structure Entry where
  before : State
  call : Call
  reply : Reply
  after : State
deriving DecidableEq, Repr

def ledger (p : Backoff) : State → List Call → List Entry
  | _, [] => []
  | s, call :: calls => ⟨s, call, s.reply p call, s.next p call⟩ :: ledger p (s.next p call) calls

/-- What was answered to a call that wanted to begin an attempt. -/
def Entry.number? (e : Entry) : Option (Option Nat) :=
  match e.reply with
  | .number attempt => some attempt
  | .pause _ => none

def numbers (entries : List Entry) : List (Option Nat) := entries.filterMap Entry.number?

def Entry.delay? (e : Entry) : Option Span :=
  match e.reply with
  | .number _ => none
  | .pause delay => delay

def delays (entries : List Entry) : List Span := entries.filterMap Entry.delay?

def shown (s : State) (entries : List Entry) : List Span :=
  s.nextBackoff :: entries.map (·.after.nextBackoff)

structure Rise (limit : Span) (spans : List Span) : Prop where
  sorted : spans.Pairwise (·.nanos ≤ ·.nanos)
  within : ∀ d ∈ spans, d.nanos ≤ limit.nanos

def TakeTurns (calls : List Call) : Prop := calls.IsChain (·.isBegin ≠ ·.isBegin)

section Book

variable {p : Backoff} {s : State} {calls : List Call} {e : Entry} {delay : Span}

theorem next_of_le (spent : p.maxAttempts ≤ s.attempt) (call : Call) : s.next p call = s := by
  cases call with
  | begin => rw [State.next, begin_of_le spent]
  | fail factor => rw [State.next, fail_of_le spent]

theorem ledger_begin (room : s.attempt < p.maxAttempts) (calls : List Call) :
    p.ledger s (.begin :: calls) =
      ⟨s, .begin, .number (some (s.attempt + 1)), { s with attempt := s.attempt + 1 }⟩ ::
        p.ledger { s with attempt := s.attempt + 1 } calls := by
  rw [ledger, State.reply, State.next, begin_of_lt room]

private theorem ledger_begin_of_le (spent : p.maxAttempts ≤ s.attempt) (calls : List Call) :
    p.ledger s (.begin :: calls) = ⟨s, .begin, .number none, s⟩ :: p.ledger s calls := by
  rw [ledger, State.reply, State.next, begin_of_le spent]

private theorem reply_of_mem (member : e ∈ p.ledger s calls) :
    e.reply = e.before.reply p e.call := by
  induction calls generalizing s with
  | nil => cases member
  | cons call calls ih =>
    rcases List.mem_cons.mp member with rfl | later
    · rfl
    · exact ih later

/-! ### Attempts and what the book shows -/

structure State.Sound (p : Backoff) (s : State) : Prop where
  within : s.attempt ≤ p.maxAttempts
  shown : s.nextBackoff.nanos ≤ (p.baseDelay (s.attempt + 1)).nanos

theorem sound_start (p : Backoff) : p.start.Sound p := ⟨Nat.zero_le _, Nat.le_refl _⟩

structure State.Precedes (s t : State) : Prop where
  attempt : s.attempt ≤ t.attempt
  shown : s.nextBackoff.nanos ≤ t.nextBackoff.nanos

theorem State.Precedes.refl (s : State) : s.Precedes s := ⟨Nat.le_refl _, Nat.le_refl _⟩

theorem State.Precedes.trans {s t u : State} (first : s.Precedes t) (second : t.Precedes u) :
    s.Precedes u :=
  ⟨Nat.le_trans first.attempt second.attempt, Nat.le_trans first.shown second.shown⟩

theorem State.Sound.next (sound : s.Sound p) (call : Call) :
    (s.next p call).Sound p ∧ s.Precedes (s.next p call) := by
  rcases Nat.lt_or_ge s.attempt p.maxAttempts with room | spent
  case inr =>
    rw [next_of_le spent]
    exact ⟨sound, .refl s⟩
  cases call with
  | begin =>
    rw [State.next, begin_of_lt room]
    refine ⟨⟨room, ?_⟩, ⟨Nat.le_succ _, Nat.le_refl _⟩⟩
    exact Nat.le_trans sound.shown (p.baseDelay_mono (Nat.le_succ _))
  | fail factor =>
    rw [State.next, fail_of_lt room]
    exact ⟨⟨sound.within, Nat.le_refl _⟩, ⟨Nat.le_refl _, sound.shown⟩⟩

theorem State.Sound.ledger (sound : s.Sound p) (calls : List Call) :
    ∀ e ∈ p.ledger s calls,
      (e.before.Sound p ∧ e.after.Sound p) ∧ s.Precedes e.before ∧ e.before.Precedes e.after := by
  induction calls generalizing s with
  | nil => exact nofun
  | cons call calls ih =>
    obtain ⟨soundNext, precedes⟩ := sound.next call
    refine List.forall_mem_cons.mpr ⟨⟨⟨sound, soundNext⟩, .refl s, precedes⟩, ?_⟩
    intro e member
    obtain ⟨sounds, later, step⟩ := ih soundNext e member
    exact ⟨sounds, precedes.trans later, step⟩

/-- The books before the calls, and those after the calls, follow each other in their order. -/
theorem State.Sound.pairwise (sound : s.Sound p) (calls : List Call) :
    (p.ledger s calls).Pairwise fun e later =>
      e.before.Precedes later.before ∧ e.after.Precedes later.after := by
  induction calls generalizing s with
  | nil => exact .nil
  | cons call calls ih =>
    obtain ⟨soundNext, precedes⟩ := sound.next call
    refine .cons (fun e member => ?_) (ih soundNext)
    obtain ⟨_, later, step⟩ := soundNext.ledger calls e member
    exact ⟨precedes.trans later, later.trans step⟩

private theorem rise_shown (sound : s.Sound p) (calls : List Call) :
    Rise p.ceiling (shown s (p.ledger s calls)) := by
  have within : ∀ {t : State}, t.Sound p → t.nextBackoff.nanos ≤ p.ceiling.nanos := fun soundToo =>
    Nat.le_trans soundToo.shown (p.baseDelay_le_ceiling _)
  constructor
  · refine .cons (List.forall_mem_map.mpr fun e member => ?_) (List.pairwise_map.mpr ?_)
    · obtain ⟨_, later, step⟩ := sound.ledger calls e member
      exact (later.trans step).shown
    · exact (sound.pairwise calls).imp fun both => both.2.shown
  · refine List.forall_mem_cons.mpr ⟨within sound, List.forall_mem_map.mpr fun e member => ?_⟩
    exact within (sound.ledger calls e member).1.2

/-! ### Numbers -/

private theorem numbers_ledger_of_le (spent : p.maxAttempts ≤ s.attempt) (calls : List Call) :
    numbers (p.ledger s calls) = List.replicate (calls.countP (·.isBegin)) none := by
  induction calls with
  | nil => rfl
  | cons call calls ih =>
    cases call with
    | begin =>
      rw [ledger_begin_of_le spent, List.countP_cons_of_pos rfl, List.replicate_succ, ← ih]
      rfl
    | fail factor =>
      rw [ledger, next_of_le spent, List.countP_cons_of_neg Bool.false_ne_true, ← ih]
      rfl

/-- The attempts are numbered on, and when the budget is spent nobody gets a number any more. -/
theorem numbers_ledger (p : Backoff) (s : State) (calls : List Call) :
    numbers (p.ledger s calls) =
      (List.range' (s.attempt + 1)
        (min (calls.countP (·.isBegin)) (p.maxAttempts - s.attempt))).map some ++
      List.replicate (calls.countP (·.isBegin) - (p.maxAttempts - s.attempt)) none := by
  induction calls generalizing s with
  | nil => simp [ledger, numbers]
  | cons call calls ih =>
    rcases Nat.lt_or_ge s.attempt p.maxAttempts with room | spent
    case inr =>
      rw [numbers_ledger_of_le spent, Nat.sub_eq_zero_of_le spent]
      simp
    cases call with
    | begin =>
      have left : p.maxAttempts - s.attempt = p.maxAttempts - (s.attempt + 1) + 1 := by omega
      rw [ledger_begin room, List.countP_cons_of_pos rfl, left, Nat.add_min_add_right,
        Nat.add_sub_add_right, List.range'_succ, List.map_cons, List.cons_append,
        ← ih { s with attempt := s.attempt + 1 }]
      rfl
    | fail factor =>
      have same : (s.next p (.fail factor)).attempt = s.attempt := by
        rw [State.next, fail_of_lt room]
      have later := ih (s.next p (.fail factor))
      rw [same] at later
      rw [List.countP_cons_of_neg Bool.false_ne_true]
      exact later

/-! ### Delays -/

/-- Only a failure is answered with a delay, or with none. -/
theorem exists_fail_of_reply (member : e ∈ p.ledger s calls) {delay : Option Span}
    (replied : e.reply = .pause delay) :
    ∃ factor, e.call = .fail factor ∧ (e.before.fail p factor).1 = delay := by
  have told := (reply_of_mem member).symm.trans replied
  cases called : e.call with
  | begin =>
    rw [called] at told
    cases told
  | fail factor =>
    rw [called] at told
    exact ⟨factor, rfl, Reply.pause.inj told⟩

theorem isSome_of_reply (member : e ∈ p.ledger s calls) {delay : Option Span}
    (replied : e.reply = .pause delay) : delay.isSome ↔ e.before.attempt < p.maxAttempts := by
  obtain ⟨factor, _, rfl⟩ := exists_fail_of_reply member replied
  rcases Nat.lt_or_ge e.before.attempt p.maxAttempts with room | spent
  · rw [fail_of_lt room]
    exact iff_of_true rfl room
  · rw [fail_of_le spent]
    exact iff_of_false Bool.false_ne_true (Nat.not_lt.mpr spent)

/-- A delay is the one after the last attempt that was begun. -/
theorem eq_baseDelay_of_reply (steady : p.isSteady = true) (member : e ∈ p.ledger s calls)
    (replied : e.reply = .pause (some delay)) : delay = p.baseDelay e.before.attempt := by
  have room := (isSome_of_reply member replied).mp rfl
  obtain ⟨factor, _, granted⟩ := exists_fail_of_reply member replied
  rw [fail_of_lt room, jitteredDelay_of_steady steady] at granted
  exact (Option.some.inj granted).symm

theorem Entry.delay?_eq_some_iff : e.delay? = some delay ↔ e.reply = .pause (some delay) := by
  unfold Entry.delay?
  split <;> simp_all

private theorem rise_delays (steady : p.isSteady = true) (sound : s.Sound p) (calls : List Call) :
    Rise p.ceiling (delays (p.ledger s calls)) := by
  have granted : ∀ e ∈ p.ledger s calls, ∀ d, e.delay? = some d →
      d = p.baseDelay e.before.attempt := fun e member d told =>
    eq_baseDelay_of_reply steady member (Entry.delay?_eq_some_iff.mp told)
  constructor
  · refine List.pairwise_filterMap.mpr ((sound.pairwise calls).imp_of_mem ?_)
    intro e later member memberToo both d told longer toldToo
    rw [granted e member d told, granted later memberToo longer toldToo]
    exact p.baseDelay_mono both.1.attempt
  · intro d member
    obtain ⟨e, among, told⟩ := List.mem_filterMap.mp member
    rw [granted e among d told]
    exact p.baseDelay_le_ceiling _

/-! ### Taking turns -/

/-- What the book shows before a call whose turn it is: before a failure the delay after the attempt
that fails, and before a beginning the delay after the attempt that is begun. -/
def State.Due (p : Backoff) (s : State) (call : Call) : Prop :=
  s.attempt < p.maxAttempts →
    s.nextBackoff = p.baseDelay (if call.isBegin then s.attempt + 1 else s.attempt)

theorem due_start (p : Backoff) (call : Call) : p.start.Due p call := by
  intro _
  split <;> rfl

private theorem State.Due.next {call other : Call} (due : s.Due p call)
    (turns : call.isBegin ≠ other.isBegin) : (s.next p call).Due p other := by
  rcases Nat.lt_or_ge s.attempt p.maxAttempts with room | spent
  case inr =>
    rw [next_of_le spent]
    exact fun more => absurd more (Nat.not_lt.mpr spent)
  cases call with
  | begin =>
    have otherwise : other.isBegin = false := by simpa [Call.isBegin] using turns.symm
    rw [State.next, begin_of_lt room]
    intro _
    rw [otherwise]
    exact due room
  | fail factor =>
    have otherwise : other.isBegin = true := by simpa [Call.isBegin] using turns.symm
    rw [State.next, fail_of_lt room]
    intro _
    rw [otherwise]
    rfl

private theorem due_of_turns (turns : TakeTurns calls) (due : ∀ call ∈ calls.head?, s.Due p call) :
    ∀ e ∈ p.ledger s calls, e.before.Due p e.call := by
  induction calls generalizing s with
  | nil => exact nofun
  | cons call calls ih =>
    have now := due call rfl
    refine List.forall_mem_cons.mpr ⟨now, ih turns.tail fun other next => ?_⟩
    exact now.next (turns.rel_head? next)

private theorem eq_nextBackoff_of_turns (steady : p.isSteady = true) (turns : TakeTurns calls)
    (member : e ∈ p.ledger p.start calls) (replied : e.reply = .pause (some delay)) :
    delay = e.before.nextBackoff := by
  have room := (isSome_of_reply member replied).mp rfl
  have due := due_of_turns turns (fun call _ => due_start p call) e member room
  obtain ⟨factor, called, _⟩ := exists_fail_of_reply member replied
  rw [called] at due
  rw [eq_baseDelay_of_reply steady member replied, due]
  rfl

end Book

/-- Without jitter, whatever calls come in whatever order: attempts keep to the budget, delays are
granted while it lasts, and they never get shorter or exceed the ceiling. -/
theorem ledger_kept (p : Backoff) (steady : p.isSteady = true) (calls : List Call) :
    (∀ e ∈ p.ledger p.start calls,
      e.before.attempt ≤ p.maxAttempts ∧ e.after.attempt ≤ p.maxAttempts) ∧
    numbers (p.ledger p.start calls) =
      (List.range' 1 (min (calls.countP (·.isBegin)) p.maxAttempts)).map some ++
        List.replicate (calls.countP (·.isBegin) - p.maxAttempts) none ∧
    (∀ e ∈ p.ledger p.start calls, ∀ delay, e.reply = .pause delay →
      (delay.isSome ↔ e.before.attempt < p.maxAttempts)) ∧
    Rise p.ceiling (delays (p.ledger p.start calls)) ∧
    Rise p.ceiling (shown p.start (p.ledger p.start calls)) ∧
    (TakeTurns calls → ∀ e ∈ p.ledger p.start calls, ∀ delay,
      e.reply = .pause (some delay) → delay = e.before.nextBackoff) := by
  have sound := sound_start p
  refine ⟨fun e member => ?_, p.numbers_ledger p.start calls,
    fun e member delay => isSome_of_reply member, rise_delays steady sound calls,
    rise_shown sound calls, fun turns e member delay => eq_nextBackoff_of_turns steady turns member⟩
  obtain ⟨before, after⟩ := (sound.ledger calls e member).1
  exact ⟨before.within, after.within⟩

def sixRounds : List Call := (List.replicate 6 [Call.begin, .fail evenFactor]).flatten

theorem kept_patient : patient.isSteady = true ∧ TakeTurns sixRounds ∧
    numbers (patient.ledger patient.start sixRounds) =
      [some 1, some 2, some 3, some 4, some 5, none] ∧
    delays (patient.ledger patient.start sixRounds) =
      [Span.ofMillis 100, Span.ofMillis 150, Span.ofMillis 150, Span.ofMillis 150] ∧
    Rise patient.ceiling (delays (patient.ledger patient.start sixRounds)) ∧
    ∀ e ∈ patient.ledger patient.start sixRounds, ∀ delay,
      e.reply = .pause (some delay) → delay = e.before.nextBackoff := by
  have steady : patient.isSteady = true := isSteady_of_zero (by decide)
  have turns : TakeTurns sixRounds := by
    unfold TakeTurns
    decide
  obtain ⟨_, numbered, _, rises, _, alike⟩ := ledger_kept patient steady sixRounds
  refine ⟨steady, turns, numbered, ?_, rises, alike turns⟩
  decide +kernel

end FeedIngest.Backoff
