import FeedIngest.Decimal.Binary64
import FeedIngest.Fault
import FeedIngest.Time.Span

/-!
# Backoff

A bounded number of attempts with delays that double from one attempt to the next up to a
ceiling. `Backoff.State` keeps the book of one operation; `Backoff.run` repeats an operation
over any state it works on.
-/

set_option autoImplicit false

namespace FeedIngest

open Time (Span)
open Decimal (Binary64)

/-- How often an operation is tried and how long it pauses in between. -/
structure Backoff where
  maxAttempts : Nat
  initial : Span
  ceiling : Span
  /-- The part of each delay that may be added or taken off at random. -/
  jitter : Binary64
deriving DecidableEq, Repr

/-- The random factor of one delay, as a fraction. -/
structure JitterFactor where
  num : Nat
  den : Nat
deriving DecidableEq, Repr

namespace Backoff

/-- Three attempts, half a second doubling up to half a minute, a fifth of jitter. -/
def standard : Backoff where
  maxAttempts := 3
  initial := Span.ofMillis 500
  ceiling := Span.ofSeconds 30
  jitter := Binary64.ofQuotient false 1 5

/-- The factor that leaves a delay as it is; it lies in the range of every jitter. -/
def evenFactor : JitterFactor := ⟨1, 1⟩

/-- The delay before the ceiling: the initial one, doubled for every attempt after the first,
at most 31 times. -/
def rawDelay (p : Backoff) (attempt : Nat) : Span := p.initial.times (Nat.pow 2 (min (attempt - 1) 31))

def baseDelay (p : Backoff) (attempt : Nat) : Span := (p.rawDelay attempt).shorter p.ceiling

def isSteady (p : Backoff) : Bool := p.jitter.clampUnit.units == 0

/-- The delay after an attempt for one drawn factor; the ceiling applies after the factor. -/
def jitteredDelay (p : Backoff) (factor : JitterFactor) (attempt : Nat) : Span :=
  if p.isSteady then p.baseDelay attempt
  else
    let raw := (p.rawDelay attempt).nanos * factor.num
    if p.ceiling.nanos * factor.den ≤ raw then p.ceiling else Span.clamped (raw / factor.den)

/-- The book of one operation: the attempts begun and the delay shown next. -/
structure State where
  attempt : Nat
  nextBackoff : Span
deriving DecidableEq, Repr

def start (p : Backoff) : State := ⟨0, p.baseDelay 1⟩

/-- Begins the next attempt, unless the budget is spent. -/
def State.begin (s : State) (p : Backoff) : Option Nat × State :=
  if p.maxAttempts ≤ s.attempt then (none, s)
  else (some (s.attempt + 1), { s with attempt := s.attempt + 1 })

/-- Records a failure; the delay before the next attempt, unless the budget is spent. -/
def State.fail (s : State) (p : Backoff) (factor : JitterFactor) : Option Span × State :=
  if p.maxAttempts ≤ s.attempt then (none, s)
  else (some (p.jitteredDelay factor s.attempt),
    { s with nextBackoff := p.baseDelay (s.attempt + 1) })

/-- How one attempt ended. Only a transient failure is worth another attempt. -/
inductive Outcome (α : Type) where
  | ok (value : α)
  | transient (fault : Fault)
  | permanent (fault : Fault)
deriving Repr

variable {σ α : Type}

set_option linter.unusedVariables false in
/-- Repeats an operation from a given book on. `attempt` performs one attempt and `pause`
lets a delay pass; both may change the state they work on. -/
def runFrom (p : Backoff) (factor : Nat → JitterFactor) (attempt : Nat → σ → Outcome α × σ)
    (pause : Span → σ → σ) (book : State) (s : σ) : Except Fault α × σ :=
  match begun : book.begin p with
  | (none, _) => (.error (.retryExhausted 0 "no attempts allowed"), s)
  | (some n, book') =>
    match attempt n s with
    | (.ok value, s) => (.ok value, s)
    | (.permanent fault, s) => (.error fault, s)
    | (.transient fault, s) =>
      match failed : book'.fail p (factor n) with
      | (some delay, book'') => runFrom p factor attempt pause book'' (pause delay s)
      | (none, book'') => (.error (.retryExhausted book''.attempt fault.message), s)
termination_by p.maxAttempts - book.attempt
decreasing_by
  simp only [State.begin, State.fail] at begun failed
  split at begun
  · simp at begun
  · split at failed
    · simp at failed
    · simp only [Prod.mk.injEq, Option.some.injEq] at begun failed
      obtain ⟨_, rfl⟩ := begun
      obtain ⟨_, rfl⟩ := failed
      simp only
      omega

/-- Repeats an operation until it succeeds, fails permanently or its budget is spent. -/
def run (p : Backoff) (factor : Nat → JitterFactor) (attempt : Nat → σ → Outcome α × σ)
    (pause : Span → σ → σ) (s : σ) : Except Fault α × σ :=
  p.runFrom factor attempt pause p.start s

end Backoff

/-- Server errors and "too many requests" are worth another attempt; other statuses are final. -/
def isRetryableStatus (status : Nat) : Bool := (500 ≤ status && status < 600) || status == 429

end FeedIngest
