/-!
# Clockwork

A machine that waits says when it wants to be woken next. `Clockwork.runTo` wakes it at all
those moments up to a given one, and `Clockwork.runUntil` stops as soon as the machine has
what somebody waits for. Moments are counted in whole milliseconds.
-/

set_option autoImplicit false

namespace FeedIngest.Time

/-- A kind of machine that waits. Woken, a machine does all that is due. -/
structure Clockwork (α : Type) where
  next : α → Option Nat
  wake : Nat → α → α

def earlier : Option Nat → Option Nat → Option Nat
  | some a, some b => some (min a b)
  | some a, none => some a
  | none, b => b

def earliest (moments : List Nat) : Option Nat := moments.min?

/-- A span that nobody outlives: waiting without a limit ends there. -/
def patience : Nat := 1000000000000000

namespace Clockwork

variable {α : Type}

def runTo (k : Clockwork α) (start target : Nat) (machine : α) : α :=
  match k.next machine with
  | none => machine
  | some moment =>
    if max moment start ≤ target then
      runTo k (max moment start + 1) target (k.wake (max moment start) machine)
    else machine
termination_by target + 1 - start
decreasing_by omega

/-- Wakes a machine from a moment on until it is done, but not after `limit`. The result has
the last moment at which it was woken. -/
def runUntil (k : Clockwork α) (done : α → Bool) (start limit last : Nat) (machine : α) :
    Nat × α :=
  if done machine then (last, machine)
  else match k.next machine with
    | none => (last, machine)
    | some moment =>
      if max moment start ≤ limit then
        runUntil k done (max moment start + 1) limit (max moment start)
          (k.wake (max moment start) machine)
      else (last, machine)
termination_by limit + 1 - start
decreasing_by omega

end Clockwork

end FeedIngest.Time
