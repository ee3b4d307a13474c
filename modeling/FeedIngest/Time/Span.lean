/-!
# Spans of time

A span counts nanoseconds up to a greatest value of 2^64 seconds less one nanosecond.
Sums and products that would pass the greatest span stop there.
-/

set_option autoImplicit false

namespace FeedIngest.Time

def spanLimit : Nat := 18446744073709551616 * 1000000000 - 1

structure Span where
  nanos : Nat
  le_limit : nanos ≤ spanLimit
deriving DecidableEq, Repr

namespace Span

def clamped (n : Nat) : Span := ⟨min n spanLimit, Nat.min_le_right n spanLimit⟩

def zero : Span := ⟨0, Nat.zero_le _⟩

def greatest : Span := ⟨spanLimit, Nat.le_refl _⟩

instance : Inhabited Span := ⟨zero⟩

def ofSeconds (n : Nat) : Span := clamped (n * 1000000000)

def ofMillis (n : Nat) : Span := clamped (n * 1000000)

/-- A span of seconds and nanoseconds. -/
def ofParts (seconds nanos : Nat) : Span := clamped (seconds * 1000000000 + nanos)

/-- The whole seconds of a span. -/
def seconds (d : Span) : Nat := d.nanos / 1000000000

/-- The nanoseconds after the last whole second of a span. -/
def subsecond (d : Span) : Nat := d.nanos % 1000000000

/-- The whole milliseconds that cover a span: clocks that tick in milliseconds wake no earlier. -/
def ticks (d : Span) : Nat := (d.nanos + 999999) / 1000000

/-- Whether a span is longer than that many milliseconds. -/
def outlasts (d : Span) (millis : Nat) : Bool := millis * 1000000 < d.nanos

def times (d : Span) (k : Nat) : Span := clamped (d.nanos * k)

def shorter (a b : Span) : Span := if a.nanos ≤ b.nanos then a else b

@[simp] theorem nanos_clamped (n : Nat) : (clamped n).nanos = min n spanLimit := rfl

theorem nanos_shorter (a b : Span) : (a.shorter b).nanos = min a.nanos b.nanos := by
  unfold shorter
  split <;> omega

end Span

end FeedIngest.Time
