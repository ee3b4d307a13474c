import FeedIngest.Delivery.Job
import FeedIngest.Fault
import FeedIngest.Time.Span

/-!
# The agenda

An agenda publishes a job for every feed once in each period. Such a pass goes through the
feeds in order, one job at a time, and does not mind a job that is refused; it breaks off only
when the channel is closed, and the agenda ends with it. A pass that takes longer than a
period lets the moments go by that fall into it.
-/

set_option autoImplicit false

namespace FeedIngest.Delivery

inductive Pass where
  /-- The job of a feed is being published; the rest comes after it. -/
  | publishing (feedId : Int) (rest : List Int) (accepted : Nat)
  /-- The pass is over: so many jobs were accepted. -/
  | finished (result : Except Fault Nat)

namespace Pass

def next (accepted : Nat) : List Int → Pass
  | [] => finished (.ok accepted)
  | feedId :: rest => publishing feedId rest accepted

def start : Except Fault (List Int) → Pass
  | .ok feeds => next 0 feeds
  | .error fault => finished (.error fault)

def hear (answer : Except Fault Unit) : Pass → Pass
  | publishing _ rest accepted =>
    match answer with
    | .ok () => next (accepted + 1) rest
    | .error .channelClosed => finished (.error .channelClosed)
    | .error _ => next accepted rest
  | finished result => finished result

def result? : Pass → Option (Except Fault Nat)
  | publishing _ _ _ => none
  | finished result => some result

end Pass

inductive AgendaPhase where
  | resting
  | passing (pass : Pass)
  | ended
  | failed

/-- An agenda: its period and the next moment for a pass. -/
structure Agenda where
  period : Nat
  due : Nat
  phase : AgendaPhase

namespace Agenda

def start (now period : Nat) : Agenda :=
  ⟨period, now, if period = 0 then .failed else .resting⟩

def tolerance : Nat := 5

/-- The moment of the pass after one that begins now: a period after its own moment, or, if
it is late, the next moment of the old rhythm. -/
def nextDue (a : Agenda) (now : Nat) : Nat :=
  if a.due + tolerance < now then now + a.period - (now - a.due) % a.period
  else a.due + a.period

/-- What an agenda does once its pass has got so far. -/
def follow (a : Agenda) (pass : Pass) : Agenda :=
  { a with phase := match pass with
    | .publishing _ _ _ => .passing pass
    | .finished (.error .channelClosed) => .ended
    | .finished _ => .resting }

def begin (a : Agenda) (now : Nat) (pass : Pass) : Agenda :=
  { a with due := a.nextDue now }.follow pass

def isOver (a : Agenda) : Bool :=
  match a.phase with
  | .ended | .failed => true
  | _ => false

/-- Ends an agenda that is not over; a pass is broken off. -/
def cancel (a : Agenda) : Agenda := if a.isOver then a else { a with phase := .ended }

def outcome (a : Agenda) : Except Fault Unit :=
  match a.phase with
  | .failed => .error .task
  | _ => .ok ()

def wakes (a : Agenda) : Option Nat :=
  match a.phase with
  | .resting => some a.due
  | _ => none

/-- What stopping an agenda answers that did not end in time. -/
def stopTimeout : Fault := .timeout "scheduler stop"

/-- What stopping an agenda and its channel answers together. The channel's fault is told before the
agenda's. -/
def stopAnswer (agenda channel : Except Fault Unit) : Except Fault Unit :=
  match channel with
  | .error fault => .error fault
  | .ok () => agenda

end Agenda

end FeedIngest.Delivery
