import FeedIngest.Delivery.Channel

/-!
# Workshops

A workshop is a channel whose workers are at work. A handler says what a worker does with a
job: he is done at once, or he goes on at some later moment, with a note of the stage that he
has reached. `σ` is the state of all that the handlers work on.
-/

set_option autoImplicit false

namespace FeedIngest.Delivery

open Time (Clockwork Span)

/-- How far a worker gets before he has to wait. -/
inductive Progress (τ : Type) where
  | done (result : Except Fault Unit)
  | waits (moment : Option Nat) (stage : τ)

/-- What the workers of a crew do with a job. -/
structure Handler (σ τ : Type) where
  begin (now crew : Nat) (job : Job) : σ → Progress τ × σ
  resume (now crew : Nat) (job : Job) (stage : τ) : σ → Progress τ × σ

/-- A channel with all that its handlers work on. -/
structure Workshop (σ τ : Type) where
  channel : Channel τ
  state : σ

namespace Workshop

variable {σ τ : Type}

/-- A worker has got as far as he can with a task. When it is done, it is his turn again. -/
def advance (w : Worker τ) (task : Task) (progress : Progress τ) (s : Workshop σ τ) :
    Workshop σ τ :=
  match progress with
  | .waits moment stage => { s with channel := s.channel.occupy w.id (.busy task moment stage) }
  | .done result => { s with channel := s.channel.finish w.id task result }

def seek (h : Handler σ τ) (now : Nat) (w : Worker τ) (s : Workshop σ τ) : Workshop σ τ :=
  match s.channel.fetch now w with
  | (.task task, channel) =>
    let (progress, state) := h.begin now w.crew task.job s.state
    advance w task progress ⟨channel, state⟩
  | (fetch, channel) => { s with channel := channel.heed w.id fetch }

def turn (h : Handler σ τ) (now : Nat) (w : Worker τ) (s : Workshop σ τ) : Workshop σ τ :=
  match w.occupation with
  | .busy task moment stage =>
    if moment.any (· ≤ now) then
      let (progress, state) := h.resume now w.crew task.job stage s.state
      advance w task progress { s with state }
    else s
  | .resting moment => if moment ≤ now then seek h now w s else s
  | _ => seek h now w s

def turnLimit : Nat := 1000000

/-- All workers have their turn, until nobody has anything to do. -/
def settle (h : Handler σ τ) (now : Nat) : Nat → Workshop σ τ → Workshop σ τ
  | 0, s => s
  | limit + 1, s =>
    match s.channel.turns with
    | [] => s
    | id :: turns =>
      let s := { s with channel := { s.channel with turns } }
      match s.channel.worker? id with
      | some w => settle h now limit (turn h now w s)
      | none => settle h now limit s

def run (h : Handler σ τ) (now : Nat) (s : Workshop σ τ) : Workshop σ τ := settle h now turnLimit s

def clockwork (h : Handler σ τ) : Clockwork (Workshop σ τ) where
  next s := s.channel.next
  wake now s := run h now { s with channel := s.channel.callDue now }

def change (h : Handler σ τ) (now : Nat) (f : Channel τ → Channel τ) (s : Workshop σ τ) :
    Workshop σ τ :=
  run h now { s with channel := f s.channel }

def elapse (h : Handler σ τ) (now target : Nat) (s : Workshop σ τ) : Workshop σ τ :=
  (clockwork h).runTo now target s

/-- Waits until something is the case, but only up to the moment `limit`; what happens at that
very moment comes too late. The result has the moment at which the wait is over. -/
def await (h : Handler σ τ) (done : Workshop σ τ → Bool) (now limit : Nat)
    (s : Workshop σ τ) : Nat × Bool × Workshop σ τ :=
  let (moment, s) := (clockwork h).runUntil done (now + 1) (limit - 1) now s
  if done s then (moment, true, s) else (limit, false, s)

/-- Publishes a job and waits until it is accepted or refused, but not after `limit`. -/
def publish (h : Handler σ τ) (now limit ticket : Nat) (job : Job) (s : Workshop σ τ) :
    Nat × Option (Except Fault Unit) × Workshop σ τ :=
  let s := s.change h now fun c => c.publish ticket job
  let (moment, told, s) := s.await h (fun s => (s.channel.answer? ticket).isSome) now limit
  if told then (moment, s.channel.answer? ticket, s)
  else (moment, none, elapse h moment moment { s with channel := s.channel.withdraw ticket })

/-- Stops the channel and waits for the workers who have not ended, but no longer than the
grace; then they are ended wherever they are. -/
def stop (h : Handler σ τ) (now : Nat) (s : Workshop σ τ) : Nat × Except Fault Unit × Workshop σ τ :=
  let (claimed, channel) := s.channel.signal
  let limit := now + channel.grace.ticks
  let isOver (s : Workshop σ τ) : Bool := s.channel.haveEnded claimed
  let s := { s with channel }
  let (moment, drained, s) :=
    if isOver s then (now, true, run h now s)
    else if limit ≤ now then (now, false, s)
    else (run h now s).await h isOver now limit
  if drained then (moment, .ok (), s)
  else
    let s := s.change h moment fun c => c.abort claimed
    (moment, .error Channel.drainTimeout, elapse h moment moment s)

end Workshop

end FeedIngest.Delivery
