import FeedIngest.Delivery.Agenda
import FeedIngest.Time.Clockwork

/-!
# Offices

An office has an agenda that publishes to an outlet. Now and then somebody has an errand
there: a single pass over the feeds, which goes before the agenda when both could go on.
-/

set_option autoImplicit false

namespace FeedIngest.Delivery

open Time (Clockwork Span)

/-- Where jobs are published and feeds are listed. Publishing may take time; the answer is
found under a ticket, and is gone once it has been forgotten. -/
structure Outlet (σ : Type) where
  list : σ → Except Fault (List Int) × σ
  publish (now ticket : Nat) (job : Job) : σ → σ
  answer? (ticket : Nat) : σ → Option (Except Fault Unit)
  forget (ticket : Nat) : σ → σ
  clockwork : Clockwork σ

/-- An outlet with an agenda and an errand. -/
structure Office (σ : Type) where
  agenda : Option Agenda
  errand : Option Pass
  state : σ

namespace Office

variable {σ : Type}

def agendaTicket : Nat := 1

def errandTicket : Nat := 2

def start (state : σ) : Office σ := ⟨none, none, state⟩

def put (o : Outlet σ) (now ticket : Nat) (pass : Pass) (s : σ) : σ :=
  match pass with
  | .publishing feedId _ _ => o.publish now ticket ⟨feedId⟩ s
  | .finished _ => s

def pursue (o : Outlet σ) (now ticket : Nat) : Nat → Pass → σ → Pass × σ
  | 0, pass, s => (pass, s)
  | limit + 1, pass, s =>
    match pass with
    | .finished _ => (pass, s)
    | .publishing _ _ _ =>
      match o.answer? ticket s with
      | none => (pass, s)
      | some answer =>
        let pass := pass.hear answer
        pursue o now ticket limit pass (put o now ticket pass (o.forget ticket s))

def remaining : Pass → Nat
  | .publishing _ rest _ => rest.length + 2
  | .finished _ => 1

def passLimit : Nat := 1000000

/-- The agenda goes on as long as it need not wait. -/
def keepAgenda (o : Outlet σ) (now : Nat) : Nat → Agenda → σ → Agenda × σ
  | 0, a, s => (a, s)
  | limit + 1, a, s =>
    match a.phase with
    | .ended | .failed => (a, s)
    | .resting =>
      if a.due ≤ now then
        let (listed, s) := o.list s
        let pass := Pass.start listed
        keepAgenda o now limit (a.begin now pass) (put o now agendaTicket pass s)
      else (a, s)
    | .passing pass =>
      match pursue o now agendaTicket (remaining pass) pass s with
      | (.publishing feedId rest accepted, s) => (a.follow (.publishing feedId rest accepted), s)
      | (pass, s) => keepAgenda o now limit (a.follow pass) s

def run (o : Outlet σ) (now : Nat) (f : Office σ) : Office σ :=
  let (errand, state) := match f.errand with
    | some pass =>
      let (pass, state) := pursue o now errandTicket (remaining pass) pass f.state
      (some pass, state)
    | none => (none, f.state)
  match f.agenda with
  | some a =>
    let (a, state) := keepAgenda o now passLimit a state
    ⟨some a, errand, state⟩
  | none => ⟨none, errand, state⟩

def clockwork (o : Outlet σ) : Clockwork (Office σ) where
  next f := Time.earlier (f.agenda.bind Agenda.wakes) (o.clockwork.next f.state)
  wake now f := run o now { f with state := o.clockwork.wake now f.state }

def change (o : Outlet σ) (now : Nat) (g : σ → σ) (f : Office σ) : Office σ :=
  run o now { f with state := g f.state }

def elapse (o : Outlet σ) (now target : Nat) (f : Office σ) : Office σ :=
  (clockwork o).runTo now target f

def enqueueAll (o : Outlet σ) (now : Nat) (f : Office σ) :
    Nat × Option (Except Fault Nat) × Office σ :=
  let (listed, state) := o.list f.state
  let pass := Pass.start listed
  let f := run o now { f with errand := some pass, state := put o now errandTicket pass state }
  let isOver (f : Office σ) : Bool := (f.errand.bind Pass.result?).isSome
  let (moment, f) := (clockwork o).runUntil isOver now (now + Time.patience) now f
  (moment, f.errand.bind Pass.result?, { f with errand := none })

def cancel (o : Outlet σ) (now : Nat) (f : Office σ) : Office σ :=
  match f.agenda with
  | some _ => run o now { f with agenda := none, state := o.forget agendaTicket f.state }
  | none => f

def schedule (o : Outlet σ) (now period : Nat) (f : Office σ) : Office σ :=
  run o now { f.cancel o now with agenda := some (.start now period) }

def stop (o : Outlet σ) (now : Nat) (f : Office σ) : Option (Except Fault Unit) × Office σ :=
  (f.agenda.map Agenda.outcome, f.cancel o now)

/-- Stops the agenda within a span. An agenda that is not over ends at once, but not within
no time at all. -/
def stopWithin (o : Outlet σ) (now : Nat) (grace : Span) (f : Office σ) :
    Option (Except Fault Unit) × Office σ :=
  (f.agenda.map fun a =>
    if !a.isOver && grace.ticks == 0 then .error Agenda.stopTimeout else a.outcome, f.cancel o now)

end Office

end FeedIngest.Delivery
