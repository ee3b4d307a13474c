import FeedIngest.Delivery.Office
import FeedIngest.Ingest.Service

/-!
# The newsroom

In a newsroom the service handles the jobs of a channel, an agenda may publish such jobs, and
somebody may ask for runs of his own in between. At one and the same moment his runs go on
first, then the workers, then the agenda.
-/

set_option autoImplicit false

namespace FeedIngest.Ingest

open Catalog (Article Call)
open Delivery (Agenda Channel Job Office Outlet Workshop)
open Time (Clockwork Span)

variable {σ : Type}

/-- A workshop as the outlet of an agenda: jobs are published to its channel, and the feeds
are listed by the service. -/
def Service.outlet (v : Service σ) : Outlet (Workshop σ Errand) where
  list w :=
    let (listed, state) := v.access.feedIds w.state
    (listed, { w with state })
  publish now ticket job w := w.change v.handler now fun c => c.publish ticket job
  answer? ticket w := w.channel.answer? ticket
  forget ticket w := { w with channel := (w.channel.withdraw ticket).forget ticket }
  clockwork := Workshop.clockwork v.handler

/-- A newsroom, with the runs that somebody asked for. -/
structure Newsroom (σ : Type) where
  office : Office (Workshop σ Errand)
  legs : List Leg

namespace Newsroom

def start (channel : Channel Errand) (state : σ) : Newsroom σ := ⟨.start ⟨channel, state⟩, []⟩

def state (n : Newsroom σ) : σ := n.office.state.state

def withState (n : Newsroom σ) (state : σ) : Newsroom σ :=
  { n with office := { n.office with state := { n.office.state with state } } }

def change (v : Service σ) (now : Nat)
    (f : Workshop σ Errand → Workshop σ Errand) (n : Newsroom σ) : Newsroom σ :=
  { n with office := n.office.change v.outlet now f }

/-! ## Waking -/

def goOn (v : Service σ) (now : Nat) (leg : Leg) (s : σ) : Leg × σ :=
  match leg with
  | .finished result => (.finished result, s)
  | .waits moment errand =>
    if moment.any (· ≤ now) then v.goOn now errand s else (.waits moment errand, s)

def goOnAll (v : Service σ) (now : Nat) : List Leg → σ → List Leg × σ
  | [], s => ([], s)
  | leg :: legs, s =>
    let (leg, s) := goOn v now leg s
    let (legs, s) := goOnAll v now legs s
    (leg :: legs, s)

def clockwork (v : Service σ) : Clockwork (Newsroom σ) where
  next n :=
    Time.earlier (Time.earliest (n.legs.filterMap Leg.wakes))
      ((Office.clockwork v.outlet).next n.office)
  wake now n :=
    let (legs, state) := goOnAll v now n.legs n.state
    let n := n.withState state
    ⟨(Office.clockwork v.outlet).wake now n.office, legs⟩

def elapse (v : Service σ) (now target : Nat) (n : Newsroom σ) : Newsroom σ :=
  (clockwork v).runTo now target n

/-! ## Runs -/

def beginAll (v : Service σ) (now : Nat) : List Int → σ → List Leg × σ
  | [], s => ([], s)
  | feedId :: rest, s =>
    let (leg, s) := v.begin now feedId s
    let (legs, s) := beginAll v now rest s
    (leg :: legs, s)

def areOver (n : Newsroom σ) : Bool := n.legs.all (·.result?.isSome)

def ingest (v : Service σ) (now : Nat) (feedIds : List Int) (n : Newsroom σ) :
    Nat × List (Option (Except Fault (List Article))) × Newsroom σ :=
  let (legs, state) := beginAll v now feedIds n.state
  let (moment, n) :=
    (clockwork v).runUntil areOver now (now + Time.patience) now { n.withState state with legs }
  (moment, n.legs.map Leg.result?, { n with legs := [] })

def handle (v : Service σ) (now : Nat) (feedId : Int) (n : Newsroom σ) :
    Nat × Option (Except Fault Unit) × Newsroom σ :=
  match n.ingest v now [feedId] with
  | (moment, [some result], n) =>
    let (result, state) := v.afterwards moment feedId result n.state
    (moment, some result, n.withState state)
  | (moment, _, n) => (moment, none, n)

/-! ## Calls -/

/-- Makes a call to the catalog and waits until its change is settled. -/
def call {α : Type} (v : Service σ) (now : Nat) (begin : σ → Call α × σ) (n : Newsroom σ) :
    Nat × Except Fault α × Newsroom σ :=
  match begin n.state with
  | (.answered answer, state) => (now, answer, n.withState state)
  | (.pending change answer, state) =>
    let moment := now + v.access.writing state
    let n := elapse v (now + 1) moment (n.withState state)
    let (result, state) := v.access.finish (.pending change answer) n.state
    (moment, result, n.withState state)

/-! ## The channel and the agenda -/

def publicationTicket : Nat := 0

/-- Publishes a job and waits until it is accepted or refused, but not after `limit`; an answer
at that very moment comes too late. -/
def publish (v : Service σ) (now limit : Nat) (job : Job) (n : Newsroom σ) :
    Nat × Option (Except Fault Unit) × Newsroom σ :=
  let answer? (n : Newsroom σ) := n.office.state.channel.answer? publicationTicket
  let n := n.change v now fun w =>
    w.change v.handler now fun c => c.publish publicationTicket job
  let (moment, n) :=
    (clockwork v).runUntil (fun n => (answer? n).isSome) (now + 1) (limit - 1) now n
  let answer := answer? n
  let moment := if answer.isSome then moment else limit
  let n := n.change v moment (v.outlet.forget publicationTicket)
  (moment, answer, elapse v moment moment n)

def consume (v : Service σ) (now : Nat) (n : Newsroom σ) : Except Fault (Newsroom σ) :=
  (n.office.state.channel.consume 0).map fun channel =>
    n.change v now fun w => w.change v.handler now fun _ => channel

def schedule (v : Service σ) (now period : Nat) (n : Newsroom σ) : Newsroom σ :=
  { n with office := n.office.schedule v.outlet now period }

/-- Stops the agenda, and then the channel even if that failed. -/
def stop (v : Service σ) (now : Nat) (grace : Span) (n : Newsroom σ) :
    Nat × Except Fault Unit × Newsroom σ :=
  let (agenda, office) := n.office.stopWithin v.outlet now grace
  let (moment, channel, workshop) := office.state.stop v.handler now
  (moment, Agenda.stopAnswer (agenda.getD (.ok ())) channel,
    { n with office := { office with state := workshop } })

end Newsroom

end FeedIngest.Ingest
