import FeedIngest.Delivery.Broker.Outage
import FeedIngest.Delivery.Broker.Waiting
import FeedIngest.Delivery.JobQueue
import FeedIngest.Delivery.Ring
import FeedIngest.Settings
import FeedIngest.Time.Clockwork

/-!
# Delivery channels

A channel hands published jobs to workers. A pool has one queue for all its workers and
forgets a job that failed. A bus shows every job to each of its subscribers. A broker channel
leases jobs from a broker and gives a failed job back until its deliveries are used up.

The functions here are the single steps of a channel: publishing, looking for the next task,
concluding it, and stopping. What goes on in between is told by the occupations of the
workers; `stage` is how far a worker has got with his task.
-/

set_option autoImplicit false

namespace FeedIngest.Delivery

open Time (Span)

/-- Where the jobs of a channel come from. -/
inductive Supply where
  | pool (queue : JobQueue)
  | bus (ring : Ring) (places : List (Nat × Nat))
  | broker (broker : Broker) (maxRedeliveries : Nat) (outages : Outages)
deriving DecidableEq, Repr

/-- A job in the hands of a worker, with the message that brought it. -/
structure Task where
  job : Job
  delivery : Option Message
deriving DecidableEq, Repr

inductive Occupation (τ : Type) where
  | asking
  | waiting
  | resting (wakes : Nat)
  | busy (task : Task) (wakes : Option Nat) (stage : τ)
deriving DecidableEq, Repr

/-- One worker. Those who began together form a crew. -/
structure Worker (τ : Type) where
  id : Nat
  crew : Nat
  occupation : Occupation τ
  dismissed : Bool
deriving DecidableEq, Repr

structure Channel (τ : Type) where
  supply : Supply
  crewSize : Nat
  /-- How long running tasks may take to finish when the channel stops. -/
  grace : Span
  closed : Bool
  hired : Nat
  workers : List (Worker τ)
  /-- The workers whom no call to stop has waited for yet. -/
  unclaimed : List Nat
  turns : List Nat
  answers : List (Nat × Except Fault Unit)

namespace Channel

variable {τ : Type}

def idle (supply : Supply) (crewSize : Nat) (grace : Span) : Channel τ :=
  ⟨supply, crewSize, grace, false, 0, [], [], [], []⟩

def pool (workers capacity : Nat) (grace : Span) : Channel τ :=
  idle (.pool (.empty capacity)) (max workers 1) grace

/-- How long running tasks may take to finish when no grace is chosen. -/
def usualGrace : Span := Span.ofSeconds 10

def bus (capacity : Nat) : Channel τ := idle (.bus (.empty capacity) []) 1 usualGrace

def broker (visibility : Nat) (outages : Outages) (consumers maxRedeliveries : Nat)
    (grace : Span) : Channel τ :=
  idle (.broker (.empty visibility) maxRedeliveries outages) (max consumers 1) grace

/-- How long a broker hides a delivered job when no time is chosen: five minutes. -/
def usualVisibility : Nat := 300000

def ofSettings (s : Settings) : Channel τ :=
  match s.backend with
  | .local => pool s.workerCount s.queueCapacity s.drainGrace
  | .broker => broker usualVisibility .none s.workerCount s.maxRedeliveries s.drainGrace

def worker? (c : Channel τ) (id : Nat) : Option (Worker τ) := c.workers.find? (·.id == id)

def isAlive (c : Channel τ) (id : Nat) : Bool := (c.worker? id).isSome

def occupy (c : Channel τ) (id : Nat) (occupation : Occupation τ) : Channel τ :=
  { c with workers := c.workers.map fun w => if w.id = id then { w with occupation } else w }

def call (c : Channel τ) (ids : List Nat) : Channel τ := { c with turns := c.turns ++ ids }

def answer (c : Channel τ) (ticket : Nat) (result : Except Fault Unit) : Channel τ :=
  { c with answers := c.answers ++ [(ticket, result)] }

def answer? (c : Channel τ) (ticket : Nat) : Option (Except Fault Unit) := c.answers.lookup ticket

def forget (c : Channel τ) (ticket : Nat) : Channel τ :=
  { c with answers := c.answers.filter (·.1 != ticket) }

def waiting (c : Channel τ) : List Nat :=
  (c.workers.filter fun w => w.occupation matches .waiting).map (·.id)

def dismiss (c : Channel τ) (id : Nat) : Channel τ :=
  let supply := match c.supply with
    | .broker b maxRedeliveries outages => .broker (b.leave id) maxRedeliveries outages
    | .bus ring places => .bus ring (places.filter (·.1 != id))
    | supply => supply
  { c with supply, workers := c.workers.filter (·.id != id), turns := c.turns.filter (· != id) }

/-! ## Publishing -/

/-- Whether somebody is let in who has a job to publish. -/
def admits (c : Channel τ) : Bool :=
  match c.supply with
  | .pool queue => !c.closed && !queue.closed
  | .bus .. => true
  | .broker .. => !c.closed

/-- A publisher who was let in hands over his job. -/
def handOver (c : Channel τ) (ticket : Nat) (job : Job) : Channel τ :=
  match c.supply with
  | .pool queue =>
    match queue.offer ticket job with
    | (.accepted, queue) =>
      ({ c with supply := .pool queue }.answer ticket (.ok ())).call c.waiting
    | (.waits, queue) => { c with supply := .pool queue }
    | (.refused, queue) => { c with supply := .pool queue }.answer ticket (.error .channelClosed)
  | .bus ring places =>
    if c.workers.isEmpty then c.answer ticket (.ok ())
    else ({ c with supply := .bus (ring.publish job) places }.answer ticket (.ok ())).call c.waiting
  | .broker b maxRedeliveries outages =>
    match outages.onSend with
    | (some fault, outages) =>
      { c with supply := .broker b maxRedeliveries outages }.answer ticket (.error fault)
    | (none, outages) =>
      match b.send? job.payload with
      | some (called, b) =>
        ({ c with supply := .broker b maxRedeliveries outages }.answer ticket (.ok ())).call
          called.toList
      | none =>
        { c with supply := .broker b maxRedeliveries outages }.answer ticket (.error .channelClosed)

/-- Publishes a job, when nothing happens between the two. -/
def publish (c : Channel τ) (ticket : Nat) (job : Job) : Channel τ :=
  if c.admits then c.handOver ticket job else c.answer ticket (.error .channelClosed)

def withdraw (c : Channel τ) (ticket : Nat) : Channel τ :=
  match c.supply with
  | .pool queue => { c with supply := .pool (queue.withdraw ticket) }
  | _ => c

/-- A publisher who waited gets his place in the queue of a pool. -/
def enter (c : Channel τ) (p : Publisher) : Channel τ :=
  match c.supply with
  | .pool queue => { c with supply := .pool (queue.enter p) }.answer p.ticket (.ok ())
  | _ => c

/-- The publishers who may enter by now. -/
def promised (c : Channel τ) : List Publisher :=
  match c.supply with
  | .pool queue => queue.promised
  | _ => []

/-- The first publisher who was promised a place gets it. -/
def letIn (c : Channel τ) : Channel τ := c.promised.head?.elim c c.enter

def sendRaw? (c : Channel τ) (payload : List UInt8) : Option (Channel τ) :=
  match c.supply with
  | .broker b maxRedeliveries outages =>
    (b.send? payload).map fun (called, b) =>
      { c with supply := .broker b maxRedeliveries outages }.call called.toList
  | _ => none

def closeBroker (c : Channel τ) : Channel τ :=
  match c.supply with
  | .broker b maxRedeliveries outages =>
    let (called, b) := b.close
    { c with supply := .broker b maxRedeliveries outages }.call called
  | _ => c

/-! ## Working -/

/-- A worker begins. He hears of all who tell him to go from now on. -/
def enlist (c : Channel τ) (crew : Nat) : Channel τ :=
  let supply := match c.supply with
    | .bus ring places => .bus ring (places ++ [(c.hired, ring.published)])
    | supply => supply
  { c with
    supply
    hired := c.hired + 1
    workers := c.workers ++ [⟨c.hired, crew, .asking, false⟩]
    turns := c.turns ++ [c.hired] }

/-- From now on a call to stop can wait for the worker. -/
def register (c : Channel τ) (id : Nat) : Channel τ := { c with unclaimed := c.unclaimed ++ [id] }

/-- A crew begins, one worker after the other. -/
def hire (c : Channel τ) (crew : Nat) : Channel τ :=
  (List.range c.crewSize).foldl (fun c _ => (c.enlist crew).register c.hired) c

/-- Starts consuming, when nothing happens in between. The crew of a pool begins only once, and a
closed channel has none. -/
def consume (c : Channel τ) (crew : Nat) : Except Fault (Channel τ) :=
  if c.closed then .error .channelClosed
  else match c.supply with
    | .pool _ => .ok (if c.hired = 0 then c.hire crew else c)
    | _ => .ok (c.hire crew)

inductive Fetch where
  | task (task : Task)
  | again
  | waits
  | rests (wakes : Nat)
  | ends
deriving DecidableEq, Repr

def rest : Nat := 200

/-- Acknowledges a message, unless the broker is out of order. -/
def acknowledge (c : Channel τ) (receipt : String) : Channel τ :=
  match c.supply with
  | .broker b maxRedeliveries outages =>
    match outages.onAcknowledge with
    | (some _, outages) => { c with supply := .broker b maxRedeliveries outages }
    | (none, outages) =>
      { c with supply := .broker (b.acknowledge receipt) maxRedeliveries outages }
  | _ => c

/-- Gives a message back, unless the broker is out of order. -/
def giveBack (c : Channel τ) (receipt : String) : Channel τ :=
  match c.supply with
  | .broker b maxRedeliveries outages =>
    match outages.onGiveBack with
    | (some _, outages) => { c with supply := .broker b maxRedeliveries outages }
    | (none, outages) =>
      let (called, b) := b.giveBack receipt
      { c with supply := .broker b maxRedeliveries outages }.call called.toList
  | _ => c

/-- The messages of a channel that has a broker. -/
def queue (c : Channel τ) : MessageQueue :=
  match c.supply with
  | .broker b _ _ => b.queue
  | _ => .empty

/-- Looks for a message, after leases that are over have ended in the given order. One that
describes no job is dropped. -/
def lookAtBrokerAfter (c : Channel τ) (order : List Lease) (now id : Nat) (b : Broker)
    (maxRedeliveries : Nat) (outages : Outages) : Fetch × Channel τ :=
  let (reception, b) := b.lookAfter order now id
  let c := { c with supply := .broker b maxRedeliveries outages }
  match reception with
  | .closed => (.ends, c)
  | .empty _ => (.waits, c)
  | .message m =>
    match Job.ofPayload? m.payload with
    | some job => (.task ⟨job, some m⟩, c)
    | none => (.again, c.acknowledge m.receipt)

/-- A worker asks for his next task, or looks again after he waited. The order is that in which
leases end that are over. -/
def fetchAfter (c : Channel τ) (order : List Lease) (now : Nat) (w : Worker τ) : Fetch × Channel τ :=
  if w.dismissed then (.ends, c)
  else match c.supply with
    | .pool queue =>
      match queue.next? with
      | none => (if queue.isOver then .ends else .waits, c)
      | some (job, queue) => (.task ⟨job, none⟩, { c with supply := .pool queue }.letIn)
    | .bus ring places =>
      match ring.read? ((places.lookup w.id).getD 0) with
      | none => (.waits, c)
      | some (job, place) =>
        let places := places.map fun p => if p.1 = w.id then (w.id, place) else p
        (.task ⟨job, none⟩, { c with supply := .bus ring places })
    | .broker b maxRedeliveries outages =>
      match w.occupation with
      | .waiting => c.lookAtBrokerAfter order now w.id (b.leave w.id) maxRedeliveries outages
      | _ =>
        match outages.onReceive with
        | (some _, outages) =>
          (.rests (now + rest), { c with supply := .broker b maxRedeliveries outages })
        | (none, outages) => c.lookAtBrokerAfter order now w.id b maxRedeliveries outages

/-- A worker asks for his next task. Leases that are over at once end in the order in which they
began. -/
def fetch (c : Channel τ) (now : Nat) (w : Worker τ) : Fetch × Channel τ :=
  c.fetchAfter (c.queue.expired now) now w

/-- Where a worker goes who has no task. -/
def heed (c : Channel τ) (id : Nat) : Fetch → Channel τ
  | .task _ => c
  | .ends => c.dismiss id
  | .waits => c.occupy id .waiting
  | .rests wakes => c.occupy id (.resting wakes)
  | .again => { c.occupy id .asking with turns := id :: c.turns }

/-- Whether a job is done with after a delivery: it succeeded, it cannot succeed, or its
deliveries are used up. -/
def isFinal (maxRedeliveries attempt : Nat) : Except Fault Unit → Bool
  | .ok () => true
  | .error fault => fault.isTerminal || maxRedeliveries < attempt

/-- Concludes a task. Only a broker is told how it went. -/
def conclude (c : Channel τ) (task : Task) (result : Except Fault Unit) : Channel τ :=
  match c.supply, task.delivery with
  | .broker _ maxRedeliveries _, some m =>
    if isFinal maxRedeliveries m.attempt result then c.acknowledge m.receipt
    else c.giveBack m.receipt
  | _, _ => c

/-- A worker is done with a task, and it is his turn again. -/
def finish (c : Channel τ) (id : Nat) (task : Task) (result : Except Fault Unit) : Channel τ :=
  let c := (c.occupy id .asking).conclude task result
  { c with turns := id :: c.turns }

/-! ## Stopping -/

/-- Nobody is let in any more. A bus goes on for later subscribers. -/
def close (c : Channel τ) : Channel τ :=
  match c.supply with
  | .bus .. => c
  | _ => { c with closed := true }

/-- The publishers who wait for a place are turned away. -/
def turnAway (c : Channel τ) : Channel τ :=
  match c.supply with
  | .pool queue =>
    let (refused, queue) := queue.close
    { c with
      supply := .pool queue
      answers := c.answers ++ refused.map fun ticket => (ticket, .error .channelClosed) }
  | _ => c

/-- The workers who are there are told to take no further task. -/
def tell (c : Channel τ) : Channel τ :=
  { c with
    workers := c.workers.map fun w => { w with dismissed := true }
    turns := c.turns ++ c.waiting }

/-- Whom no call to stop waited for is waited for now. -/
def claim (c : Channel τ) : Channel τ := { c with unclaimed := [] }

/-- What a call to stop does before it waits, when nothing happens in between. The result has the
workers whom it waits for. -/
def signal (c : Channel τ) : List Nat × Channel τ :=
  let told := c.close.turnAway.tell
  (told.unclaimed, told.claim)

def haveEnded (c : Channel τ) (ids : List Nat) : Bool := ids.all fun id => !c.isAlive id

def abort (c : Channel τ) (ids : List Nat) : Channel τ := ids.foldl dismiss c

/-- What a call to stop answers when the grace is over and not all have ended. -/
def drainTimeout : Fault := .timeout "worker drain"

/-- The last owner of a pool drops it. Jobs that are in its queue are still taken, and then the
workers end. -/
def abandon (c : Channel τ) : Channel τ :=
  match c.supply with
  | .pool queue => { c with supply := .pool queue.abandon, closed := true }.call c.waiting
  | _ => c

/-! ## Waking -/

def Worker.wakes (w : Worker τ) : Option Nat :=
  match w.occupation with
  | .resting moment => some moment
  | .busy _ moment _ => moment
  | _ => none

def next (c : Channel τ) : Option Nat :=
  let worker := Time.earliest (c.workers.filterMap Worker.wakes)
  match c.supply with
  | .broker b _ _ => Time.earlier worker b.next
  | _ => worker

def callDue (c : Channel τ) (now : Nat) : Channel τ :=
  let lookers := match c.supply with
    | .broker b _ _ => b.due now
    | _ => []
  c.call ((c.workers.filter fun w => (Worker.wakes w).any (· ≤ now) || lookers.contains w.id).map
    (·.id))

end Channel

end FeedIngest.Delivery
