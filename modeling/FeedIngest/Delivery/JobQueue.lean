import FeedIngest.Delivery.Job

/-!
# Queues of jobs

A queue holds a bounded number of jobs. Publishers who find it full wait in their order; for each
job that is taken the next of them is promised a place. When the queue closes, all who wait are
turned away and nobody gets in any more.
-/

set_option autoImplicit false

namespace FeedIngest.Delivery

/-- A publisher who waits, known by his ticket. -/
structure Publisher where
  ticket : Nat
  job : Job
deriving DecidableEq, Repr

structure JobQueue where
  capacity : Nat
  jobs : List Job
  blocked : List Publisher
  closed : Bool
deriving DecidableEq, Repr

inductive Offer where
  | accepted
  | waits
  | refused
deriving DecidableEq, Repr

namespace JobQueue

/-- An empty queue; it has room for one job at least. -/
def empty (capacity : Nat) : JobQueue := ⟨max capacity 1, [], [], false⟩

/-- The publishers who wait and whose places are free by now, in their order. -/
def promised (q : JobQueue) : List Publisher := q.blocked.take (q.capacity - q.jobs.length)

/-- A queue is full when each place is taken or promised. -/
def isFull (q : JobQueue) : Bool := q.capacity ≤ q.jobs.length + q.promised.length

/-- A publisher who was let in gets a place if there is one. Otherwise he waits, unless the queue has
been closed. -/
def offer (q : JobQueue) (ticket : Nat) (job : Job) : Offer × JobQueue :=
  if !q.isFull then (.accepted, { q with jobs := q.jobs ++ [job] })
  else if q.closed then (.refused, q)
  else (.waits, { q with blocked := q.blocked ++ [⟨ticket, job⟩] })

def withdraw (q : JobQueue) (ticket : Nat) : JobQueue :=
  { q with blocked := q.blocked.filter (·.ticket != ticket) }

def next? (q : JobQueue) : Option (Job × JobQueue) :=
  match q.jobs with
  | [] => none
  | job :: jobs => some (job, { q with jobs })

/-- A publisher who waited gets his place. -/
def enter (q : JobQueue) (p : Publisher) : JobQueue :=
  { q with jobs := q.jobs ++ [p.job], blocked := q.blocked.erase p }

/-- Closes the queue and turns away all who wait. Jobs that are in it stay. -/
def close (q : JobQueue) : List Nat × JobQueue :=
  (q.blocked.map (·.ticket), { q with blocked := [], closed := true })

/-- Nobody new can publish any more. Those who wait still get in. -/
def abandon (q : JobQueue) : JobQueue := { q with closed := true }

/-- No job can come any more. -/
def isOver (q : JobQueue) : Bool := q.closed && q.blocked.isEmpty

end JobQueue

end FeedIngest.Delivery
