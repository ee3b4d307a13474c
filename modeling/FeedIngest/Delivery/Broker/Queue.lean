import FeedIngest.Text.Blank

/-!
# The queue of a broker

A message is ready, leased to the receiver of its last delivery, or gone because that receiver
acknowledged it. A lease that was neither acknowledged nor returned in time puts its message
back. Receipts name a message and one delivery of it, so an outdated receipt names no lease.
-/

set_option autoImplicit false

namespace FeedIngest.Delivery

/-- A message and how often it was delivered. -/
structure Message where
  id : Nat
  payload : List UInt8
  attempt : Nat
deriving DecidableEq, Repr

def receiptText (id attempt : Nat) : String := Text.decimal id ++ ":" ++ Text.decimal attempt

def Message.receipt (m : Message) : String := receiptText m.id m.attempt

/-- A delivered message that is hidden from other receivers for a while, under the receipt of
its delivery. -/
structure Lease where
  receipt : String
  message : Message
  expires : Nat
deriving DecidableEq, Repr

inductive Reception where
  | message (message : Message)
  | closed
  /-- Nothing is ready; the first lease expires then, if there is one. -/
  | empty (expiry : Option Nat)
deriving DecidableEq, Repr

structure MessageQueue where
  lastId : Nat
  ready : List Message
  leases : List Lease
  closed : Bool
deriving DecidableEq, Repr

namespace MessageQueue

def empty : MessageQueue := ⟨0, [], [], false⟩

/-- Appends a new message. A closed queue takes none. -/
def send? (q : MessageQueue) (payload : List UInt8) : Option MessageQueue :=
  if q.closed then none
  else some { q with lastId := q.lastId + 1, ready := q.ready ++ [⟨q.lastId + 1, payload, 0⟩] }

def expired (q : MessageQueue) (now : Nat) : List Lease := q.leases.filter (·.expires ≤ now)

/-- Ends the leases that are over; `order` is the order in which their messages are put back. -/
def requeue (q : MessageQueue) (order : List Lease) (now : Nat) : MessageQueue :=
  { q with
    ready := q.ready ++ order.map (·.message)
    leases := q.leases.filter fun lease => !(lease.expires ≤ now) }

def nextExpiry (q : MessageQueue) : Option Nat := (q.leases.map (·.expires)).min?

def release (q : MessageQueue) (receipt : String) : MessageQueue :=
  { q with leases := q.leases.filter (·.receipt != receipt) }

/-- Leases a message. A receipt names one lease only, so an earlier one of that receipt would
be lost. -/
def grant (q : MessageQueue) (lease : Lease) : MessageQueue :=
  { q with leases := (q.release lease.receipt).leases ++ [lease] }

def deliver (q : MessageQueue) (now visibility : Nat) : Reception × MessageQueue :=
  match q.ready with
  | [] => (.empty q.nextExpiry, q)
  | m :: rest =>
    let m := { m with attempt := m.attempt + 1 }
    (.message m, { q with ready := rest }.grant ⟨m.receipt, m, now + visibility⟩)

/-- Receives a message, after the leases that are over have ended in the given order. A closed
queue gives none. -/
def receiveAfter (q : MessageQueue) (order : List Lease) (now visibility : Nat) :
    Reception × MessageQueue :=
  if q.closed then (.closed, q) else (q.requeue order now).deliver now visibility

def lease? (q : MessageQueue) (receipt : String) : Option Lease :=
  q.leases.find? (·.receipt == receipt)

def acknowledge (q : MessageQueue) (receipt : String) : MessageQueue := q.release receipt

/-- Puts a delivered message back; nothing happens for an outdated receipt. -/
def giveBack? (q : MessageQueue) (receipt : String) : Option MessageQueue :=
  (q.lease? receipt).map fun lease =>
    { q.release receipt with ready := q.ready ++ [lease.message] }

/-- Takes no more messages and gives none; those it has stay. -/
def close (q : MessageQueue) : MessageQueue := { q with closed := true }

end MessageQueue

end FeedIngest.Delivery
