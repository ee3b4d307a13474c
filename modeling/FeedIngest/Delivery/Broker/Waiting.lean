import FeedIngest.Delivery.Broker.Queue

/-!
# Waiting for a broker

Receivers wait for a broker in the order in which they came. A bell calls the first of them
when a message was sent or given back; if nobody waits, it stays rung for the next one. A
receiver also looks again when the lease that expired first when he last looked is over.
-/

set_option autoImplicit false

namespace FeedIngest.Delivery

/-- A receiver who waits, and when he will look again of himself. -/
structure Waiter where
  receiver : Nat
  deadline : Option Nat
deriving DecidableEq, Repr

/-- A queue of messages and the receivers who wait for it. -/
structure Broker where
  queue : MessageQueue
  visibility : Nat
  waiting : List Waiter
  rung : Bool
deriving DecidableEq, Repr

namespace Broker

def empty (visibility : Nat) : Broker := ⟨.empty, visibility, [], false⟩

/-- Rings the bell. The receiver who is called has to look again. -/
def ring (b : Broker) : Option Nat × Broker :=
  match b.waiting with
  | [] => (none, { b with rung := true })
  | first :: rest => (some first.receiver, { b with waiting := rest })

/-- Sends a message and rings the bell. Nothing is sent to a closed broker. -/
def send? (b : Broker) (payload : List UInt8) : Option (Option Nat × Broker) :=
  (b.queue.send? payload).map fun queue => { b with queue }.ring

/-- A receiver looks for a message, and waits if there is none. A bell that was rung before
has nothing more to tell him. Leases that are over end first, in the given order. -/
def lookAfter (b : Broker) (order : List Lease) (now receiver : Nat) : Reception × Broker :=
  let (reception, queue) := b.queue.receiveAfter order now b.visibility
  let b := { b with queue, rung := false }
  match reception with
  | .empty expiry => (reception, { b with waiting := b.waiting ++ [⟨receiver, expiry⟩] })
  | _ => (reception, b)

/-- A receiver looks for a message. Leases that are over at once end in the order in which they
began. -/
def look (b : Broker) (now receiver : Nat) : Reception × Broker :=
  b.lookAfter (b.queue.expired now) now receiver

def leave (b : Broker) (receiver : Nat) : Broker :=
  { b with waiting := b.waiting.filter (·.receiver != receiver) }

def acknowledge (b : Broker) (receipt : String) : Broker :=
  { b with queue := b.queue.acknowledge receipt }

/-- Gives a delivered message back and rings the bell; nothing happens for an outdated
receipt. -/
def giveBack (b : Broker) (receipt : String) : Option Nat × Broker :=
  match b.queue.giveBack? receipt with
  | some queue => { b with queue }.ring
  | none => (none, b)

/-- Closes the queue. All who wait have to look again. -/
def close (b : Broker) : List Nat × Broker :=
  (b.waiting.map (·.receiver), { b with queue := b.queue.close, waiting := [] })

def due (b : Broker) (now : Nat) : List Nat :=
  (b.waiting.filter fun w => w.deadline.any (· ≤ now)).map (·.receiver)

def next (b : Broker) : Option Nat := (b.waiting.filterMap (·.deadline)).min?

end Broker

end FeedIngest.Delivery
