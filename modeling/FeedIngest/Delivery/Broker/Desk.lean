import FeedIngest.Delivery.Broker.Waiting
import FeedIngest.Time.Clockwork

/-!
# The broker's desk

Receivers at the desk of a broker get one message each. Whoever is called looks again at
once. Of several receivers whose time has come at once, the one who runs the desk goes first.
-/

set_option autoImplicit false

namespace FeedIngest.Delivery

open Time (Clockwork)

/-- A broker and what its receivers have got. -/
structure BrokerDesk where
  broker : Broker
  received : List (Nat × Reception)
deriving DecidableEq, Repr

namespace BrokerDesk

def start (visibility : Nat) : BrokerDesk := ⟨.empty visibility, []⟩

def look (now : Nat) (d : BrokerDesk) (receiver : Nat) : BrokerDesk :=
  match d.broker.look now receiver with
  | (.empty _, broker) => { d with broker }
  | (reception, broker) => ⟨broker, d.received ++ [(receiver, reception)]⟩

def lookAgain (now : Nat) (called : List Nat) (broker : Broker) (d : BrokerDesk) : BrokerDesk :=
  called.foldl (look now) { d with broker }

/-- Sends a message, unless the broker is closed. -/
def send? (now : Nat) (payload : List UInt8) (d : BrokerDesk) : Option BrokerDesk :=
  (d.broker.send? payload).map fun (called, broker) => d.lookAgain now called.toList broker

def acknowledge (receipt : String) (d : BrokerDesk) : BrokerDesk :=
  { d with broker := d.broker.acknowledge receipt }

def giveBack (now : Nat) (receipt : String) (d : BrokerDesk) : BrokerDesk :=
  let (called, broker) := d.broker.giveBack receipt
  d.lookAgain now called.toList broker

def close (now : Nat) (d : BrokerDesk) : BrokerDesk :=
  let (called, broker) := d.broker.close
  d.lookAgain now called broker

def keeper : Nat := 0

def wake (now : Nat) (d : BrokerDesk) : BrokerDesk :=
  let due := d.broker.due now
  (due.filter (· == keeper) ++ due.filter (· != keeper)).foldl (fun d receiver =>
    look now { d with broker := d.broker.leave receiver } receiver) d

/-- A desk is woken when a receiver looks again of himself. -/
def clockwork : Clockwork BrokerDesk := ⟨fun d => d.broker.next, wake⟩

def reception? (receiver : Nat) (d : BrokerDesk) : Option Reception := d.received.lookup receiver

/-- The keeper receives a message and waits for it, but not after `limit`. -/
def receive (now limit : Nat) (d : BrokerDesk) : Nat × Option Reception × BrokerDesk :=
  let isDone (d : BrokerDesk) : Bool := (d.reception? keeper).isSome
  let (moment, d) := clockwork.runUntil isDone now limit now (look now d keeper)
  let moment := if isDone d then moment else limit
  (moment, d.reception? keeper,
    { broker := d.broker.leave keeper, received := d.received.filter (·.1 != keeper) })

end BrokerDesk

end FeedIngest.Delivery
