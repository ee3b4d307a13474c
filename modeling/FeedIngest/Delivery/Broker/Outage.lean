import FeedIngest.Fault

/-!
# Outages of a broker

A broker can be out of order. Each kind of call has a list of what befalls its next calls: a
fault that comes instead of the call, or nothing.
-/

set_option autoImplicit false

namespace FeedIngest.Delivery

/-- What befalls the next calls of each kind. -/
structure Outages where
  send : List (Option Fault)
  receive : List (Option Fault)
  acknowledge : List (Option Fault)
  giveBack : List (Option Fault)
deriving DecidableEq, Repr

namespace Outages

def none : Outages := ⟨[], [], [], []⟩

def onSend (o : Outages) : Option Fault × Outages :=
  (o.send.head?.join, { o with send := o.send.tail })

def onReceive (o : Outages) : Option Fault × Outages :=
  (o.receive.head?.join, { o with receive := o.receive.tail })

def onAcknowledge (o : Outages) : Option Fault × Outages :=
  (o.acknowledge.head?.join, { o with acknowledge := o.acknowledge.tail })

def onGiveBack (o : Outages) : Option Fault × Outages :=
  (o.giveBack.head?.join, { o with giveBack := o.giveBack.tail })

end Outages

end FeedIngest.Delivery
