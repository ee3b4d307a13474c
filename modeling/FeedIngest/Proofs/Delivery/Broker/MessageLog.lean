import Mathlib.Data.List.Basic
import Mathlib.Data.List.Nodup
import Mathlib.Data.List.Perm.Basic
import Mathlib.Logic.Relation
import FeedIngest.Delivery.Broker.Queue
import FeedIngest.Proofs.Text.Decimal

/-!
# Where the messages of a broker are

A log of messages has their queue and what has happened to it: what was sent, what was
delivered, and which messages were acknowledged, each with the receipt that named it. Whatever
the order of the calls, every message is in one place, and first deliveries are made in the
order of sending.
-/

set_option autoImplicit false

namespace FeedIngest.Delivery

open Text (digits digits_injective colon_not_mem_digits)

/-! ## Receipts -/

private theorem takeWhile_before_colon {before after : List Char} (plain : ':' ∉ before) :
    (before ++ ':' :: after).takeWhile (· != ':') = before := by
  rw [List.takeWhile_append_of_pos]
  · simp
  · intro c member
    have other : c ≠ ':' := fun same => plain (same ▸ member)
    simpa using other

/-- A receipt tells which message it is for. -/
theorem receiptText_id {id other attempt otherAttempt : Nat}
    (same : receiptText id attempt = receiptText other otherAttempt) : id = other := by
  have letters := congrArg String.toList same
  simp only [receiptText, Text.decimal, String.toList_append, String.toList_ofList] at letters
  have colon : (":" : String).toList = [':'] := rfl
  simp only [colon, List.append_assoc, List.singleton_append] at letters
  have heads := congrArg (List.takeWhile (· != ':')) letters
  rw [takeWhile_before_colon (colon_not_mem_digits id),
    takeWhile_before_colon (colon_not_mem_digits other)] at heads
  exact digits_injective heads

/-! ## Logs of messages -/

def Reception.message? : Reception → Option Message
  | .message m => some m
  | _ => none

structure MessageLog where
  queue : MessageQueue
  /-- The payloads that were sent; the first one has the id 1. -/
  sent : List (List UInt8)
  /-- The messages as they were delivered. -/
  delivered : List Message
  /-- The messages that were acknowledged, under the receipt that was named. -/
  settled : List (String × Message)

namespace MessageLog

def start : MessageLog := ⟨.empty, [], [], []⟩

def noteReception (p : MessageLog) (received : Reception × MessageQueue) : MessageLog :=
  { p with
    queue := received.2
    delivered := p.delivered ++ received.1.message?.toList }

def noteAcknowledgement (p : MessageLog) (receipt : String) : MessageLog :=
  { p with
    queue := p.queue.acknowledge receipt
    settled := p.settled ++ (p.queue.lease? receipt).toList.map fun lease => (receipt, lease.message) }

/-- One call to the queue. The moments at which receivers look are arbitrary, and so is the
order in which leases that are over end. Calls that are refused change nothing and are left
out. -/
inductive Step (visibility : Nat) : MessageLog → MessageLog → Prop where
  | send {p : MessageLog} {payload : List UInt8} {queue : MessageQueue} :
      p.queue.send? payload = some queue →
      Step visibility p { p with queue, sent := p.sent ++ [payload] }
  | receive {p : MessageLog} {order : List Lease} {now : Nat} :
      order.Perm (p.queue.expired now) →
      Step visibility p (p.noteReception (p.queue.receiveAfter order now visibility))
  | acknowledge {p : MessageLog} {receipt : String} :
      Step visibility p (p.noteAcknowledgement receipt)
  | giveBack {p : MessageLog} {receipt : String} {queue : MessageQueue} :
      p.queue.giveBack? receipt = some queue → Step visibility p { p with queue }
  | close {p : MessageLog} : Step visibility p { p with queue := p.queue.close }

abbrev Run (visibility : Nat) : MessageLog → MessageLog → Prop :=
  Relation.ReflTransGen (Step visibility)

/-- All messages that were ever sent, place by place: ready, leased, acknowledged. -/
def messages (p : MessageLog) : List Message :=
  p.queue.ready ++ p.queue.leases.map (·.message) ++ p.settled.map (·.2)

structure Accounted (sent : List (List UInt8)) (delivered messages : List Message) : Prop where
  /-- Each id that was given to a message is found once. -/
  placed : (messages.map (·.id)).Perm (List.range' 1 sent.length)
  /-- The payload of a message is the one that was sent, also whenever it is delivered. -/
  payload : ∀ m ∈ messages ++ delivered, sent[m.id - 1]? = some m.payload
  /-- A message counts its deliveries. -/
  attempt : ∀ m ∈ messages, m.attempt = delivered.countP (·.id == m.id)
  /-- A delivery has the number of deliveries that its message had by then. -/
  numbered : ∀ k m, delivered[k]? = some m →
    m.attempt = (delivered.take (k + 1)).countP (·.id == m.id)

structure Conserved (p : MessageLog) : Prop where
  accounted : Accounted p.sent p.delivered p.messages
  lastId : p.queue.lastId = p.sent.length
  /-- A lease has the receipt of the last delivery of its message. -/
  receipt : ∀ lease ∈ p.queue.leases, lease.receipt = lease.message.receipt
  /-- An acknowledgement that removed a message named the receipt of its last delivery. -/
  named : ∀ entry ∈ p.settled, entry.1 = entry.2.receipt
  /-- A message that was never delivered is neither leased nor acknowledged. -/
  delivered : ∀ m ∈ p.queue.leases.map (·.message) ++ p.settled.map (·.2), m.attempt ≠ 0
  /-- First deliveries are made in the order of sending; the messages that were never delivered
  stand ready in that order. -/
  order :
    (p.delivered.filter (·.attempt == 1)).map (·.id) ++
      (p.queue.ready.filter (·.attempt == 0)).map (·.id) = List.range' 1 p.sent.length

theorem start_conserved : start.Conserved where
  accounted := ⟨.nil, by simp [start, messages, MessageQueue.empty],
    by simp [start, messages, MessageQueue.empty], by simp [start]⟩
  lastId := rfl
  receipt := by simp [start, MessageQueue.empty]
  named := by simp [start]
  delivered := by simp [start, MessageQueue.empty]
  order := rfl

/-! ## What messages have in common wherever they are -/

namespace Accounted

variable {sent : List (List UInt8)} {delivered messages : List Message}

theorem perm {others : List Message} (accounted : Accounted sent delivered messages)
    (same : others.Perm messages) : Accounted sent delivered others where
  placed := (same.map _).trans accounted.placed
  payload m member := by
    refine accounted.payload m ?_
    simpa only [List.mem_append, same.mem_iff] using member
  attempt m member := accounted.attempt m (same.mem_iff.mp member)
  numbered := accounted.numbered

theorem ids_nodup (accounted : Accounted sent delivered messages) :
    (messages.map (·.id)).Nodup :=
  accounted.placed.nodup_iff.mpr List.nodup_range'

private theorem send (accounted : Accounted sent delivered messages) (payload : List UInt8) :
    Accounted (sent ++ [payload]) delivered (⟨sent.length + 1, payload, 0⟩ :: messages) where
  placed := by
    rw [List.length_append, List.length_singleton, List.range'_concat, List.map_cons]
    refine (List.Perm.cons _ accounted.placed).trans ?_
    simpa only [Nat.one_mul, Nat.add_comm] using (List.perm_append_singleton _ _).symm
  payload m member := by
    rcases List.mem_cons.mp member with rfl | old
    · simp
    · have found := accounted.payload m old
      have inside : m.id - 1 < sent.length := (List.getElem?_eq_some_iff.mp found).1
      rw [List.getElem?_append_left inside, found]
  attempt m member := by
    rcases List.mem_cons.mp member with rfl | old
    · -- No delivery can have had an id that was not given yet.
      symm
      rw [List.countP_eq_zero]
      intro other wasDelivered same
      have found := accounted.payload other (List.mem_append_right _ wasDelivered)
      have inside : other.id - 1 < sent.length := (List.getElem?_eq_some_iff.mp found).1
      have equal : other.id = sent.length + 1 := by simpa using same
      omega
    · exact accounted.attempt m old
  numbered := accounted.numbered

private theorem deliver {m : Message} (accounted : Accounted sent delivered (m :: messages)) :
    Accounted sent (delivered ++ [{ m with attempt := m.attempt + 1 }])
      ({ m with attempt := m.attempt + 1 } :: messages) where
  placed := accounted.placed
  payload other member := by
    rcases List.mem_append.mp member with member | member
    · rcases List.mem_cons.mp member with rfl | member
      · exact accounted.payload m (by simp)
      · exact accounted.payload other (by simp [member])
    · rcases List.mem_append.mp member with member | member
      · exact accounted.payload other (by simp [member])
      · rw [List.mem_singleton.mp member]
        exact accounted.payload m (by simp)
  attempt other member := by
    rw [List.countP_append, List.countP_singleton]
    rcases List.mem_cons.mp member with rfl | member
    · simp [accounted.attempt m List.mem_cons_self]
    · have distinct : m.id ≠ other.id := by
        have unique := accounted.ids_nodup
        rw [List.map_cons, List.nodup_cons] at unique
        intro same
        exact unique.1 (List.mem_map.mpr ⟨other, member, same.symm⟩)
      simp [distinct, accounted.attempt other (List.mem_cons_of_mem _ member)]
  numbered k other found := by
    by_cases earlier : k < delivered.length
    · rw [List.getElem?_append_left earlier] at found
      rw [List.take_append_of_le_length earlier]
      exact accounted.numbered k other found
    · obtain ⟨inside, rfl⟩ := List.getElem?_eq_some_iff.mp found
      simp only [List.length_append, List.length_singleton] at inside
      have last : k = delivered.length := by omega
      subst last
      rw [List.take_of_length_le (by simp), List.countP_append]
      simp [accounted.attempt m List.mem_cons_self]

end Accounted

/-! ## Leases -/

section Leases

variable {q : MessageQueue} {receipt : String}

private theorem release_of_unknown (unknown : q.lease? receipt = none) :
    (q.release receipt).leases = q.leases := by
  refine List.filter_eq_self.mpr fun lease member => ?_
  simpa using List.find?_eq_none.mp unknown lease member

/-- Releasing takes the one lease that the receipt names. -/
private theorem release_perm {lease : Lease} (unique : (q.leases.map (·.receipt)).Nodup)
    (found : q.lease? receipt = some lease) :
    q.leases.Perm (lease :: (q.release receipt).leases) := by
  obtain ⟨named, before, after, split, earlier⟩ := List.find?_eq_some_iff_append.mp found
  have same : lease.receipt = receipt := by simpa using named
  have later : ∀ other ∈ after, other.receipt ≠ receipt := by
    intro other member equal
    rw [split, List.map_append, List.map_cons, same] at unique
    have tail := (List.nodup_append.mp unique).2.1
    exact (List.nodup_cons.mp tail).1 (List.mem_map.mpr ⟨other, member, equal⟩)
  have rest : (q.release receipt).leases = before ++ after := by
    simp only [MessageQueue.release, split, List.filter_append, List.filter_cons, same]
    rw [List.filter_eq_self.mpr (fun other member => by simpa using earlier other member),
      List.filter_eq_self.mpr (fun other member => by simpa using later other member)]
    simp
  rw [rest, split]
  exact List.perm_middle

/-- A message whose lease is released comes to the front of the others that are not ready. -/
private theorem message_release_perm {lease : Lease} (unique : (q.leases.map (·.receipt)).Nodup)
    (found : q.lease? receipt = some lease) (others : List Message) :
    (lease.message :: ((q.release receipt).leases.map (·.message) ++ others)).Perm
      (q.leases.map (·.message) ++ others) :=
  (((release_perm unique found).map Lease.message).append_right others).symm

private theorem expired_perm (now : Nat) :
    q.leases.Perm (q.expired now ++ (q.requeue (q.expired now) now).leases) :=
  (List.filter_append_perm _ q.leases).symm

end Leases

namespace Conserved

variable {p : MessageLog}

theorem ids_nodup (conserved : p.Conserved) : (p.messages.map (·.id)).Nodup :=
  conserved.accounted.ids_nodup

/-- No two leases have one receipt. -/
theorem receipts_nodup (conserved : p.Conserved) :
    (p.queue.leases.map (·.receipt)).Nodup := by
  have ids := conserved.ids_nodup
  simp only [messages, List.map_append, List.map_map] at ids
  have leased := (List.nodup_append.mp (List.nodup_append.mp ids).1).2.1
  rw [List.Nodup, List.pairwise_map] at leased ⊢
  refine leased.imp_of_mem fun {one other} oneMember otherMember distinct same => distinct ?_
  rw [conserved.receipt one oneMember, conserved.receipt other otherMember] at same
  exact receiptText_id same

private theorem send (conserved : p.Conserved) {payload : List UInt8} {queue : MessageQueue}
    (accepted : p.queue.send? payload = some queue) :
    Conserved { p with queue, sent := p.sent ++ [payload] } := by
  unfold MessageQueue.send? at accepted
  split at accepted
  · cases accepted
  · cases accepted
    refine ⟨?_, ?_, conserved.receipt, conserved.named, conserved.delivered, ?_⟩
    · refine (conserved.accounted.send payload).perm ?_
      simp only [messages, conserved.lastId, List.append_assoc, List.singleton_append]
      exact List.perm_middle
    · simp [conserved.lastId]
    · simp only [List.filter_append, List.map_append, conserved.lastId]
      rw [← List.append_assoc, conserved.order, List.length_append, List.length_singleton,
        List.range'_concat]
      simp [Nat.add_comm]

theorem requeue (conserved : p.Conserved) {order : List Lease} {now : Nat}
    (ended : order.Perm (p.queue.expired now)) :
    Conserved { p with queue := p.queue.requeue order now } := by
  have kept : ∀ lease ∈ (p.queue.requeue order now).leases, lease ∈ p.queue.leases :=
    fun lease member => List.mem_of_mem_filter member
  have leased : ∀ lease ∈ order, lease ∈ p.queue.leases :=
    fun lease member => List.mem_of_mem_filter (ended.mem_iff.mp member)
  refine ⟨?_, conserved.lastId, fun lease member => conserved.receipt lease (kept lease member),
    conserved.named, ?_, ?_⟩
  · refine conserved.accounted.perm ?_
    have moved : (order.map (·.message) ++
        (p.queue.requeue order now).leases.map (·.message)).Perm
          (p.queue.leases.map (·.message)) := by
      rw [← List.map_append]
      exact ((ended.append_right _).trans (expired_perm now).symm).map _
    have placed := (moved.append_left p.queue.ready).append_right (p.settled.map (·.2))
    simpa only [messages, MessageQueue.requeue, List.append_assoc] using placed
  · intro m member
    refine conserved.delivered m ?_
    rcases List.mem_append.mp member with leased | acknowledged
    · obtain ⟨lease, inside, rfl⟩ := List.mem_map.mp leased
      exact List.mem_append_left _ (List.mem_map_of_mem (kept lease inside))
    · exact List.mem_append_right _ acknowledged
  · -- What comes back was delivered before.
    have nothing : (order.map (·.message)).filter (·.attempt == 0) = [] := by
      refine List.filter_eq_nil_iff.mpr fun m member => ?_
      obtain ⟨lease, inside, rfl⟩ := List.mem_map.mp member
      have was := conserved.delivered lease.message
        (List.mem_append_left _ (List.mem_map_of_mem (leased lease inside)))
      simpa using was
    simp only [MessageQueue.requeue, List.filter_append, nothing, List.append_nil]
    exact conserved.order

/-- A receipt of a delivery that is about to be made names no lease. -/
private theorem receipt_fresh (conserved : p.Conserved) {m : Message} {rest : List Message}
    (ready : p.queue.ready = m :: rest) {lease : Lease} (leased : lease ∈ p.queue.leases) :
    lease.receipt ≠ receiptText m.id (m.attempt + 1) := by
  intro same
  rw [conserved.receipt lease leased] at same
  have ids := conserved.ids_nodup
  simp only [messages, ready, List.map_append, List.map_cons, List.cons_append,
    List.nodup_cons] at ids
  refine ids.1 (List.mem_append_left _ (List.mem_append_right _ ?_))
  exact List.mem_map.mpr ⟨lease.message, List.mem_map_of_mem leased, receiptText_id same⟩

private theorem deliver (conserved : p.Conserved) (now visibility : Nat) :
    (p.noteReception (p.queue.deliver now visibility)).Conserved := by
  unfold MessageQueue.deliver
  split
  · -- Nothing was ready, and nothing has changed.
    simpa only [noteReception, Reception.message?, Option.toList_none, List.append_nil]
      using conserved
  · next m rest ready =>
    have others : (p.queue.leases.filter (·.receipt != receiptText m.id (m.attempt + 1))) =
        p.queue.leases :=
      List.filter_eq_self.mpr fun lease leased => by
        simpa using conserved.receipt_fresh ready leased
    have before : p.messages.Perm
        (m :: (rest ++ p.queue.leases.map (·.message) ++ p.settled.map (·.2))) := by
      simp [messages, ready]
    simp only [noteReception, Reception.message?, Option.toList_some, MessageQueue.grant,
      MessageQueue.release, Message.receipt, others]
    refine ⟨?_, conserved.lastId, ?_, conserved.named, ?_, ?_⟩
    · refine (conserved.accounted.perm before.symm).deliver.perm ?_
      simp only [messages, List.map_append, List.map_cons, List.map_nil, List.append_assoc,
        List.singleton_append]
      rw [← List.append_assoc]
      refine List.perm_middle.trans ?_
      rw [List.append_assoc]
    · intro lease leased
      rcases List.mem_append.mp leased with old | new
      · exact conserved.receipt lease old
      · rw [List.mem_singleton.mp new]
        rfl
    · intro other member
      simp only [List.map_append, List.map_cons, List.map_nil, List.mem_append,
        List.mem_singleton] at member
      rcases member with (old | rfl) | acknowledged
      · exact conserved.delivered other (List.mem_append_left _ old)
      · exact Nat.succ_ne_zero _
      · exact conserved.delivered other (List.mem_append_right _ acknowledged)
    · -- The first ready message leaves one list of the order and enters the other.
      have order := conserved.order
      rw [ready, List.filter_cons] at order
      rw [List.filter_append, List.map_append, List.append_assoc, ← order]
      by_cases first : m.attempt = 0
      · simp [first]
      · simp [first]

theorem receive (conserved : p.Conserved) {order : List Lease} {now : Nat}
    (ended : order.Perm (p.queue.expired now)) (visibility : Nat) :
    (p.noteReception (p.queue.receiveAfter order now visibility)).Conserved := by
  unfold MessageQueue.receiveAfter
  split
  · simpa only [noteReception, Reception.message?, Option.toList_none, List.append_nil]
      using conserved
  · exact (conserved.requeue ended).deliver now visibility

private theorem acknowledge (conserved : p.Conserved) (receipt : String) :
    (p.noteAcknowledgement receipt).Conserved := by
  have kept : ∀ lease ∈ (p.queue.release receipt).leases, lease ∈ p.queue.leases :=
    fun lease member => List.mem_of_mem_filter member
  cases found : p.queue.lease? receipt with
  | none =>
    have same : p.queue.acknowledge receipt = p.queue := by
      have leases := release_of_unknown found
      simp only [MessageQueue.release] at leases
      simp only [MessageQueue.acknowledge, MessageQueue.release, leases]
    simpa only [noteAcknowledgement, found, same, Option.toList_none, List.map_nil,
      List.append_nil] using conserved
  | some lease =>
    have split := release_perm conserved.receipts_nodup found
    have leased : lease ∈ p.queue.leases := split.mem_iff.mpr List.mem_cons_self
    have named : lease.receipt = receipt := by simpa using List.find?_some found
    simp only [noteAcknowledgement, found, Option.toList_some, List.map_cons, List.map_nil]
    refine ⟨?_, conserved.lastId, fun other member => conserved.receipt other (kept other member),
      ?_, ?_, conserved.order⟩
    · refine conserved.accounted.perm ?_
      simp only [messages, MessageQueue.acknowledge, List.map_append, List.map_cons, List.map_nil,
        List.append_assoc]
      refine List.Perm.append_left _ ?_
      rw [← List.append_assoc]
      exact (List.perm_append_singleton _ _).trans
        (message_release_perm conserved.receipts_nodup found _)
    · intro entry member
      rcases List.mem_append.mp member with old | new
      · exact conserved.named entry old
      · rw [List.mem_singleton.mp new, ← named]
        exact conserved.receipt lease leased
    · intro m member
      simp only [List.map_append, List.map_cons, List.map_nil, List.mem_append,
        List.mem_singleton] at member
      rcases member with still | old | rfl
      · obtain ⟨other, inside, rfl⟩ := List.mem_map.mp still
        exact conserved.delivered _ (List.mem_append_left _ (List.mem_map_of_mem (kept other inside)))
      · exact conserved.delivered m (List.mem_append_right _ old)
      · exact conserved.delivered _ (List.mem_append_left _ (List.mem_map_of_mem leased))

private theorem giveBack (conserved : p.Conserved) {receipt : String} {queue : MessageQueue}
    (accepted : p.queue.giveBack? receipt = some queue) :
    Conserved { p with queue } := by
  obtain ⟨lease, found, rfl⟩ := Option.map_eq_some_iff.mp accepted
  have split := release_perm conserved.receipts_nodup found
  have leased : lease ∈ p.queue.leases := split.mem_iff.mpr List.mem_cons_self
  have kept : ∀ other ∈ (p.queue.release receipt).leases, other ∈ p.queue.leases :=
    fun other member => List.mem_of_mem_filter member
  refine ⟨?_, conserved.lastId, fun other member => conserved.receipt other (kept other member),
    conserved.named, ?_, ?_⟩
  · refine conserved.accounted.perm ?_
    simp only [messages, List.append_assoc, List.singleton_append]
    exact (message_release_perm conserved.receipts_nodup found _).append_left _
  · intro m member
    refine conserved.delivered m ?_
    rcases List.mem_append.mp member with still | acknowledged
    · obtain ⟨other, inside, rfl⟩ := List.mem_map.mp still
      exact List.mem_append_left _ (List.mem_map_of_mem (kept other inside))
    · exact List.mem_append_right _ acknowledged
  · have was := conserved.delivered lease.message
      (List.mem_append_left _ (List.mem_map_of_mem leased))
    simpa [List.filter_append, List.filter_cons, was] using conserved.order

theorem step {visibility : Nat} {q : MessageLog} (conserved : p.Conserved)
    (step : Step visibility p q) : q.Conserved := by
  cases step with
  | send accepted => exact conserved.send accepted
  | receive ended => exact conserved.receive ended visibility
  | acknowledge => exact conserved.acknowledge _
  | giveBack accepted => exact conserved.giveBack accepted
  | close =>
    exact ⟨conserved.accounted, conserved.lastId, conserved.receipt, conserved.named,
      conserved.delivered, conserved.order⟩

theorem run {visibility : Nat} {q : MessageLog} (conserved : p.Conserved)
    (run : Run visibility p q) : q.Conserved := by
  induction run with
  | refl => exact conserved
  | tail _ last ih => exact ih.step last

end Conserved

/-! ## Closed queues -/

theorem Step.closed {visibility : Nat} {p q : MessageLog} (step : Step visibility p q)
    (closed : p.queue.closed = true) : q.queue.closed = true := by
  cases step with
  | send accepted => simp [MessageQueue.send?, closed] at accepted
  | receive => simp [noteReception, MessageQueue.receiveAfter, closed]
  | acknowledge => exact closed
  | giveBack accepted =>
    obtain ⟨lease, _, rfl⟩ := Option.map_eq_some_iff.mp accepted
    exact closed
  | close => rfl

private theorem Run.closed {visibility : Nat} {p q : MessageLog} (run : Run visibility p q)
    (closed : p.queue.closed = true) : q.queue.closed = true := by
  induction run with
  | refl => exact closed
  | tail _ last ih => exact last.closed ih

/-! ## What is never forgotten -/

theorem Step.grows {visibility : Nat} {p q : MessageLog} (step : Step visibility p q) :
    p.sent <+: q.sent ∧ p.delivered <+: q.delivered := by
  cases step with
  | send => exact ⟨List.prefix_append _ _, List.prefix_refl _⟩
  | receive => exact ⟨List.prefix_refl _, List.prefix_append _ _⟩
  | acknowledge => exact ⟨List.prefix_refl _, List.prefix_refl _⟩
  | giveBack => exact ⟨List.prefix_refl _, List.prefix_refl _⟩
  | close => exact ⟨List.prefix_refl _, List.prefix_refl _⟩

theorem Run.grows {visibility : Nat} {p q : MessageLog} (run : Run visibility p q) :
    p.sent <+: q.sent ∧ p.delivered <+: q.delivered := by
  induction run with
  | refl => exact ⟨List.prefix_refl _, List.prefix_refl _⟩
  | tail _ last ih => exact ⟨ih.1.trans last.grows.1, ih.2.trans last.grows.2⟩

/-- What is acknowledged stays so. -/
theorem Step.settled {visibility : Nat} {p q : MessageLog} (step : Step visibility p q) :
    p.settled <+: q.settled := by
  cases step with
  | send => exact List.prefix_refl _
  | receive => exact List.prefix_refl _
  | acknowledge => exact List.prefix_append _ _
  | giveBack => exact List.prefix_refl _
  | close => exact List.prefix_refl _

theorem Run.settled {visibility : Nat} {p q : MessageLog} (run : Run visibility p q) :
    p.settled <+: q.settled := by
  induction run with
  | refl => exact List.prefix_refl _
  | tail _ last ih => exact ih.trans last.settled

theorem mem_messages_of_leased {p : MessageLog} {lease : Lease} (leased : lease ∈ p.queue.leases) :
    lease.message ∈ p.messages :=
  List.mem_append_left _ (List.mem_append_right _ (List.mem_map_of_mem leased))

/-- A message of a conserved log has the payload that was sent under its id. -/
theorem Conserved.payload_eq {p : MessageLog} (conserved : p.Conserved) {m : Message}
    (member : m ∈ p.messages ++ p.delivered) {payload : List UInt8}
    (sent : p.sent[m.id - 1]? = some payload) : m.payload = payload :=
  Option.some.inj ((conserved.accounted.payload m member).symm.trans sent)

/-! ## One message of the queue -/

/-- There is one message of an id at most. -/
theorem Conserved.message_unique {p : MessageLog} (conserved : p.Conserved) {m other : Message}
    (member : m ∈ p.messages) (memberToo : other ∈ p.messages) (same : m.id = other.id) :
    m = other :=
  List.inj_on_of_nodup_map conserved.ids_nodup member memberToo same

theorem Conserved.ne_of_ready_of_leased {p : MessageLog} (conserved : p.Conserved) {m : Message}
    (ready : m ∈ p.queue.ready) {lease : Lease} (leased : lease ∈ p.queue.leases) :
    m.id ≠ lease.message.id := by
  have ids := conserved.ids_nodup
  rw [messages, List.map_append, List.map_append] at ids
  have apart := (List.nodup_append.mp (List.nodup_append.mp ids).1).2.2
  exact apart m.id (List.mem_map_of_mem ready) _ (List.mem_map_of_mem (List.mem_map_of_mem leased))

/-- A message whose lease is acknowledged is gone. -/
theorem Conserved.ne_of_acknowledged {p : MessageLog} (conserved : p.Conserved) {lease : Lease}
    (leased : lease ∈ p.queue.leases) {m : Message}
    (member : m ∈ (p.queue.acknowledge lease.receipt).ready ++
      (p.queue.acknowledge lease.receipt).leases.map (·.message)) : m.id ≠ lease.message.id := by
  rcases List.mem_append.mp member with ready | still
  · exact conserved.ne_of_ready_of_leased ready leased
  · obtain ⟨other, inside, rfl⟩ := List.mem_map.mp still
    obtain ⟨leasedToo, differs⟩ := List.mem_filter.mp inside
    intro same
    have equal := conserved.message_unique (mem_messages_of_leased leasedToo)
      (mem_messages_of_leased leased) same
    have receipts := conserved.receipt other leasedToo
    rw [equal, ← conserved.receipt lease leased] at receipts
    simp [receipts] at differs

/-- A message that is given back under the receipt of its lease is ready again. -/
theorem Conserved.exists_giveBack? {p : MessageLog} (conserved : p.Conserved) {lease : Lease}
    (leased : lease ∈ p.queue.leases) :
    ∃ queue, p.queue.giveBack? lease.receipt = some queue ∧ lease.message ∈ queue.ready := by
  cases found : p.queue.lease? lease.receipt with
  | none =>
    have differs := List.find?_eq_none.mp found lease leased
    simp at differs
  | some other =>
    have leasedToo := List.mem_of_find?_eq_some found
    have named : other.receipt = lease.receipt := by simpa using List.find?_some found
    have receipts := named
    rw [conserved.receipt other leasedToo, conserved.receipt lease leased] at receipts
    have same := conserved.message_unique (mem_messages_of_leased leasedToo)
      (mem_messages_of_leased leased) (receiptText_id receipts)
    refine ⟨_, by rw [MessageQueue.giveBack?, found, Option.map_some], ?_⟩
    simp [same]

/-- Whatever calls are made in whatever order, every message that was sent is in one place, as
it was sent, and first deliveries are made in the order of sending. A closed queue stays closed;
whoever looks at it gets nothing, and no message is changed. -/
theorem conserved {visibility : Nat} {p : MessageLog} (run : Run visibility start p) :
    p.Conserved ∧
      (p.queue.closed = true → ∀ later, Run visibility p later →
        later.queue.closed = true ∧
          ∀ order now, later.queue.receiveAfter order now visibility = (.closed, later.queue)) := by
  refine ⟨start_conserved.run run, fun closed later onward => ?_⟩
  have stays := onward.closed closed
  exact ⟨stays, fun order now => by simp [MessageQueue.receiveAfter, stays]⟩

/-- Two messages are delivered, run out and come back the other way round; the one that is
delivered again is acknowledged, and the queue is closed. -/
theorem conserved_redelivered :
    ∃ p : MessageLog, Run 5 start p ∧ p.delivered.map (·.id) = [1, 2, 2] ∧
      p.settled.map (·.2.id) = [2] ∧ p.queue.closed = true ∧ p.Conserved ∧
      ∀ later, Run 5 p later →
        later.queue.closed = true ∧
          ∀ order now, later.queue.receiveAfter order now 5 = (.closed, later.queue) := by
  have sent : Run 5 start _ :=
    .tail (.tail .refl (@Step.send 5 _ [7] _ rfl)) (@Step.send 5 _ [8] _ rfl)
  have leased : Run 5 start _ :=
    .tail (.tail sent (@Step.receive 5 _ [] 0 .nil)) (@Step.receive 5 _ [] 1 .nil)
  have again : Run 5 start _ := .tail leased (@Step.receive 5 _ _ 9 (List.reverse_perm _))
  have run : Run 5 start _ := .tail (.tail again (@Step.acknowledge 5 _ "2:2")) .close
  obtain ⟨balanced, afterClosing⟩ := conserved run
  exact ⟨_, run, by decide +kernel, by decide +kernel, rfl, balanced, afterClosing rfl⟩

end MessageLog

end FeedIngest.Delivery
