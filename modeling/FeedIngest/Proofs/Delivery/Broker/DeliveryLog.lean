import Mathlib.Data.List.Induction
import FeedIngest.Delivery.Broker.Waiting
import FeedIngest.Proofs.Delivery.Broker.MessageLog
import FeedIngest.Proofs.Delivery.Channel

/-!
# What a broker gave out and got back

A log of deliveries has a broker at a moment, with what it delivered and the receipts that were
given back, in their order. The deliveries of a message are numbered by their receipts. The next one
is made when the last one was given back or its visibility has passed, and a receipt that is not of
the last delivery of a leased message changes nothing.
-/

set_option autoImplicit false

namespace FeedIngest.Delivery

open Text (digits digits_injective colon_not_mem_digits)

private theorem takeWhile_after_colon {before after : List Char} (plain : ':' ∉ after) :
    (before ++ ':' :: after).reverse.takeWhile (· != ':') = after.reverse := by
  rw [List.reverse_append, List.reverse_cons, List.append_assoc, List.takeWhile_append_of_pos]
  · simp
  · intro c member
    have other : c ≠ ':' := fun same => plain (same ▸ List.mem_reverse.mp member)
    simpa using other

/-- A receipt tells which delivery it is for. -/
theorem receiptText_attempt {id other attempt otherAttempt : Nat}
    (same : receiptText id attempt = receiptText other otherAttempt) : attempt = otherAttempt := by
  have letters := congrArg String.toList same
  simp only [receiptText, Text.decimal, String.toList_append, String.toList_ofList] at letters
  have colon : (":" : String).toList = [':'] := rfl
  simp only [colon, List.append_assoc, List.singleton_append] at letters
  have ends := congrArg (fun text => text.reverse.takeWhile (· != ':')) letters
  rw [takeWhile_after_colon (colon_not_mem_digits attempt),
    takeWhile_after_colon (colon_not_mem_digits otherAttempt)] at ends
  exact digits_injective (List.reverse_injective ends)

namespace DeliveryLog

inductive Entry where
  | delivered (message : Message) (moment : Nat)
  | returned (receipt : String)
deriving DecidableEq, Repr

def Entry.message? : Entry → Option Message
  | .delivered message _ => some message
  | .returned _ => none

def Entry.delivers (id : Nat) (e : Entry) : Bool := e.message?.any (·.id == id)

end DeliveryLog

/-- A broker at a moment, with all that it delivered and that was given back. -/
structure DeliveryLog where
  broker : Broker
  now : Nat
  entries : List DeliveryLog.Entry

namespace DeliveryLog

def start (visibility : Nat) : DeliveryLog := ⟨.empty visibility, 0, []⟩

def deliveries (c : DeliveryLog) : List Message := c.entries.filterMap Entry.message?

def look (order : List Lease) (receiver : Nat) (c : DeliveryLog) : DeliveryLog :=
  let (reception, broker) := c.broker.lookAfter order c.now receiver
  { c with
    broker
    entries := c.entries ++ (reception.message?.map fun m => .delivered m c.now).toList }

def giveBack (receipt : String) (c : DeliveryLog) : DeliveryLog :=
  { c with
    broker := (c.broker.giveBack receipt).2
    entries := c.entries ++ [.returned receipt] }

/-- One thing that happens. Leases that are over end in any order. -/
inductive Step : DeliveryLog → DeliveryLog → Prop where
  | send {c : DeliveryLog} {payload : List UInt8} {called : Option Nat} {broker : Broker}
      (accepted : c.broker.send? payload = some (called, broker)) : Step c { c with broker }
  /-- A receiver looks who has come, or was called, or whose time has come. -/
  | look {c : DeliveryLog} {order : List Lease} (receiver : Nat)
      (ended : order.Perm (c.broker.queue.expired c.now)) : Step c (c.look order receiver)
  | leave {c : DeliveryLog} (receiver : Nat) : Step c { c with broker := c.broker.leave receiver }
  /-- A receiver who was called gives up, and the bell calls the next one. -/
  | ring {c : DeliveryLog} : Step c { c with broker := c.broker.ring.2 }
  | acknowledge {c : DeliveryLog} (receipt : String) :
      Step c { c with broker := c.broker.acknowledge receipt }
  | giveBack {c : DeliveryLog} (receipt : String) : Step c (c.giveBack receipt)
  | close {c : DeliveryLog} : Step c { c with broker := c.broker.close.2 }
  | pass {c : DeliveryLog} (span : Nat) : Step c { c with now := c.now + span }

abbrev Run : DeliveryLog → DeliveryLog → Prop := Relation.ReflTransGen Step

/-! ## The last delivery of a message -/

/-- The last delivery of a message, when it was made, and all that was entered since. -/
def LastDelivered (entries : List Entry) (m : Message) (moment : Nat) (since : List Entry) : Prop :=
  (∃ earlier, entries = earlier ++ .delivered m moment :: since) ∧
    ∀ e ∈ since, e.delivers m.id = false

theorem Entry.delivers_delivered (m : Message) (moment : Nat) :
    (Entry.delivered m moment).delivers m.id = true := by
  simp [Entry.delivers, Entry.message?]

section LastDelivered

variable {entries since more : List Entry} {m : Message} {moment : Nat}

theorem LastDelivered.append (last : LastDelivered entries m moment since)
    (others : ∀ e ∈ more, e.delivers m.id = false) :
    LastDelivered (entries ++ more) m moment (since ++ more) := by
  obtain ⟨⟨earlier, rfl⟩, quiet⟩ := last
  constructor
  · exact ⟨earlier, by simp⟩
  · intro e member
    rcases List.mem_append.mp member with old | new
    · exact quiet e old
    · exact others e new

/-- A delivery of the message among the entries since would be a later one. -/
theorem LastDelivered.not_mem (last : LastDelivered entries m moment since) {other : Message}
    {otherMoment : Nat} (same : other.id = m.id) : Entry.delivered other otherMoment ∉ since := by
  intro member
  have silent := last.2 _ member
  rw [← same, Entry.delivers_delivered] at silent
  cases silent

private theorem LastDelivered.unique {other : Message} {otherMoment : Nat} {otherSince : List Entry}
    (last : LastDelivered entries m moment since)
    (lastToo : LastDelivered entries other otherMoment otherSince) (same : m.id = other.id) :
    m = other ∧ moment = otherMoment ∧ since = otherSince := by
  obtain ⟨earlier, is⟩ := last.1
  obtain ⟨before, isToo⟩ := lastToo.1
  rcases List.append_eq_append_iff.mp (is.symm.trans isToo) with ⟨gap, _, rest⟩ | ⟨gap, _, rest⟩
  · cases gap with
    | nil =>
      cases rest
      exact ⟨rfl, rfl, rfl⟩
    | cons first gap =>
      obtain ⟨_, tail⟩ := List.cons.inj rest
      have later : Entry.delivered other otherMoment ∈ since := by simp [tail]
      exact absurd later (last.not_mem same.symm)
  · cases gap with
    | nil =>
      cases rest
      exact ⟨rfl, rfl, rfl⟩
    | cons first gap =>
      obtain ⟨_, tail⟩ := List.cons.inj rest
      have later : Entry.delivered m moment ∈ otherSince := by simp [tail]
      exact absurd later (lastToo.not_mem same)

end LastDelivered

/-! ## Leases and the moments of deliveries -/

/-- The delivery of a message before another one was given back, or its visibility had passed. -/
def Spaced (visibility : Nat) (entries : List Entry) : Prop :=
  ∀ before later next t, entries = before ++ .delivered next t :: later →
    ∀ first s between, LastDelivered before first s between → first.id = next.id →
      .returned first.receipt ∈ between ∨ s + visibility ≤ t

/-- Each lease began with the last delivery of its message. A message that is ready again was given
back since then, or its visibility has passed. -/
structure Dated (visibility : Nat) (q : MessageQueue) (now : Nat) (entries : List Entry) :
    Prop where
  leased : ∀ lease ∈ q.leases, ∃ s since, LastDelivered entries lease.message s since ∧
    lease.expires = s + visibility
  ready : ∀ m ∈ q.ready, m.attempt ≠ 0 → ∃ s since, LastDelivered entries m s since ∧
    (.returned m.receipt ∈ since ∨ s + visibility ≤ now)
  spaced : Spaced visibility entries

private theorem start_dated (visibility : Nat) : Dated visibility .empty 0 [] where
  leased lease member := nomatch member
  ready m member := nomatch member
  spaced := by
    intro before later next t split
    simp at split

section Dated

variable {visibility now later : Nat} {q after : MessageQueue} {entries more : List Entry}

private theorem Spaced.append (spaced : Spaced visibility entries)
    (silent : ∀ e ∈ more, e.message? = none) : Spaced visibility (entries ++ more) := by
  intro before rest next t split
  have known : Entry.delivered next t ∉ more := fun member => nomatch silent _ member
  rcases List.append_eq_append_iff.mp split with ⟨gap, _, tail⟩ | ⟨gap, whole, tail⟩
  · exact absurd (by simp [tail]) known
  · cases gap with
    | nil =>
      rw [List.nil_append] at tail
      exact absurd (by simp [← tail]) known
    | cons first gap =>
      obtain ⟨rfl, _⟩ := List.cons.inj tail
      exact spaced before gap next t whole

private theorem Spaced.deliver (spaced : Spaced visibility entries) {m : Message}
    (free : ∀ first s between, LastDelivered entries first s between → first.id = m.id →
      .returned first.receipt ∈ between ∨ s + visibility ≤ now) :
    Spaced visibility (entries ++ [.delivered m now]) := by
  intro before rest next t split
  cases rest using List.reverseRecOn with
  | nil =>
    obtain ⟨rfl, last⟩ := List.append_inj' split rfl
    cases last
    exact free
  | append_singleton rest last =>
    rw [← List.cons_append, ← List.append_assoc] at split
    exact spaced before rest next t (List.append_inj' split rfl).1

/-- Nothing is delivered. A message that comes to be ready is new, or was given back, or its lease
is over. -/
theorem Dated.quiet (dated : Dated visibility q now entries)
    (silent : ∀ e ∈ more, e.message? = none) (passes : now ≤ later)
    (leases : ∀ lease ∈ after.leases, lease ∈ q.leases)
    (ready : ∀ m ∈ after.ready, m.attempt = 0 ∨ m ∈ q.ready ∨ ∃ lease ∈ q.leases,
      lease.message = m ∧ (.returned m.receipt ∈ more ∨ lease.expires ≤ later)) :
    Dated visibility after later (entries ++ more) := by
  have others : ∀ id, ∀ e ∈ more, e.delivers id = false := by
    intro id e member
    rw [Entry.delivers, silent e member]
    rfl
  constructor
  · intro lease member
    obtain ⟨s, since, last, expires⟩ := dated.leased lease (leases lease member)
    exact ⟨s, since ++ more, last.append (others _), expires⟩
  · intro m member again
    rcases ready m member with new | old | ⟨lease, leased, rfl, back⟩
    · exact absurd new again
    · obtain ⟨s, since, last, free⟩ := dated.ready m old again
      refine ⟨s, since ++ more, last.append (others _), ?_⟩
      rcases free with returned | passed
      · exact .inl (List.mem_append_left _ returned)
      · exact .inr (Nat.le_trans passed passes)
    · obtain ⟨s, since, last, expires⟩ := dated.leased lease leased
      refine ⟨s, since ++ more, last.append (others _), ?_⟩
      rcases back with returned | passed
      · exact .inl (List.mem_append_right _ returned)
      · exact .inr (expires ▸ passed)
  · exact dated.spaced.append silent

theorem countP_filterMap_message (entries : List Entry) (id : Nat) :
    (entries.filterMap Entry.message?).countP (·.id == id) = entries.countP (Entry.delivers id) := by
  induction entries with
  | nil => rfl
  | cons e entries ih =>
    cases e with
    | delivered m moment =>
      simp only [List.filterMap_cons, Entry.message?, List.countP_cons, Entry.delivers] at ih ⊢
      rw [ih]
      rfl
    | returned receipt => exact ih

private theorem Dated.deliver {p : MessageLog} (dated : Dated visibility p.queue now entries)
    (conserved : p.Conserved) (delivered : p.delivered = entries.filterMap Entry.message?)
    {m : Message} {rest : List Message} (first : p.queue.ready = m :: rest) :
    Dated visibility
      ({ p.queue with ready := rest }.grant
        ⟨receiptText m.id (m.attempt + 1), { m with attempt := m.attempt + 1 }, now + visibility⟩)
      now (entries ++ [.delivered { m with attempt := m.attempt + 1 } now]) := by
  have isReady : m ∈ p.queue.ready := by simp [first]
  have other : ∀ id, id ≠ m.id →
      ∀ e ∈ [Entry.delivered { m with attempt := m.attempt + 1 } now], e.delivers id = false := by
    intro id differs e member
    rw [List.mem_singleton.mp member]
    simpa [Entry.delivers, Entry.message?] using differs.symm
  constructor
  · intro lease member
    rcases List.mem_append.mp member with old | new
    · have leased := List.mem_of_mem_filter old
      obtain ⟨s, since, last, expires⟩ := dated.leased lease leased
      have differs := conserved.ne_of_ready_of_leased isReady leased
      exact ⟨s, _, last.append (other _ differs.symm), expires⟩
    · rw [List.mem_singleton.mp new]
      exact ⟨now, [], ⟨⟨entries, rfl⟩, by simp⟩, rfl⟩
  · intro waiting member again
    have differs : waiting.id ≠ m.id := by
      have ids := conserved.ids_nodup
      rw [MessageLog.messages, List.map_append, List.map_append, first] at ids
      have heads := (List.nodup_append.mp (List.nodup_append.mp ids).1).1
      intro same
      exact (List.nodup_cons.mp heads).1 (List.mem_map.mpr ⟨waiting, member, same⟩)
    have wasReady : waiting ∈ p.queue.ready := first ▸ List.mem_cons_of_mem m member
    obtain ⟨s, since, last, free⟩ := dated.ready waiting wasReady again
    exact ⟨s, _, last.append (other _ differs), free.imp_left (List.mem_append_left _)⟩
  · refine dated.spaced.deliver ?_
    intro before s between last same
    -- It was delivered before, so it was counted.
    have counted : m.attempt ≠ 0 := by
      obtain ⟨earlier, is⟩ := last.1
      rw [conserved.accounted.attempt m (by simp [MessageLog.messages, isReady]), delivered,
        countP_filterMap_message]
      have among : Entry.delivered before s ∈ entries := by simp [is]
      have found : (Entry.delivered before s).delivers m.id = true :=
        same ▸ Entry.delivers_delivered before s
      exact Nat.ne_of_gt (List.countP_pos_iff.mpr ⟨_, among, found⟩)
    obtain ⟨t, since, lastToo, free⟩ := dated.ready m isReady counted
    obtain ⟨rfl, rfl, rfl⟩ := last.unique lastToo same
    exact free

end Dated

/-! ## Whole runs -/

/-- The book of the broker has the same queue and the same deliveries. -/
structure Kept (visibility : Nat) (p : MessageLog) (c : DeliveryLog) : Prop where
  run : MessageLog.Run visibility .start p
  queue : p.queue = c.broker.queue
  delivered : p.delivered = c.deliveries
  visible : c.broker.visibility = visibility
  dated : Dated visibility c.broker.queue c.now c.entries

section Kept

variable {visibility : Nat} {p : MessageLog} {c next : DeliveryLog}

private theorem start_kept (visibility : Nat) : Kept visibility .start (start visibility) :=
  ⟨.refl, rfl, rfl, rfl, start_dated visibility⟩

theorem Kept.conserves (kept : Kept visibility p c) : p.Conserved :=
  MessageLog.start_conserved.run kept.run

private theorem Kept.of_queue (kept : Kept visibility p c) {broker : Broker}
    (queue : broker.queue = c.broker.queue) (visible : broker.visibility = c.broker.visibility) :
    Kept visibility p { c with broker } where
  run := kept.run
  queue := kept.queue.trans queue.symm
  delivered := kept.delivered
  visible := visible.trans kept.visible
  dated := queue ▸ kept.dated

private theorem Kept.send (kept : Kept visibility p c) {payload : List UInt8} {called : Option Nat}
    {broker : Broker} (accepted : c.broker.send? payload = some (called, broker)) :
    ∃ later, Kept visibility later { c with broker } := by
  obtain ⟨sends, visible⟩ := Channel.send_cases accepted
  refine ⟨{ p with queue := broker.queue, sent := p.sent ++ [payload] },
    kept.run.tail (.send (kept.queue ▸ sends)), rfl, kept.delivered,
    visible.trans kept.visible, ?_⟩
  obtain ⟨leases, ready⟩ : broker.queue.leases = c.broker.queue.leases ∧
      broker.queue.ready = c.broker.queue.ready ++ [⟨c.broker.queue.lastId + 1, payload, 0⟩] := by
    generalize broker.queue = queue at sends ⊢
    unfold MessageQueue.send? at sends
    split at sends
    · cases sends
    · cases sends
      exact ⟨rfl, rfl⟩
  have dated : Dated visibility broker.queue c.now (c.entries ++ []) := by
    refine kept.dated.quiet (fun e => nofun) (Nat.le_refl _) (fun lease member => leases ▸ member) ?_
    intro m member
    rw [ready] at member
    rcases List.mem_append.mp member with old | new
    · exact .inr (.inl old)
    · rw [List.mem_singleton.mp new]
      exact .inl rfl
  rwa [List.append_nil] at dated

private theorem Kept.requeue (kept : Kept visibility p c) {order : List Lease}
    (ended : order.Perm (c.broker.queue.expired c.now)) :
    Dated visibility (c.broker.queue.requeue order c.now) c.now c.entries := by
  have dated : Dated visibility (c.broker.queue.requeue order c.now) c.now (c.entries ++ []) := by
    refine kept.dated.quiet (fun e => nofun) (Nat.le_refl _)
      (fun lease member => List.mem_of_mem_filter member) ?_
    intro m member
    rcases List.mem_append.mp member with old | back
    · exact .inr (.inl old)
    · obtain ⟨lease, among, rfl⟩ := List.mem_map.mp back
      obtain ⟨leased, passed⟩ := List.mem_filter.mp (ended.mem_iff.mp among)
      exact .inr (.inr ⟨lease, leased, rfl, .inr (by simpa using passed)⟩)
  rwa [List.append_nil] at dated

private theorem Kept.look (kept : Kept visibility p c) {order : List Lease} (receiver : Nat)
    (ended : order.Perm (c.broker.queue.expired c.now)) :
    ∃ later, Kept visibility later (c.look order receiver) := by
  obtain ⟨received, left, visible⟩ := Channel.lookAfter_parts c.broker order c.now receiver
  rw [kept.visible, ← kept.queue] at received left
  have endedToo : order.Perm (p.queue.expired c.now) := kept.queue ▸ ended
  refine ⟨p.noteReception (p.queue.receiveAfter order c.now visibility),
    kept.run.tail (.receive endedToo), left.symm, ?_, visible.trans kept.visible, ?_⟩
  · simp only [MessageLog.noteReception, kept.delivered, DeliveryLog.deliveries, DeliveryLog.look,
      List.filterMap_append, received]
    cases (p.queue.receiveAfter order c.now visibility).1.message? with
    | none => rfl
    | some m => rfl
  · show Dated visibility (c.broker.lookAfter order c.now receiver).2.queue c.now
      (c.entries ++ ((c.broker.lookAfter order c.now receiver).1.message?.map
        fun m => Entry.delivered m c.now).toList)
    rw [left, received]
    have dated := kept.requeue ended
    have conserved := kept.conserves.requeue endedToo
    rw [← kept.queue] at dated
    unfold MessageQueue.receiveAfter
    split
    · simpa [Reception.message?, kept.queue] using kept.dated
    · unfold MessageQueue.deliver
      split
      · simpa [Reception.message?] using dated
      · next m rest first =>
        exact Dated.deliver (p := { p with queue := p.queue.requeue order c.now }) dated conserved
          kept.delivered first

private theorem Kept.acknowledge (kept : Kept visibility p c) (receipt : String) :
    Kept visibility (p.noteAcknowledgement receipt)
      { c with broker := c.broker.acknowledge receipt } where
  run := kept.run.tail .acknowledge
  queue := congrArg (MessageQueue.acknowledge · receipt) kept.queue
  delivered := kept.delivered
  visible := kept.visible
  dated := by
    have dated : Dated visibility (c.broker.queue.acknowledge receipt) c.now (c.entries ++ []) :=
      kept.dated.quiet (fun e => nofun) (Nat.le_refl _)
        (fun lease member => List.mem_of_mem_filter member) fun m member => .inr (.inl member)
    rwa [List.append_nil] at dated

private theorem Kept.giveBack (kept : Kept visibility p c) (receipt : String) :
    ∃ later, Kept visibility later (c.giveBack receipt) := by
  have silent : ∀ e ∈ [Entry.returned receipt], e.message? = none := by
    intro e member
    rw [List.mem_singleton.mp member]
    rfl
  have delivered : p.delivered = (c.giveBack receipt).deliveries := by
    rw [kept.delivered]
    simp [deliveries, DeliveryLog.giveBack, Entry.message?]
  cases returned : c.broker.queue.giveBack? receipt with
  | none =>
    have same : (c.broker.giveBack receipt).2 = c.broker := by simp [Broker.giveBack, returned]
    refine ⟨p, kept.run, ?_, delivered, ?_, ?_⟩
    · exact kept.queue.trans (congrArg Broker.queue same.symm)
    · exact (congrArg Broker.visibility same).trans kept.visible
    · refine kept.dated.quiet silent (Nat.le_refl _) ?_ ?_
      · intro lease member
        exact same ▸ member
      · intro m member
        exact .inr (.inl (same ▸ member))
  | some queue =>
    have rung : (c.broker.giveBack receipt).2 = ({ c.broker with queue } : Broker).ring.2 := by
      simp [Broker.giveBack, returned]
    obtain ⟨same, visible⟩ := Channel.ring_queue { c.broker with queue }
    rw [← rung] at same visible
    refine ⟨{ p with queue }, kept.run.tail (.giveBack (kept.queue ▸ returned)), same.symm,
        delivered,
      visible.trans kept.visible, ?_⟩
    obtain ⟨lease, found, after⟩ := Option.map_eq_some_iff.mp returned
    have leased := List.mem_of_find?_eq_some found
    refine kept.dated.quiet silent (Nat.le_refl _) ?_ ?_
    · intro other member
      change other ∈ (c.broker.giveBack receipt).2.queue.leases at member
      rw [same, ← after] at member
      exact List.mem_of_mem_filter member
    · intro m member
      change m ∈ (c.broker.giveBack receipt).2.queue.ready at member
      rw [same, ← after] at member
      rcases List.mem_append.mp member with old | back
      · exact .inr (.inl old)
      · -- What was given back is named by the receipt of its lease.
        rw [List.mem_singleton.mp back]
        have named : lease.receipt = receipt := by simpa using List.find?_some found
        have current := kept.conserves.receipt lease (kept.queue ▸ leased)
        refine .inr (.inr ⟨lease, leased, rfl, .inl ?_⟩)
        rw [← current, named]
        exact List.mem_singleton.mpr rfl

theorem Kept.step (kept : Kept visibility p c) (step : Step c next) :
    ∃ later, Kept visibility later next := by
  cases step with
  | send accepted => exact kept.send accepted
  | look receiver ended => exact kept.look receiver ended
  | leave receiver => exact ⟨p, kept.of_queue rfl rfl⟩
  | ring =>
    obtain ⟨same, visible⟩ := Channel.ring_queue c.broker
    exact ⟨p, kept.of_queue same visible⟩
  | acknowledge receipt => exact ⟨_, kept.acknowledge receipt⟩
  | giveBack receipt => exact kept.giveBack receipt
  | close =>
    refine ⟨{ p with queue := p.queue.close }, kept.run.tail .close,
      congrArg MessageQueue.close kept.queue, kept.delivered, kept.visible, ?_⟩
    exact ⟨kept.dated.leased, kept.dated.ready, kept.dated.spaced⟩
  | pass span =>
    refine ⟨p, kept.run, kept.queue, kept.delivered, kept.visible, kept.dated.leased, ?_,
      kept.dated.spaced⟩
    intro m member again
    obtain ⟨s, since, last, free⟩ := kept.dated.ready m member again
    exact ⟨s, since, last, free.imp_right fun passed => Nat.le_add_right_of_le passed⟩

theorem exists_kept (run : Run (start visibility) c) : ∃ p, Kept visibility p c := by
  induction run with
  | refl => exact ⟨_, start_kept visibility⟩
  | tail _ last ih =>
    obtain ⟨p, kept⟩ := ih
    exact kept.step last

/-! ## Numbers and receipts -/

theorem Kept.attempt_eq (kept : Kept visibility p c) {before later : List Entry} {m : Message}
    {t : Nat} (split : c.entries = before ++ .delivered m t :: later) :
    m.attempt = before.countP (Entry.delivers m.id) + 1 := by
  have deliveries : p.delivered =
      before.filterMap Entry.message? ++ m :: later.filterMap Entry.message? := by
    rw [kept.delivered, DeliveryLog.deliveries, split, List.filterMap_append, List.filterMap_cons]
    rfl
  have numbered := kept.conserves.accounted.numbered (before.filterMap Entry.message?).length m
    (by simp [deliveries])
  rw [deliveries, List.take_append, List.take_of_length_le (Nat.le_succ _),
    Nat.add_sub_cancel_left, List.countP_append, countP_filterMap_message] at numbered
  simpa using numbered

private theorem Kept.receipts_nodup (kept : Kept visibility p c) :
    (c.deliveries.map Message.receipt).Nodup := by
  rw [List.Nodup, List.pairwise_map, List.pairwise_iff_getElem]
  intro i j inside insideToo order same
  rw [← kept.delivered] at inside insideToo
  simp only [← kept.delivered] at same
  have numbered := kept.conserves.accounted.numbered
  have first := numbered i _ (List.getElem?_eq_getElem inside)
  have second := numbered j _ (List.getElem?_eq_getElem insideToo)
  have id := receiptText_id same
  rw [receiptText_attempt same] at first
  rw [← id, List.take_succ_eq_append_getElem insideToo, List.countP_append] at second
  have fewer : (p.delivered.take (i + 1)).countP (·.id == p.delivered[i].id) ≤
      (p.delivered.take j).countP (·.id == p.delivered[i].id) :=
    (List.take_sublist_take_left order).countP_le
  have counts : [p.delivered[j]].countP (·.id == p.delivered[i].id) = 1 := by simp [id]
  omega

/-- No delivery of a message lies between two whose numbers follow each other. -/
theorem Kept.lastDelivered (kept : Kept visibility p c) {before between later : List Entry}
    {m again : Message} {s t : Nat}
    (split : c.entries = before ++ .delivered m s :: (between ++ .delivered again t :: later))
    (same : m.id = again.id) (follows : again.attempt = m.attempt + 1) :
    LastDelivered (before ++ .delivered m s :: between) m s between := by
  have first := kept.attempt_eq split
  have whole : c.entries =
      (before ++ .delivered m s :: between) ++ .delivered again t :: later := by simp [split]
  have second := kept.attempt_eq whole
  rw [← same, List.countP_append,
    List.countP_cons_of_pos (Entry.delivers_delivered m s)] at second
  have silent : between.countP (Entry.delivers m.id) = 0 := by omega
  constructor
  · exact ⟨before, rfl⟩
  · intro e member
    simpa using List.countP_eq_zero.mp silent e member

private theorem Kept.returned_or_over (kept : Kept visibility p c)
    {before between later : List Entry} {m again : Message} {s t : Nat}
    (split : c.entries = before ++ .delivered m s :: (between ++ .delivered again t :: later))
    (same : m.id = again.id) (follows : again.attempt = m.attempt + 1) :
    .returned m.receipt ∈ between ∨ s + visibility ≤ t := by
  have last := kept.lastDelivered split same follows
  have whole : c.entries =
      (before ++ .delivered m s :: between) ++ .delivered again t :: later := by simp [split]
  exact kept.dated.spaced _ _ _ _ whole _ _ _ last same

/-- The receipt of a lease has the number of all deliveries that its message has had. -/
theorem Kept.lease_receipt (kept : Kept visibility p c) {lease : Lease}
    (leased : lease ∈ c.broker.queue.leases) :
    lease.receipt =
      receiptText lease.message.id (c.entries.countP (Entry.delivers lease.message.id)) := by
  rw [← kept.queue] at leased
  rw [kept.conserves.receipt lease leased, Message.receipt,
    kept.conserves.accounted.attempt _ (MessageLog.mem_messages_of_leased leased), kept.delivered,
    DeliveryLog.deliveries, countP_filterMap_message]

end Kept

/-! ## Receipts that are out of date -/

def Current (b : Broker) (receipt : String) : Prop :=
  ∃ lease ∈ b.queue.leases, lease.receipt = receipt

section Outdated

variable {b : Broker} {receipt : String}

private theorem lease?_of_outdated (outdated : ¬Current b receipt) :
    b.queue.lease? receipt = none := by
  apply List.find?_eq_none.mpr
  intro lease leased named
  exact outdated ⟨lease, leased, by simpa using named⟩

private theorem acknowledge_of_outdated (outdated : ¬Current b receipt) :
    b.acknowledge receipt = b := by
  have leases : b.queue.leases.filter (·.receipt != receipt) = b.queue.leases := by
    apply List.filter_eq_self.mpr
    intro lease leased
    have differs : lease.receipt ≠ receipt := fun named => outdated ⟨lease, leased, named⟩
    simpa using differs
  simp only [Broker.acknowledge, MessageQueue.acknowledge, MessageQueue.release, leases]

private theorem giveBack_of_outdated (outdated : ¬Current b receipt) :
    b.giveBack receipt = (none, b) := by
  simp only [Broker.giveBack, MessageQueue.giveBack?, lease?_of_outdated outdated, Option.map_none]

end Outdated

/-- The deliveries of a message are numbered from 1. Before the next one the last was given back or
its visibility had passed, and only the receipt of a lease changes anything. -/
theorem deliveries_of_run {visibility : Nat} {c : DeliveryLog} (run : Run (start visibility) c) :
    (∀ before m t later, c.entries = before ++ .delivered m t :: later →
      m.attempt = before.countP (Entry.delivers m.id) + 1 ∧
        m.receipt = receiptText m.id (before.countP (Entry.delivers m.id) + 1)) ∧
      (c.deliveries.map Message.receipt).Nodup ∧
      (∀ before m s between again t later,
        c.entries = before ++ .delivered m s :: (between ++ .delivered again t :: later) →
        m.id = again.id → again.attempt = m.attempt + 1 →
          .returned m.receipt ∈ between ∨ s + visibility ≤ t) ∧
      (∀ lease ∈ c.broker.queue.leases, lease.receipt =
        receiptText lease.message.id (c.entries.countP (Entry.delivers lease.message.id))) ∧
      ∀ receipt, ¬Current c.broker receipt →
        c.broker.acknowledge receipt = c.broker ∧ c.broker.giveBack receipt = (none, c.broker) := by
  obtain ⟨p, kept⟩ := exists_kept run
  refine ⟨?_, kept.receipts_nodup, ?_, fun lease leased => kept.lease_receipt leased, ?_⟩
  · intro before m t later split
    have number := kept.attempt_eq split
    exact ⟨number, by rw [← number, Message.receipt]⟩
  · intro before m s between again t later split same follows
    exact kept.returned_or_over split same follows
  · intro receipt outdated
    exact ⟨acknowledge_of_outdated outdated, giveBack_of_outdated outdated⟩

/-- A lease runs out, the next delivery is given back, and the message is delivered again. The
first receipt is then out of date. -/
theorem deliveries_of_thrice_delivered :
    ∃ c : DeliveryLog, Run (start 5) c ∧
      c.entries = [.delivered ⟨1, [7], 1⟩ 0, .delivered ⟨1, [7], 2⟩ 5, .returned "1:2",
        .delivered ⟨1, [7], 3⟩ 6] ∧
      (c.deliveries.map Message.receipt).Nodup ∧
      c.broker.acknowledge "1:1" = c.broker ∧ c.broker.giveBack "1:1" = (none, c.broker) := by
  have first : Run (start 5) _ :=
    .tail (.tail .refl (@Step.send _ [7] _ _ rfl)) (@Step.look _ [] 0 .nil)
  have second : Run (start 5) _ := .tail (.tail first (.pass 5)) (@Step.look _ _ 0 (.refl _))
  have third : Run (start 5) _ :=
    .tail (.tail (.tail second (.giveBack "1:2")) (.pass 1)) (@Step.look _ _ 0 (.refl _))
  obtain ⟨_, nodup, _, _, outdated⟩ := deliveries_of_run third
  have unchanged := outdated "1:1" fun ⟨lease, leased, named⟩ => by
    revert lease
    decide +kernel
  exact ⟨_, third, by decide +kernel, nodup, unchanged⟩

end DeliveryLog

end FeedIngest.Delivery
