import Mathlib.Data.List.Basic
import Mathlib.Data.List.Nodup
import Mathlib.Data.List.Perm.Basic
import Mathlib.Logic.Relation
import FeedIngest.Delivery.Broker.Waiting

/-!
# Receivers who wait for a broker

Receivers come to a broker and wait for it, and some were called and have yet to look. A receiver
who waits with a deadline does not sleep through a message. One who began to wait when nothing was
leased has no deadline: he may sleep through a message whose lease is over, unless he is the first
in line at an empty broker.
-/

set_option autoImplicit false

namespace FeedIngest.Delivery

/-- A broker at a moment, and the receivers who were called and have yet to look. -/
structure BrokerReceivers where
  broker : Broker
  now : Nat
  called : List Nat

namespace BrokerReceivers

def start (visibility : Nat) : BrokerReceivers := ⟨.empty visibility, 0, []⟩

def receivers (v : BrokerReceivers) : List Nat := v.broker.waiting.map (·.receiver) ++ v.called

def after (v : BrokerReceivers) (called : List Nat) (broker : Broker) : BrokerReceivers :=
  { v with broker, called := v.called ++ called }

/-- One thing that happens. Leases that are over end in any order. -/
inductive Step : BrokerReceivers → BrokerReceivers → Prop where
  | send {v : BrokerReceivers} {payload : List UInt8} {called : Option Nat} {broker : Broker} :
      v.broker.send? payload = some (called, broker) → Step v (v.after called.toList broker)
  | arrive {v : BrokerReceivers} {order : List Lease} {receiver : Nat} :
      order.Perm (v.broker.queue.expired v.now) → receiver ∉ v.receivers →
      Step v { v with broker := (v.broker.lookAfter order v.now receiver).2 }
  /-- A receiver who was called looks. -/
  | answer {v : BrokerReceivers} {order : List Lease} {receiver : Nat} :
      order.Perm (v.broker.queue.expired v.now) → receiver ∈ v.called →
      Step v
        { v with
          broker := (v.broker.lookAfter order v.now receiver).2
          called := v.called.erase receiver }
  /-- A receiver whose time has come looks. -/
  | wake {v : BrokerReceivers} {order : List Lease} {receiver : Nat} :
      order.Perm (v.broker.queue.expired v.now) → receiver ∈ v.broker.due v.now →
      Step v
        { v with broker := ((v.broker.leave receiver).lookAfter order v.now receiver).2 }
  | acknowledge {v : BrokerReceivers} {receipt : String} :
      Step v { v with broker := v.broker.acknowledge receipt }
  | giveBack {v : BrokerReceivers} {receipt : String} :
      Step v (v.after (v.broker.giveBack receipt).1.toList (v.broker.giveBack receipt).2)
  | close {v : BrokerReceivers} : Step v (v.after v.broker.close.1 v.broker.close.2)
  | pass {v : BrokerReceivers} {span : Nat} : Step v { v with now := v.now + span }

abbrev Run : BrokerReceivers → BrokerReceivers → Prop := Relation.ReflTransGen Step

abbrev RunWhile (w : Waiter) : BrokerReceivers → BrokerReceivers → Prop :=
  Relation.ReflTransGen fun before after => Step before after ∧ w ∈ after.broker.waiting

/-- Nothing more happens of itself unless time passes. -/
def Idle (v : BrokerReceivers) : Prop := v.called = [] ∧ v.broker.due v.now = []

def Deliverable (v : BrokerReceivers) : Prop :=
  v.broker.queue.closed = false ∧
    (v.broker.queue.ready ≠ [] ∨ ∃ lease ∈ v.broker.queue.leases, lease.expires ≤ v.now)

/-! ## Looking -/

section Looking

variable {b : Broker} {order : List Lease} {now : Nat}

/-- What comes of looking: the broker is closed; or the first message is leased; or there is no
message and the receiver waits for the first lease to be over. -/
theorem lookAfter_cases (ended : order.Perm (b.queue.expired now)) (receiver : Nat) :
    (b.queue.closed = true ∧
      (b.lookAfter order now receiver).2 = { b with rung := false }) ∨
    (b.queue.closed = false ∧ ∃ m rest lease,
      b.queue.ready ++ order.map (·.message) = m :: rest ∧ lease.expires = now + b.visibility ∧
      (b.lookAfter order now receiver).2 =
        { b with
          rung := false
          queue := { (b.queue.requeue order now).grant lease with ready := rest } }) ∨
    (b.queue.closed = false ∧ b.queue.ready = [] ∧ b.queue.expired now = [] ∧
      (b.lookAfter order now receiver).2 =
        { b with
          rung := false
          waiting := b.waiting ++ [⟨receiver, b.queue.nextExpiry⟩] }) := by
  cases closed : b.queue.closed with
  | true => exact .inl ⟨rfl, by simp [Broker.lookAfter, MessageQueue.receiveAfter, closed]⟩
  | false =>
    refine .inr ?_
    cases ready : b.queue.ready ++ order.map (·.message) with
    | cons m rest =>
      refine .inl ⟨rfl, m, rest,
        ⟨receiptText m.id (m.attempt + 1), { m with attempt := m.attempt + 1 },
          now + b.visibility⟩, rfl, rfl, ?_⟩
      simp only [Broker.lookAfter, MessageQueue.receiveAfter, closed, MessageQueue.deliver,
        MessageQueue.requeue, ready]
      rfl
    | nil =>
      obtain ⟨noneReady, noneOver⟩ := List.append_eq_nil_iff.mp ready
      have noOrder : order = [] := List.map_eq_nil_iff.mp noneOver
      subst noOrder
      have nothing : b.queue.expired now = [] := ended.symm.eq_nil
      have kept : b.queue.requeue [] now = b.queue := by
        have all : (b.queue.leases.filter fun lease => !(decide (lease.expires ≤ now))) =
            b.queue.leases := by
          refine List.filter_eq_self.mpr fun lease member => ?_
          simpa using List.filter_eq_nil_iff.mp nothing lease member
        simp only [MessageQueue.requeue, all, List.map_nil, List.append_nil]
      refine .inr ⟨rfl, noneReady, nothing, ?_⟩
      simp only [Broker.lookAfter, MessageQueue.receiveAfter, closed, kept, MessageQueue.deliver,
        noneReady]
      rfl

end Looking

/-! ## What holds at every moment -/

/-- Who waits with a deadline wakes before any lease is over, and until then each ready message
has a receiver who was called for it; up to `slack` messages have none yet. -/
structure Sound (slack : Nat) (v : BrokerReceivers) : Prop where
  distinct : v.receivers.Nodup
  closed : v.broker.queue.closed = true → v.broker.waiting = []
  leases : ∀ lease ∈ v.broker.queue.leases, lease.expires ≤ v.now + v.broker.visibility
  deadlines : ∀ w ∈ v.broker.waiting, ∀ deadline, w.deadline = some deadline →
    deadline ≤ v.now + v.broker.visibility ∧
      ∀ lease ∈ v.broker.queue.leases, deadline ≤ lease.expires
  counted : (∃ w ∈ v.broker.waiting, ∃ deadline, w.deadline = some deadline ∧ v.now < deadline) →
    v.broker.queue.ready.length ≤ v.called.length + slack

private theorem start_sound (visibility : Nat) : (start visibility).Sound 0 where
  distinct := .nil
  closed _ := rfl
  leases := by simp [start, Broker.empty, MessageQueue.empty]
  deadlines := by simp [start, Broker.empty]
  counted := by simp [start, Broker.empty]

namespace Sound

variable {v : BrokerReceivers} {slack : Nat}

/-- Nothing is over while somebody waits whose time has not come. -/
theorem expired_eq_nil (sound : v.Sound slack)
    (early : ∃ w ∈ v.broker.waiting, ∃ deadline, w.deadline = some deadline ∧ v.now < deadline) :
    v.broker.queue.expired v.now = [] := by
  obtain ⟨w, waits, deadline, has, later⟩ := early
  refine List.filter_eq_nil_iff.mpr fun lease member => ?_
  have bound := (sound.deadlines w waits deadline has).2 lease member
  simp only [decide_eq_true_eq]
  omega

private theorem slacken (sound : v.Sound 0) : v.Sound 1 :=
  ⟨sound.distinct, sound.closed, sound.leases, sound.deadlines, fun early =>
    Nat.le_succ_of_le (sound.counted early)⟩

private theorem look (sound : v.Sound 1) {order : List Lease} {receiver : Nat}
    (ended : order.Perm (v.broker.queue.expired v.now)) (comes : receiver ∉ v.receivers) :
    Sound 0 { v with broker := (v.broker.lookAfter order v.now receiver).2 } := by
  rcases lookAfter_cases ended receiver with
    ⟨closed, looked⟩ | ⟨opened, m, rest, lease, ready, expires, looked⟩ | ⟨opened, noneReady, _, looked⟩
  · have nobody := sound.closed closed
    rw [looked]
    exact ⟨sound.distinct, sound.closed, sound.leases, sound.deadlines, by simp [nobody]⟩
  · have leased : ∀ other ∈ ((v.broker.queue.requeue order v.now).grant lease).leases,
        other ∈ v.broker.queue.leases ∨ other = lease := by
      intro other member
      rcases List.mem_append.mp member with old | new
      · exact .inl (List.mem_of_mem_filter (List.mem_of_mem_filter old))
      · exact .inr (List.mem_singleton.mp new)
    rw [looked]
    refine ⟨sound.distinct, ?_, ?_, ?_, ?_⟩
    · intro closed
      exact absurd (opened.symm.trans closed) Bool.false_ne_true
    · intro other member
      rcases leased other member with old | rfl
      · exact sound.leases other old
      · exact Nat.le_of_eq expires
    · intro w waits deadline has
      obtain ⟨bound, earliest⟩ := sound.deadlines w waits deadline has
      refine ⟨bound, fun other member => ?_⟩
      rcases leased other member with old | rfl
      · exact earliest other old
      · exact expires.symm ▸ bound
    · intro early
      have nothing : order = [] := by
        have none := sound.expired_eq_nil early
        rw [none] at ended
        exact ended.eq_nil
      rw [nothing, List.map_nil, List.append_nil] at ready
      have counted := sound.counted early
      rw [ready, List.length_cons] at counted
      exact Nat.le_of_succ_le_succ counted
  · rw [looked]
    refine ⟨?_, ?_, sound.leases, ?_, ?_⟩
    · have fresh : (receiver :: v.receivers).Nodup := List.nodup_cons.mpr ⟨comes, sound.distinct⟩
      refine (List.Perm.nodup_iff ?_).mp fresh
      simp only [receivers, List.map_append, List.map_cons, List.map_nil, List.append_assoc,
        List.singleton_append]
      exact List.perm_middle.symm
    · intro closed
      exact absurd (opened.symm.trans closed) Bool.false_ne_true
    · intro w waits deadline has
      rcases List.mem_append.mp waits with old | new
      · exact sound.deadlines w old deadline has
      · -- The new deadline is the end of the first lease.
        rw [List.mem_singleton.mp new] at has
        obtain ⟨among, least⟩ := List.min?_eq_some_iff.mp has
        obtain ⟨first, leased, rfl⟩ := List.mem_map.mp among
        exact ⟨sound.leases first leased, fun lease member =>
          least lease.expires (List.mem_map_of_mem member)⟩
    · intro _
      simp [noneReady]

/-- Messages are put in while leases may end. -/
theorem put (sound : v.Sound 0) (queue : MessageQueue) (m : Message)
    (closed : queue.closed = v.broker.queue.closed)
    (ready : queue.ready = v.broker.queue.ready ++ [m])
    (leases : ∀ lease ∈ queue.leases, lease ∈ v.broker.queue.leases) :
    Sound 1 { v with broker := { v.broker with queue } } where
  distinct := sound.distinct
  closed isClosed := sound.closed (closed ▸ isClosed)
  leases lease member := sound.leases lease (leases lease member)
  deadlines w waits deadline has :=
    ⟨(sound.deadlines w waits deadline has).1, fun lease member =>
      (sound.deadlines w waits deadline has).2 lease (leases lease member)⟩
  counted early := by
    have counted := sound.counted early
    simp only [ready, List.length_append, List.length_singleton]
    omega

/-- The bell calls a receiver for the message that was put in. -/
theorem ring (sound : v.Sound 1) :
    (v.after v.broker.ring.1.toList v.broker.ring.2).Sound 0 := by
  unfold Broker.ring
  split
  · next nobody =>
    refine ⟨?_, fun _ => nobody, sound.leases, ?_, ?_⟩
    · simpa [receivers, after] using sound.distinct
    · simp [after, nobody]
    · simp [after, nobody]
  · next first rest waiting =>
    have still : ∀ w ∈ rest, w ∈ v.broker.waiting := fun w member => by simp [waiting, member]
    refine ⟨?_, ?_, sound.leases, fun w waits => sound.deadlines w (still w waits), ?_⟩
    · refine (List.Perm.nodup_iff ?_).mp sound.distinct
      simp only [receivers, after, waiting, List.map_cons, Option.toList_some, ← List.append_assoc]
      exact (List.perm_append_singleton _ _).symm
    · intro closed
      have nobody := sound.closed closed
      rw [waiting] at nobody
      cases nobody
    · rintro ⟨w, waits, early⟩
      have counted := sound.counted ⟨w, still w waits, early⟩
      simpa [after] using counted

private theorem send (sound : v.Sound 0) {payload : List UInt8} {called : Option Nat}
    {broker : Broker} (accepted : v.broker.send? payload = some (called, broker)) :
    (v.after called.toList broker).Sound 0 := by
  obtain ⟨queue, sent, rung⟩ := Option.map_eq_some_iff.mp accepted
  unfold MessageQueue.send? at sent
  split at sent
  · cases sent
  · cases sent
    have put := sound.put { v.broker.queue with
        lastId := v.broker.queue.lastId + 1
        ready := v.broker.queue.ready ++ [⟨v.broker.queue.lastId + 1, payload, 0⟩] }
      ⟨v.broker.queue.lastId + 1, payload, 0⟩ rfl rfl (fun _ member => member)
    have called := put.ring
    rw [rung] at called
    exact called

private theorem giveBack (sound : v.Sound 0) (receipt : String) :
    (v.after (v.broker.giveBack receipt).1.toList (v.broker.giveBack receipt).2).Sound 0 := by
  unfold Broker.giveBack
  cases given : v.broker.queue.giveBack? receipt with
  | none => simpa [after] using sound
  | some queue =>
    obtain ⟨lease, _, rfl⟩ := Option.map_eq_some_iff.mp given
    have put := sound.put { v.broker.queue.release receipt with
        ready := v.broker.queue.ready ++ [lease.message] } lease.message rfl rfl
      (fun _ member => List.mem_of_mem_filter member)
    exact put.ring

private theorem turn (sound : v.Sound 0) {receiver : Nat} (called : receiver ∈ v.called) :
    Sound 1 { v with called := v.called.erase receiver } where
  distinct := by
    have split := List.nodup_append.mp sound.distinct
    exact List.nodup_append.mpr ⟨split.1, split.2.1.erase receiver, fun one waits other calls =>
      split.2.2 one waits other (List.mem_of_mem_erase calls)⟩
  closed := sound.closed
  leases := sound.leases
  deadlines := sound.deadlines
  counted early := by
    have counted := sound.counted early
    rw [List.length_erase_of_mem called]
    have some := List.length_pos_of_mem called
    show v.broker.queue.ready.length ≤ v.called.length - 1 + 1
    omega

private theorem leave (sound : v.Sound slack) (receiver : Nat) :
    Sound slack { v with broker := v.broker.leave receiver } where
  distinct := by
    have split := List.nodup_append.mp sound.distinct
    refine List.nodup_append.mpr
      ⟨split.1.sublist (List.filter_sublist.map _), split.2.1, fun one waits => split.2.2 one ?_⟩
    exact (List.filter_sublist.map _).subset waits
  closed closed := by simp [Broker.leave, sound.closed closed]
  leases := sound.leases
  deadlines w waits := sound.deadlines w (List.mem_of_mem_filter waits)
  counted := by
    rintro ⟨w, waits, early⟩
    exact sound.counted ⟨w, List.mem_of_mem_filter waits, early⟩

theorem pass (sound : v.Sound 0) (span : Nat) : Sound 0 { v with now := v.now + span } where
  distinct := sound.distinct
  closed := sound.closed
  leases lease member := by
    have bound := sound.leases lease member
    show lease.expires ≤ v.now + span + v.broker.visibility
    omega
  deadlines w waits deadline has := by
    obtain ⟨bound, earliest⟩ := sound.deadlines w waits deadline has
    refine ⟨?_, earliest⟩
    show deadline ≤ v.now + span + v.broker.visibility
    omega
  counted := by
    rintro ⟨w, waits, deadline, has, later⟩
    have later : v.now + span < deadline := later
    exact sound.counted ⟨w, waits, deadline, has, by omega⟩

theorem step {next : BrokerReceivers} (sound : v.Sound 0) (step : Step v next) : next.Sound 0 := by
  cases step with
  | send accepted => exact sound.send accepted
  | arrive ended comes => exact sound.slacken.look ended comes
  | @answer order receiver ended calls =>
    refine (sound.turn calls).look ended fun here => ?_
    have split := List.nodup_append.mp sound.distinct
    rcases List.mem_append.mp here with waits | again
    · exact split.2.2 receiver waits receiver calls rfl
    · exact split.2.1.not_mem_erase again
  | @wake order receiver ended due =>
    refine (sound.leave receiver).slacken.look ended fun here => ?_
    have split := List.nodup_append.mp sound.distinct
    obtain ⟨w, inLine, rfl⟩ := List.mem_map.mp due
    rcases List.mem_append.mp here with waits | calls
    · obtain ⟨other, kept, same⟩ := List.mem_map.mp waits
      simp [Broker.leave, same] at kept
    · exact split.2.2 w.receiver (List.mem_map_of_mem (List.mem_of_mem_filter inLine))
        w.receiver calls rfl
  | acknowledge =>
    exact ⟨sound.distinct, sound.closed,
      fun lease member => sound.leases lease (List.mem_of_mem_filter member),
      fun w waits deadline has => ⟨(sound.deadlines w waits deadline has).1, fun lease member =>
        (sound.deadlines w waits deadline has).2 lease (List.mem_of_mem_filter member)⟩,
      sound.counted⟩
  | giveBack => exact sound.giveBack _
  | close =>
    refine ⟨?_, fun _ => rfl, sound.leases, by simp [after, Broker.close],
      by simp [after, Broker.close]⟩
    refine (List.Perm.nodup_iff ?_).mp sound.distinct
    simp only [receivers, after, Broker.close, List.map_nil, List.nil_append]
    exact List.perm_append_comm
  | pass => exact sound.pass _

theorem run {later : BrokerReceivers} (sound : v.Sound 0) (run : Run v later) : later.Sound 0 := by
  induction run with
  | refl => exact sound
  | tail _ last ih => exact ih.step last

/-- Who waits with a deadline misses nothing. -/
theorem not_deliverable (sound : v.Sound 0) (idle : v.Idle) {w : Waiter}
    (waits : w ∈ v.broker.waiting) (timed : w.deadline ≠ none) : ¬ v.Deliverable := by
  obtain ⟨deadline, has⟩ := Option.ne_none_iff_exists'.mp timed
  have later : v.now < deadline := by
    by_contra reached
    have due : w.receiver ∈ v.broker.due v.now := by
      refine List.mem_map_of_mem (List.mem_filter.mpr ⟨waits, ?_⟩)
      simpa [has] using reached
    rw [idle.2] at due
    cases due
  have early : ∃ w ∈ v.broker.waiting, ∃ deadline, w.deadline = some deadline ∧ v.now < deadline :=
    ⟨w, waits, deadline, has, later⟩
  rintro ⟨_, ready | ⟨lease, leased, ended⟩⟩
  · have counted := sound.counted early
    rw [idle.1] at counted
    exact ready (List.length_eq_zero_iff.mp (Nat.le_zero.mp counted))
  · have member : lease ∈ v.broker.queue.expired v.now :=
      List.mem_filter.mpr ⟨leased, by simpa using ended⟩
    rw [sound.expired_eq_nil early] at member
    cases member

end Sound

/-! ## Who waits without a deadline -/

def FirstAtEmpty (w : Waiter) (v : BrokerReceivers) : Prop :=
  v.broker.waiting.head? = some w ∧ v.broker.queue.ready = [] ∧ v.broker.queue.leases = []

section Blind

variable {v : BrokerReceivers} {w : Waiter}

/-- Who looks at a broker without messages leaves it so, and at most joins the line. -/
private theorem look_at_empty {b : Broker} {order : List Lease} {now : Nat}
    (ready : b.queue.ready = []) (leases : b.queue.leases = [])
    (ended : order.Perm (b.queue.expired now)) (receiver : Nat) :
    (b.lookAfter order now receiver).2.queue = b.queue ∧
      ∃ joined, (b.lookAfter order now receiver).2.waiting = b.waiting ++ joined := by
  rcases lookAfter_cases ended receiver with
    ⟨_, looked⟩ | ⟨_, m, rest, lease, found, _, _⟩ | ⟨_, _, _, looked⟩
  · exact ⟨by rw [looked], [], by rw [looked, List.append_nil]⟩
  · have nothing : b.queue.expired now = [] := by simp [MessageQueue.expired, leases]
    rw [nothing] at ended
    rw [ready, ended.eq_nil] at found
    cases found
  · exact ⟨by rw [looked], _, by rw [looked]⟩

/-- The first in line is called when a message comes, and until then there is none. -/
theorem FirstAtEmpty.step {next : BrokerReceivers} (first : FirstAtEmpty w v) (sound : v.Sound 0)
    (blind : w.deadline = none) (step : Step v next) (stays : w ∈ next.broker.waiting) :
    FirstAtEmpty w next := by
  obtain ⟨head, ready, leases⟩ := first
  obtain ⟨rest, waiting⟩ : ∃ rest, v.broker.waiting = w :: rest := List.head?_eq_some_iff.mp head
  have alone : ∀ other ∈ rest, other.receiver ≠ w.receiver := by
    have distinct := (List.nodup_append.mp sound.distinct).1
    rw [waiting, List.map_cons, List.nodup_cons] at distinct
    intro other member same
    exact distinct.1 (List.mem_map.mpr ⟨other, member, same⟩)
  cases step with
  | send accepted =>
    -- The bell calls him, so he no longer waits.
    obtain ⟨queue, _, rung⟩ := Option.map_eq_some_iff.mp accepted
    simp only [Broker.ring, waiting, Prod.mk.injEq] at rung
    rw [after, ← rung.2] at stays
    exact absurd rfl (alone w stays)
  | @arrive order receiver ended comes =>
    obtain ⟨queue, joined, line⟩ := look_at_empty ready leases ended receiver
    exact ⟨by simp [line, waiting], by rw [queue, ready], by rw [queue, leases]⟩
  | @answer order receiver ended calls =>
    obtain ⟨queue, joined, line⟩ := look_at_empty ready leases ended receiver
    exact ⟨by simp [line, waiting], by rw [queue, ready], by rw [queue, leases]⟩
  | @wake order receiver ended due =>
    have other : w.receiver ≠ receiver := by
      obtain ⟨timed, inLine, rfl⟩ := List.mem_map.mp due
      obtain ⟨waits, reached⟩ := List.mem_filter.mp inLine
      rw [waiting] at waits
      rcases List.mem_cons.mp waits with rfl | later
      · simp [blind] at reached
      · exact (alone timed later).symm
    obtain ⟨queue, joined, line⟩ :=
      look_at_empty (b := v.broker.leave receiver) ready leases ended receiver
    refine ⟨?_, by rw [queue]; exact ready, by rw [queue]; exact leases⟩
    show ((v.broker.leave receiver).lookAfter order v.now receiver).2.waiting.head? = some w
    rw [line]
    simp [Broker.leave, waiting, other]
  | acknowledge =>
    exact ⟨head, ready, by simp [Broker.acknowledge, MessageQueue.acknowledge,
      MessageQueue.release, leases]⟩
  | @giveBack receipt =>
    have unknown : v.broker.giveBack receipt = (none, v.broker) := by
      simp [Broker.giveBack, MessageQueue.giveBack?, MessageQueue.lease?, leases]
    rw [unknown]
    exact ⟨head, ready, leases⟩
  | close => cases stays
  | pass => exact ⟨head, ready, leases⟩

private theorem RunWhile.sound {later : BrokerReceivers} (run : RunWhile w v later)
    (sound : v.Sound 0) (waits : w ∈ v.broker.waiting) :
    later.Sound 0 ∧ w ∈ later.broker.waiting := by
  induction run with
  | refl => exact ⟨sound, waits⟩
  | tail _ last ih => exact ⟨ih.1.step last.1, last.2⟩

theorem FirstAtEmpty.run {later : BrokerReceivers} (first : FirstAtEmpty w v) (sound : v.Sound 0)
    (blind : w.deadline = none) (run : RunWhile w v later) :
    FirstAtEmpty w later ∧ later.Sound 0 := by
  induction run with
  | refl => exact ⟨first, sound⟩
  | tail _ last ih => exact ⟨ih.1.step ih.2 blind last.1 last.2, ih.2.step last.1⟩

/-- Who looks where there is a message takes it and does not join the line. -/
private theorem look_takes {b : Broker} {order : List Lease} {now : Nat}
    (opened : b.queue.closed = false) (ended : order.Perm (b.queue.expired now))
    (messages : b.queue.ready ≠ [] ∨ b.queue.expired now ≠ []) (receiver : Nat) :
    (b.lookAfter order now receiver).2.queue.closed = false ∧
      (b.lookAfter order now receiver).2.queue.leases ≠ [] ∧
      (b.lookAfter order now receiver).2.waiting = b.waiting := by
  rcases lookAfter_cases ended receiver with
    ⟨closed, _⟩ | ⟨_, m, rest, lease, _, _, looked⟩ | ⟨_, noneReady, noneOver, _⟩
  · exact absurd (opened.symm.trans closed) Bool.false_ne_true
  · rw [looked]
    exact ⟨opened, by simp [MessageQueue.grant], rfl⟩
  · exact (messages.elim (· noneReady) (· noneOver)).elim

/-- A receiver whose time has come wakes and takes a message. -/
private theorem exists_wake (sound : v.Sound 0) (opened : v.broker.queue.closed = false)
    (messages : v.broker.queue.ready ≠ [] ∨ v.broker.queue.expired v.now ≠ [])
    {receiver : Nat} (comes : receiver ∈ v.broker.due v.now)
    (waits : w ∈ v.broker.waiting) (blind : w.deadline = none) :
    ∃ next, Step v next ∧ next.called = v.called ∧ next.broker.queue.closed = false ∧
      w ∈ next.broker.waiting ∧ next.broker.waiting.length < v.broker.waiting.length ∧
      next.broker.queue.leases ≠ [] := by
  obtain ⟨opened, leased, line⟩ := look_takes (b := v.broker.leave receiver) opened
    (List.Perm.refl (v.broker.queue.expired v.now)) messages receiver
  refine ⟨_, .wake (List.Perm.refl _) comes, rfl, opened, ?_, ?_, leased⟩
  all_goals
    obtain ⟨timed, inLine, rfl⟩ := List.mem_map.mp comes
    obtain ⟨among, reached⟩ := List.mem_filter.mp inLine
  · have other : w.receiver ≠ timed.receiver := by
      intro same
      have distinct := (List.nodup_append.mp sound.distinct).1
      have equal := List.inj_on_of_nodup_map distinct waits among same
      subst equal
      simp [blind] at reached
    show w ∈ ((v.broker.leave timed.receiver).lookAfter _ v.now timed.receiver).2.waiting
    rw [line]
    exact List.mem_filter.mpr ⟨waits, by simpa using other⟩
  · show ((v.broker.leave timed.receiver).lookAfter _ v.now timed.receiver).2.waiting.length < _
    rw [line]
    exact List.length_filter_lt_length_iff_exists.mpr ⟨timed, among, by simp⟩

/-- A broker that has messages comes to a state where one of them is deliverable and nobody is
called, while a receiver without a deadline goes on waiting: those with a deadline take a message
each, and then nobody is left who would wake. -/
theorem exists_deliverable (sound : v.Sound 0) (opened : v.broker.queue.closed = false)
    (quiet : v.called = []) (waits : w ∈ v.broker.waiting) (blind : w.deadline = none)
    (messages : v.broker.queue.ready ≠ [] ∨ v.broker.queue.leases ≠ []) :
    ∃ later, RunWhile w v later ∧ later.Idle ∧ later.Deliverable := by
  induction line : v.broker.waiting.length using Nat.strongRecOn generalizing v with
  | _ length ih =>
    -- Once the visibility has passed, all leases are over.
    have passes : Step v { v with now := v.now + v.broker.visibility } := .pass
    have messages : v.broker.queue.ready ≠ [] ∨
        v.broker.queue.expired (v.now + v.broker.visibility) ≠ [] := by
      refine messages.imp_right fun leased => ?_
      obtain ⟨lease, member⟩ := List.exists_mem_of_ne_nil _ leased
      exact List.ne_nil_of_mem
        (List.mem_filter.mpr ⟨member, by simpa using sound.leases lease member⟩)
    cases due : v.broker.due (v.now + v.broker.visibility) with
    | nil =>
      refine ⟨_, .single ⟨passes, waits⟩, ⟨quiet, due⟩, opened, messages.imp_right fun ended => ?_⟩
      obtain ⟨lease, member⟩ := List.exists_mem_of_ne_nil _ ended
      obtain ⟨leased, reached⟩ := List.mem_filter.mp member
      exact ⟨lease, leased, by simpa using reached⟩
    | cons receiver others =>
      have sound := sound.pass v.broker.visibility
      obtain ⟨next, wakes, called, opened, waitsOn, fewer, leased⟩ := exists_wake sound opened
        messages (by rw [due]; exact List.mem_cons_self) waits blind
      obtain ⟨later, run, asleep⟩ := ih _ (line ▸ fewer) (sound.step wakes) opened
        (called.trans quiet) waitsOn (.inr leased) rfl
      exact ⟨later, .head ⟨passes, waits⟩ (.head ⟨wakes, waitsOn⟩ run), asleep⟩

/-- Another message comes for the first in line, who takes it while those behind him wait. -/
private theorem exists_taken (opened : v.broker.queue.closed = false) (quiet : v.called = [])
    {first : Waiter} {rest : List Waiter} (waiting : v.broker.waiting = first :: rest)
    (behind : w ∈ rest) :
    ∃ next, RunWhile w v next ∧ next.broker.queue.closed = false ∧ next.called = [] ∧
      w ∈ next.broker.waiting ∧ next.broker.queue.leases ≠ [] := by
  obtain ⟨broker, sent, opened, ready, line⟩ : ∃ broker,
      v.broker.send? [] = some (some first.receiver, broker) ∧ broker.queue.closed = false ∧
        broker.queue.ready ≠ [] ∧ broker.waiting = rest := by
    refine ⟨_, by simp [Broker.send?, MessageQueue.send?, opened, Broker.ring, waiting]; rfl, ?_⟩
    exact ⟨rfl, by simp, rfl⟩
  have sends : Step v (v.after [first.receiver] broker) := .send sent
  obtain ⟨opened, leased, same⟩ := look_takes opened
    (List.Perm.refl (broker.queue.expired v.now)) (.inl ready) first.receiver
  have waitsOn :
      w ∈ (broker.lookAfter (broker.queue.expired v.now) v.now first.receiver).2.waiting := by
    rw [same, line]
    exact behind
  have called : first.receiver ∈ (v.after [first.receiver] broker).called := by simp [after]
  have answers := Step.answer (List.Perm.refl _) called
  have stays : w ∈ (v.after [first.receiver] broker).broker.waiting := by
    simpa [after, line] using behind
  refine ⟨_, .head ⟨sends, stays⟩ (.single ⟨answers, waitsOn⟩), opened, ?_, waitsOn, leased⟩
  simp [after, quiet]

/-- A receiver may sleep through a message exactly if he waits without a deadline and is not the
first in line at an empty broker. -/
theorem oversleeps_iff {visibility : Nat} (run : Run (start visibility) v) (idle : v.Idle)
    (opened : v.broker.queue.closed = false) (waits : w ∈ v.broker.waiting) :
    (∃ later, RunWhile w v later ∧ later.Idle ∧ later.Deliverable) ↔
      w.deadline = none ∧ ¬ FirstAtEmpty w v := by
  have sound := (start_sound visibility).run run
  constructor
  · rintro ⟨later, meanwhile, asleep, deliverable⟩
    obtain ⟨soundLater, waitsOn⟩ := RunWhile.sound meanwhile sound waits
    have blind : w.deadline = none := by
      by_contra timed
      exact soundLater.not_deliverable asleep waitsOn timed deliverable
    refine ⟨blind, fun first => ?_⟩
    obtain ⟨_, ready, leases⟩ := (first.run sound blind meanwhile).1
    rcases deliverable with ⟨_, found | ⟨lease, found, _⟩⟩
    · exact found ready
    · rw [leases] at found
      cases found
  · rintro ⟨blind, notFirst⟩
    by_cases messages : v.broker.queue.ready ≠ [] ∨ v.broker.queue.leases ≠ []
    · exact exists_deliverable sound opened idle.1 waits blind messages
    · -- A message comes for the first in line, who takes it.
      simp only [ne_eq, not_or, not_not] at messages
      obtain ⟨ready, leases⟩ := messages
      cases waiting : v.broker.waiting with
      | nil => rw [waiting] at waits; cases waits
      | cons first rest =>
        have behind : w ∈ rest := by
          rw [waiting] at waits
          rcases List.mem_cons.mp waits with rfl | behind
          · exact absurd ⟨by rw [waiting]; rfl, ready, leases⟩ notFirst
          · exact behind
        obtain ⟨next, runs, opened, quiet, waitsOn, leased⟩ :=
          exists_taken opened idle.1 waiting behind
        obtain ⟨soundNext, _⟩ := RunWhile.sound runs sound waits
        obtain ⟨later, run, asleep⟩ :=
          exists_deliverable soundNext opened quiet waitsOn blind (.inr leased)
        exact ⟨later, runs.trans run, asleep⟩

end Blind

/-! ## Two receivers and one message -/

def pair : BrokerReceivers := ⟨{ Broker.empty 1 with waiting := [⟨1, none⟩, ⟨2, none⟩] }, 0, []⟩

theorem run_pair : Run (start 1) pair :=
  .head (@Step.arrive _ [] 1 (.refl _) (by decide))
    (.single (@Step.arrive _ [] 2 (.refl _) (by decide)))

/-- The second of them may sleep through a message. -/
theorem second_oversleeps :
    ∃ later, RunWhile ⟨2, none⟩ pair later ∧ later.Idle ∧ later.Deliverable :=
  (oversleeps_iff run_pair ⟨rfl, rfl⟩ rfl (by decide)).mpr
    ⟨rfl, by simp [FirstAtEmpty, pair]⟩

/-- The first took a message and kept it until his lease was over; the second waits on. -/
def asleep : BrokerReceivers :=
  ⟨⟨⟨1, [], [⟨receiptText 1 1, ⟨1, [], 1⟩, 1⟩], false⟩, 1, [⟨2, none⟩], false⟩, 1, []⟩

theorem run_asleep : Run pair asleep :=
  .head (@Step.send _ [] (some 1) _ rfl)
    (.head (@Step.answer _ [] 1 (.refl _) (by decide)) (.single (@Step.pass _ 1)))

/-- A receiver may wait although a message is deliverable. -/
theorem not_forall_run_awake :
    ¬ ∀ (visibility : Nat) (v : BrokerReceivers), Run (start visibility) v → v.Idle →
      v.broker.queue.closed = false → v.broker.waiting ≠ [] → ¬ v.Deliverable := by
  intro awake
  have ended : asleep.Deliverable := ⟨rfl, .inr ⟨_, List.mem_singleton.mpr rfl, Nat.le_refl 1⟩⟩
  exact awake 1 asleep (run_pair.trans run_asleep) ⟨rfl, rfl⟩ rfl (List.cons_ne_nil _ _) ended

end BrokerReceivers

end FeedIngest.Delivery
