import Mathlib.Data.List.Nodup
import FeedIngest.Proofs.Delivery.LoggedChannel

/-!
# Channels in service

A broker that is never out of order does what it is asked to do, and workers have ids of their own.
So whoever takes up or ends a task does so for himself alone, and each conclusion of a task reaches
the broker.
-/

set_option autoImplicit false

namespace FeedIngest.Delivery

variable {τ : Type}

namespace Channel

/-- The broker is not out of order, and no two workers have one id. -/
structure InService (visibility maxRedeliveries : Nat) (c : Channel τ) : Prop where
  supply : ∃ b, c.supply = .broker b maxRedeliveries .none ∧ b.visibility = visibility
  ids : (c.workers.map (·.id)).Nodup
  hired : ∀ w ∈ c.workers, w.id < c.hired

structure Eases (visibility maxRedeliveries : Nat) (c next : Channel τ) : Prop where
  service : next.InService visibility maxRedeliveries
  tasks : next.tasks.Sublist c.tasks

section

variable {visibility maxRedeliveries : Nat} {c next : Channel τ}

theorem InService.brokered (service : c.InService visibility maxRedeliveries) :
    c.Brokered visibility maxRedeliveries := by
  obtain ⟨b, is, visible⟩ := service.supply
  exact ⟨b, .none, is, visible⟩

theorem InService.eases_refl (service : c.InService visibility maxRedeliveries) :
    Eases visibility maxRedeliveries c c :=
  ⟨service, List.Sublist.refl _⟩

theorem Eases.trans {last : Channel τ} (first : Eases visibility maxRedeliveries c next)
    (second : Eases visibility maxRedeliveries next last) :
    Eases visibility maxRedeliveries c last :=
  ⟨second.service, second.tasks.trans first.tasks⟩

/-! ## Messages move -/

/-- The broker has other messages, or others wait for it. -/
theorem InService.of_broker (service : c.InService visibility maxRedeliveries) {b : Broker}
    (supply : next.supply = .broker b maxRedeliveries .none) (visible : b.visibility = visibility)
    (workers : next.workers = c.workers) (hired : next.hired = c.hired) :
    Eases visibility maxRedeliveries c next where
  service := by
    refine ⟨⟨b, supply, visible⟩, ?_, ?_⟩
    · rw [workers]
      exact service.ids
    · rw [workers, hired]
      exact service.hired
  tasks := by
    rw [tasks, workers, tasks]

theorem InService.handOver (service : c.InService visibility maxRedeliveries) (ticket : Nat)
    (job : Job) : Eases visibility maxRedeliveries c (c.handOver ticket job) := by
  obtain ⟨b, is, visible⟩ := service.supply
  unfold Channel.handOver
  rw [is]
  simp only [Outages.onSend, Outages.none, List.head?_nil, Option.join_none, List.tail_nil]
  split
  · next called later sends =>
    exact service.of_broker rfl ((send_cases sends).2.trans visible) rfl rfl
  · exact service.of_broker rfl visible rfl rfl

theorem InService.sendRaw? (service : c.InService visibility maxRedeliveries)
    {payload : List UInt8} (sends : c.sendRaw? payload = some next) :
    Eases visibility maxRedeliveries c next := by
  obtain ⟨b, is, visible⟩ := service.supply
  unfold Channel.sendRaw? at sends
  rw [is] at sends
  obtain ⟨⟨called, later⟩, accepted, rfl⟩ := Option.map_eq_some_iff.mp sends
  exact service.of_broker rfl ((send_cases accepted).2.trans visible) rfl rfl

theorem InService.closeBroker (service : c.InService visibility maxRedeliveries) :
    Eases visibility maxRedeliveries c c.closeBroker := by
  obtain ⟨b, is, visible⟩ := service.supply
  unfold Channel.closeBroker
  rw [is]
  exact service.of_broker rfl visible rfl rfl

/-- An acknowledgement reaches the broker. -/
theorem InService.acknowledge (service : c.InService visibility maxRedeliveries)
    (receipt : String) : Eases visibility maxRedeliveries c (c.acknowledge receipt) ∧
      (c.acknowledge receipt).queue = c.queue.acknowledge receipt := by
  obtain ⟨b, is, visible⟩ := service.supply
  rw [queue_of_broker is]
  unfold Channel.acknowledge
  rw [is]
  exact ⟨service.of_broker rfl visible rfl rfl, rfl⟩

/-- A message that is given back under the receipt of a lease reaches the broker. -/
theorem InService.giveBack (service : c.InService visibility maxRedeliveries) (receipt : String) :
    Eases visibility maxRedeliveries c (c.giveBack receipt) ∧
      (c.giveBack receipt).queue = (c.queue.giveBack? receipt).getD c.queue := by
  obtain ⟨b, is, visible⟩ := service.supply
  rw [queue_of_broker is]
  unfold Channel.giveBack Broker.giveBack
  rw [is]
  simp only [Outages.onGiveBack, Outages.none, List.head?_nil, Option.join_none, List.tail_nil]
  cases b.queue.giveBack? receipt with
  | none => exact ⟨service.of_broker rfl visible rfl rfl, rfl⟩
  | some queue =>
    obtain ⟨same, visibleToo⟩ := ring_queue { b with queue }
    exact ⟨service.of_broker rfl (visibleToo.trans visible) rfl rfl, same⟩

theorem InService.fetchAfter (service : c.InService visibility maxRedeliveries)
    (order : List Lease) (now : Nat) (w : Worker τ) :
    Eases visibility maxRedeliveries c (c.fetchAfter order now w).2 := by
  obtain ⟨b, is, visible⟩ := service.supply
  have looks : ∀ own : Broker, own.visibility = visibility → Eases visibility maxRedeliveries c
      (c.lookAtBrokerAfter order now w.id own maxRedeliveries .none).2 := by
    intro own hides
    have after := (lookAfter_parts own order now w.id).2.2.trans hides
    unfold lookAtBrokerAfter
    generalize own.lookAfter order now w.id = looked at after ⊢
    obtain ⟨reception, later⟩ := looked
    have moves : Eases visibility maxRedeliveries c
        { c with supply := .broker later maxRedeliveries .none } :=
      service.of_broker rfl after rfl rfl
    cases reception with
    | closed => exact moves
    | empty expiry => exact moves
    | message m =>
      dsimp only
      split
      · exact moves
      · exact moves.trans (moves.service.acknowledge m.receipt).1
  unfold Channel.fetchAfter
  split
  · exact service.eases_refl
  · rw [is]
    dsimp only
    split
    · exact looks (b.leave w.id) visible
    · exact looks b visible

/-- A message that describes no job is dropped by whoever receives it. -/
theorem InService.fetchAfter_drops (service : c.InService visibility maxRedeliveries)
    {order : List Lease} {now : Nat} {w : Worker τ} (attends : w.dismissed = false) {m : Message}
    (received : (c.queue.receiveAfter order now visibility).1 = .message m)
    (unread : Job.ofPayload? m.payload = none) :
    (c.fetchAfter order now w).1 = .again ∧ (c.fetchAfter order now w).2.queue =
      (c.queue.receiveAfter order now visibility).2.acknowledge m.receipt := by
  obtain ⟨b, is, visible⟩ := service.supply
  have looks : ∀ own : Broker, own.queue = b.queue → own.visibility = visibility →
      (c.lookAtBrokerAfter order now w.id own maxRedeliveries .none).1 = .again ∧
      (c.lookAtBrokerAfter order now w.id own maxRedeliveries .none).2.queue =
        (c.queue.receiveAfter order now visibility).2.acknowledge m.receipt := by
    intro own queue hides
    obtain ⟨reception, left, _⟩ := lookAfter_parts own order now w.id
    rw [queue, hides, ← queue_of_broker is] at reception left
    unfold lookAtBrokerAfter
    generalize own.lookAfter order now w.id = looked at reception left ⊢
    obtain ⟨_, later⟩ := looked
    cases reception.trans received
    dsimp only
    rw [unread, ← left]
    exact ⟨rfl, rfl⟩
  unfold Channel.fetchAfter
  rw [attends, is]
  dsimp only
  rw [if_neg Bool.false_ne_true]
  split
  · exact looks (b.leave w.id) rfl visible
  · exact looks b rfl visible

/-- A task that was delivered ends with an acknowledgement, or its message is given back. -/
theorem InService.conclude (service : c.InService visibility maxRedeliveries) (task : Task)
    (result : Except Fault Unit) :
    Eases visibility maxRedeliveries c (c.conclude task result) ∧
      ∀ m, task.delivery = some m → (c.conclude task result).queue =
        if isFinal maxRedeliveries m.attempt result then c.queue.acknowledge m.receipt
        else (c.queue.giveBack? m.receipt).getD c.queue := by
  obtain ⟨b, is, _⟩ := service.supply
  unfold Channel.conclude
  rw [is]
  cases task.delivery with
  | none => exact ⟨service.eases_refl, nofun⟩
  | some m =>
    dsimp only
    split
    · next final =>
      obtain ⟨eases, queue⟩ := service.acknowledge m.receipt
      refine ⟨eases, ?_⟩
      rintro _ ⟨⟩
      rw [queue, if_pos final]
    · next more =>
      obtain ⟨eases, queue⟩ := service.giveBack m.receipt
      refine ⟨eases, ?_⟩
      rintro _ ⟨⟩
      rw [queue, if_neg more]

/-! ## Workers come and go -/

/-- Some workers leave, and none has a new task. -/
theorem InService.of_workers (service : c.InService visibility maxRedeliveries)
    (supply : ∀ b, c.supply = .broker b maxRedeliveries .none →
      ∃ later, next.supply = .broker later maxRedeliveries .none ∧ later.visibility = b.visibility)
    (ids : (next.workers.map (·.id)).Sublist (c.workers.map (·.id))) (hired : next.hired = c.hired)
    (tasks : next.tasks.Sublist c.tasks) : Eases visibility maxRedeliveries c next where
  service := by
    refine ⟨?_, service.ids.sublist ids, ?_⟩
    · obtain ⟨b, is, visible⟩ := service.supply
      obtain ⟨later, becomes, same⟩ := supply b is
      exact ⟨later, becomes, same.trans visible⟩
    · intro w works
      obtain ⟨before, worked, same⟩ := List.mem_map.mp (ids.subset (List.mem_map_of_mem works))
      rw [hired, ← same]
      exact service.hired before worked
  tasks := tasks

theorem InService.occupy (service : c.InService visibility maxRedeliveries) (id : Nat)
    (occupation : Occupation τ) : (c.occupy id occupation).InService visibility maxRedeliveries where
  supply := service.supply
  ids := by
    rw [occupy_ids]
    exact service.ids
  hired w works := by
    have known : w.id ∈ c.workers.map (·.id) := by
      rw [← occupy_ids c id occupation]
      exact List.mem_map_of_mem works
    obtain ⟨before, worked, same⟩ := List.mem_map.mp known
    exact same ▸ service.hired before worked

/-- The worker with an id is occupied with something else, and all others go on. -/
theorem InService.exists_occupy (service : c.InService visibility maxRedeliveries) {w : Worker τ}
    (works : w ∈ c.workers) (occupation : Occupation τ) : ∃ earlier later,
      c.tasks = earlier ++ w.occupation.task?.toList ++ later ∧
      (c.occupy w.id occupation).tasks = earlier ++ occupation.task?.toList ++ later := by
  obtain ⟨before, after, split⟩ := List.append_of_mem works
  have ids := service.ids
  simp only [split, List.map_append, List.map_cons] at ids
  obtain ⟨_, tail, apart⟩ := List.nodup_append.mp ids
  have others : ∀ other ∈ before ++ after, other.id ≠ w.id := by
    intro other member same
    rcases List.mem_append.mp member with first | last
    · exact apart other.id (List.mem_map_of_mem first) w.id List.mem_cons_self same
    · exact (List.nodup_cons.mp tail).1 (same ▸ List.mem_map_of_mem last)
  have stay : ∀ some : List (Worker τ), (∀ other ∈ some, other.id ≠ w.id) →
      some.map (fun other => if other.id = w.id then { other with occupation } else other) =
        some := by
    intro some differ
    refine (List.map_congr_left fun other member => ?_).trans (List.map_id _)
    rw [if_neg (differ other member), id]
  refine ⟨before.filterMap (·.occupation.task?), after.filterMap (·.occupation.task?), ?_, ?_⟩
  · rw [tasks, split, List.filterMap_append, List.filterMap_cons]
    cases w.occupation.task? <;> simp
  · have first := stay before fun other member => others other (List.mem_append_left _ member)
    have last := stay after fun other member => others other (List.mem_append_right _ member)
    rw [tasks, Channel.occupy, split]
    simp only [List.map_append, List.map_cons, first, last, List.filterMap_append,
      List.filterMap_cons, if_true]
    cases occupation.task? <;> simp

/-- A worker leaves off or waits. -/
theorem InService.occupy_idle (service : c.InService visibility maxRedeliveries) (id : Nat)
    {occupation : Occupation τ} (idle : occupation.task? = none) :
    Eases visibility maxRedeliveries c (c.occupy id occupation) where
  service := service.occupy id occupation
  tasks := by
    unfold tasks Channel.occupy
    rw [List.filterMap_map]
    induction c.workers with
    | nil => exact .refl _
    | cons w workers ih =>
      simp only [List.filterMap_cons, Function.comp_apply]
      by_cases here : w.id = id
      · rw [if_pos here]
        simp only [idle]
        split
        · exact ih
        · exact ih.cons _
      · rw [if_neg here]
        split
        · exact ih
        · exact ih.cons_cons _

theorem InService.dismiss (service : c.InService visibility maxRedeliveries) (id : Nat) :
    Eases visibility maxRedeliveries c (c.dismiss id) := by
  refine service.of_workers ?_ (List.filter_sublist.map _) rfl (List.filter_sublist.filterMap _)
  intro b is
  exact ⟨b.leave id, by simp only [Channel.dismiss, is], rfl⟩

theorem InService.abort (service : c.InService visibility maxRedeliveries) (ids : List Nat) :
    Eases visibility maxRedeliveries c (c.abort ids) := by
  induction ids generalizing c with
  | nil => exact service.eases_refl
  | cons id ids ih =>
    have first := service.dismiss id
    exact first.trans (ih first.service)

theorem InService.close (service : c.InService visibility maxRedeliveries) :
    Eases visibility maxRedeliveries c c.close := by
  obtain ⟨b, is, visible⟩ := service.supply
  unfold Channel.close
  rw [is]
  exact service.of_broker rfl visible rfl rfl

theorem InService.turnAway (service : c.InService visibility maxRedeliveries) :
    Eases visibility maxRedeliveries c c.turnAway := by
  obtain ⟨b, is, visible⟩ := service.supply
  unfold Channel.turnAway
  rw [is]
  exact service.eases_refl

theorem InService.tell (service : c.InService visibility maxRedeliveries) :
    Eases visibility maxRedeliveries c c.tell := by
  refine service.of_workers (fun b is => ⟨b, is, rfl⟩) ?_ rfl ?_
  · simp [Channel.tell, Function.comp_def]
  · simp [Channel.tell, Channel.tasks, List.filterMap_map]

theorem InService.enlist (service : c.InService visibility maxRedeliveries) (crew : Nat) :
    Eases visibility maxRedeliveries c (c.enlist crew) := by
  obtain ⟨b, is, visible⟩ := service.supply
  refine ⟨⟨⟨b, by simp only [Channel.enlist, is], visible⟩, ?_, ?_⟩, ?_⟩
  · simp only [Channel.enlist, List.map_append, List.map_singleton]
    refine List.nodup_append.mpr ⟨service.ids, List.nodup_singleton _, ?_⟩
    intro id known new hired same
    obtain ⟨w, works, rfl⟩ := List.mem_map.mp known
    have below := service.hired w works
    rw [List.mem_singleton.mp hired] at same
    omega
  · intro w works
    rcases List.mem_append.mp works with old | new
    · exact Nat.lt_succ_of_lt (service.hired w old)
    · rw [List.mem_singleton.mp new]
      exact Nat.lt_succ_self _
  · simp [tasks, Channel.enlist, List.filterMap_append, Occupation.task?]

theorem InService.heed (service : c.InService visibility maxRedeliveries) (id : Nat)
    {fetch : Fetch} (nothing : fetch.task? = none) :
    Eases visibility maxRedeliveries c (c.heed id fetch) := by
  cases fetch with
  | task task => cases nothing
  | ends => exact service.dismiss id
  | waits => exact service.occupy_idle id rfl
  | rests wakes => exact service.occupy_idle id rfl
  | again =>
    have leaves : Eases visibility maxRedeliveries c (c.occupy id .asking) :=
      service.occupy_idle id rfl
    exact leaves.trans (leaves.service.of_workers (fun b is => ⟨b, is,
        rfl⟩) (.refl _) rfl (.refl _))

theorem InService.withdraw (service : c.InService visibility maxRedeliveries) (ticket : Nat) :
    Eases visibility maxRedeliveries c (c.withdraw ticket) := by
  obtain ⟨b, is, _⟩ := service.supply
  unfold Channel.withdraw
  rw [is]
  exact service.eases_refl

end

end Channel

end FeedIngest.Delivery
