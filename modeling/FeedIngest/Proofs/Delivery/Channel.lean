import FeedIngest.Delivery.Channel

/-!
# What the steps of a broker channel do

Each step of a channel that has a broker is told by what it does to the messages of the broker and
to the tasks in the hands of the workers. Most steps leave both alone.
-/

set_option autoImplicit false

namespace FeedIngest.Delivery

variable {τ : Type}

def Occupation.task? : Occupation τ → Option Task
  | .busy task _ _ => some task
  | _ => none

def Channel.Fetch.task? : Channel.Fetch → Option Task
  | .task found => some found
  | _ => none

namespace Channel

def tasks (c : Channel τ) : List Task := c.workers.filterMap (·.occupation.task?)

/-- A channel has a broker that hides messages for a while and redelivers them so often. -/
def Brokered (visibility maxRedeliveries : Nat) (c : Channel τ) : Prop :=
  ∃ b outages, c.supply = .broker b maxRedeliveries outages ∧ b.visibility = visibility

variable {visibility maxRedeliveries : Nat} {c next : Channel τ}

/-! ## Steps that leave all messages where they are -/

/-- The messages stay where they are, and nobody takes up a task. -/
structure Quiet (c next : Channel τ) : Prop where
  queue : next.queue = c.queue
  brokered : ∀ visibility maxRedeliveries, c.Brokered visibility maxRedeliveries →
    next.Brokered visibility maxRedeliveries
  tasks : next.tasks ⊆ c.tasks

namespace Quiet

theorem refl : Quiet c c := ⟨rfl, fun _ _ brokered => brokered, fun _ member => member⟩

theorem trans {last : Channel τ} (first : Quiet c next) (second : Quiet next last) :
    Quiet c last where
  queue := second.queue.trans first.queue
  brokered v m brokered := second.brokered v m (first.brokered v m brokered)
  tasks := fun _ member => first.tasks (second.tasks member)

/-- Only what workers do differs, and none has a new task. -/
theorem of_supply (supply : next.supply = c.supply) (tasks : next.tasks ⊆ c.tasks) :
    Quiet c next where
  queue := by
    unfold Channel.queue
    rw [supply]
  brokered _ _ := by
    intro ⟨b, outages, is, visibility⟩
    exact ⟨b, outages, supply.trans is, visibility⟩
  tasks := tasks

end Quiet

theorem tasks_occupy (c : Channel τ) (id : Nat) (occupation : Occupation τ) :
    (c.occupy id occupation).tasks ⊆ occupation.task?.toList ++ c.tasks := by
  intro task member
  obtain ⟨w, works, has⟩ := List.mem_filterMap.mp member
  obtain ⟨before, worked, rfl⟩ := List.mem_map.mp works
  split at has
  · exact List.mem_append_left _ (by simp [has])
  · exact List.mem_append_right _ (List.mem_filterMap.mpr ⟨before, worked, has⟩)

theorem occupy_ids (c : Channel τ) (id : Nat) (occupation : Occupation τ) :
    (c.occupy id occupation).workers.map (·.id) = c.workers.map (·.id) := by
  unfold occupy
  rw [List.map_map]
  refine List.map_congr_left ?_
  intro w _
  by_cases here : w.id = id <;> simp [here]

/-- A worker leaves off or waits. -/
theorem quiet_occupy (c : Channel τ) (id : Nat) {occupation : Occupation τ}
    (idle : occupation.task? = none) : Quiet c (c.occupy id occupation) :=
  .of_supply rfl (by simpa [idle] using tasks_occupy c id occupation)

theorem quiet_dismiss (c : Channel τ) (id : Nat) : Quiet c (c.dismiss id) where
  queue := by
    unfold Channel.queue dismiss
    cases c.supply <;> rfl
  brokered v m := by
    intro ⟨b, outages, is, visibility⟩
    exact ⟨b.leave id, outages, by simp only [dismiss, is], visibility⟩
  tasks := (List.filter_sublist.filterMap _).subset

theorem quiet_abort (c : Channel τ) (ids : List Nat) : Quiet c (c.abort ids) := by
  induction ids generalizing c with
  | nil => exact .refl
  | cons id ids ih => exact (quiet_dismiss c id).trans (ih (c.dismiss id))

theorem quiet_withdraw (c : Channel τ) (ticket : Nat) : Quiet c (c.withdraw ticket) := by
  unfold withdraw
  split
  · next queue is =>
    refine ⟨?_, ?_, fun _ member => member⟩
    · simp only [Channel.queue, is]
    · intro v m ⟨b, outages, isBroker, _⟩
      cases is.symm.trans isBroker
  · exact .refl

theorem quiet_close (c : Channel τ) : Quiet c c.close where
  queue := by
    unfold Channel.queue close
    cases is : c.supply <;> simp [is]
  brokered v m := by
    intro ⟨b, outages, is, visibility⟩
    exact ⟨b, outages, by simp only [close, is], visibility⟩
  tasks := by
    unfold close
    cases c.supply <;> exact fun _ member => member

theorem quiet_turnAway (c : Channel τ) : Quiet c c.turnAway where
  queue := by
    unfold Channel.queue turnAway
    cases is : c.supply <;> simp [is]
  brokered v m := by
    intro ⟨b, outages, is, visibility⟩
    exact ⟨b, outages, by simp only [turnAway, is], visibility⟩
  tasks := by
    unfold turnAway
    cases c.supply <;> exact fun _ member => member

theorem quiet_tell (c : Channel τ) : Quiet c c.tell := by
  refine .of_supply rfl fun task member => ?_
  obtain ⟨w, works, has⟩ := List.mem_filterMap.mp member
  obtain ⟨before, worked, rfl⟩ := List.mem_map.mp works
  exact List.mem_filterMap.mpr ⟨before, worked, has⟩

theorem quiet_claim (c : Channel τ) : Quiet c c.claim := .of_supply rfl fun _ member => member

theorem quiet_enlist (c : Channel τ) (crew : Nat) : Quiet c (c.enlist crew) where
  queue := by
    unfold Channel.queue enlist
    cases c.supply <;> rfl
  brokered v m := by
    intro ⟨b, outages, is, visibility⟩
    exact ⟨b, outages, by simp only [enlist, is], visibility⟩
  tasks := by
    intro task member
    obtain ⟨w, works, has⟩ := List.mem_filterMap.mp member
    rcases List.mem_append.mp works with before | new
    · exact List.mem_filterMap.mpr ⟨w, before, has⟩
    · rw [List.mem_singleton.mp new] at has
      cases has

theorem quiet_register (c : Channel τ) (id : Nat) : Quiet c (c.register id) :=
  .of_supply rfl fun _ member => member

/-- A worker who found no task. -/
theorem quiet_heed (c : Channel τ) (id : Nat) {fetch : Fetch} (nothing : fetch.task? = none) :
    Quiet c (c.heed id fetch) := by
  cases fetch with
  | task task => cases nothing
  | ends => exact quiet_dismiss c id
  | waits => exact quiet_occupy c id rfl
  | rests wakes => exact quiet_occupy c id rfl
  | again => exact (quiet_occupy c id rfl).trans (.of_supply rfl fun _ member => member)

/-! ## Steps that move messages -/

/-- The workers go on with what they do, and the channel keeps its broker. -/
structure Steady (c next : Channel τ) : Prop where
  brokered : ∀ visibility maxRedeliveries, c.Brokered visibility maxRedeliveries →
    next.Brokered visibility maxRedeliveries
  workers : next.workers = c.workers

theorem Steady.tasks (steady : Steady c next) : next.tasks = c.tasks := by
  unfold Channel.tasks
  rw [steady.workers]

theorem Steady.refl : Steady c c := ⟨fun _ _ brokered => brokered, rfl⟩

theorem Steady.trans {last : Channel τ} (first : Steady c next) (second : Steady next last) :
    Steady c last where
  brokered v m brokered := second.brokered v m (first.brokered v m brokered)
  workers := second.workers.trans first.workers

/-- The broker of a channel is another one, which hides messages as long as the one before. -/
theorem Steady.of_broker {b later : Broker} {outages laterOutages : Outages}
    (is : c.supply = .broker b maxRedeliveries outages)
    (becomes : next.supply = .broker later maxRedeliveries laterOutages)
    (visibility : later.visibility = b.visibility) (workers : next.workers = c.workers) :
    Steady c next where
  brokered v m := by
    intro ⟨before, outagesBefore, isToo, visible⟩
    cases is.symm.trans isToo
    exact ⟨later, laterOutages, becomes, visibility.trans visible⟩
  workers := workers

theorem queue_of_broker {b : Broker} {outages : Outages}
    (is : c.supply = .broker b maxRedeliveries outages) : c.queue = b.queue := by
  unfold Channel.queue
  rw [is]

theorem ring_queue (b : Broker) :
    b.ring.2.queue = b.queue ∧ b.ring.2.visibility = b.visibility := by
  unfold Broker.ring
  split <;> exact ⟨rfl, rfl⟩

/-- An acknowledgement reaches the broker unless that is out of order. -/
theorem acknowledge_cases (c : Channel τ) (receipt : String) :
    Steady c (c.acknowledge receipt) ∧
      ((c.acknowledge receipt).queue = c.queue ∨
        (c.acknowledge receipt).queue = c.queue.acknowledge receipt) := by
  unfold acknowledge
  split
  · next b maxRedeliveries outages is =>
    rw [queue_of_broker is]
    rcases outages.onAcknowledge with ⟨_ | fault, after⟩
    · exact ⟨.of_broker is rfl rfl rfl, .inr rfl⟩
    · exact ⟨.of_broker is rfl rfl rfl, .inl rfl⟩
  · exact ⟨.refl, .inl rfl⟩

/-- A message that is given back reaches the broker unless that is out of order, and is put back if
the receipt is not outdated. -/
theorem giveBack_cases (c : Channel τ) (receipt : String) :
    Steady c (c.giveBack receipt) ∧
      ((c.giveBack receipt).queue = c.queue ∨
        c.queue.giveBack? receipt = some (c.giveBack receipt).queue) := by
  unfold giveBack
  split
  · next b maxRedeliveries outages is =>
    rw [queue_of_broker is]
    rcases outages.onGiveBack with ⟨_ | fault, after⟩
    · dsimp only
      unfold Broker.giveBack
      cases returned : b.queue.giveBack? receipt with
      | none => exact ⟨.of_broker is rfl rfl rfl, .inl rfl⟩
      | some queue =>
        obtain ⟨same, visible⟩ := ring_queue { b with queue }
        exact ⟨.of_broker is rfl visible rfl, .inr (congrArg some same.symm)⟩
    · exact ⟨.of_broker is rfl rfl rfl, .inl rfl⟩
  · exact ⟨.refl, .inl rfl⟩

/-- A conclusion either is final and acknowledged, or gives the message back. -/
theorem conclude_cases (brokered : c.Brokered visibility maxRedeliveries) (task : Task)
    (result : Except Fault Unit) :
    (∃ m, task.delivery = some m ∧ isFinal maxRedeliveries m.attempt result = true ∧
      c.conclude task result = c.acknowledge m.receipt) ∨
    (∃ m : Message, c.conclude task result = c.giveBack m.receipt) ∨
      c.conclude task result = c := by
  obtain ⟨b, outages, is, _⟩ := brokered
  unfold conclude
  rw [is]
  cases delivery : task.delivery with
  | none => exact .inr (.inr rfl)
  | some m =>
    dsimp only
    split
    · next final => exact .inl ⟨m, rfl, final, rfl⟩
    · exact .inr (.inl ⟨m, rfl⟩)

theorem finish_workers (c : Channel τ) (id : Nat) (task : Task) (result : Except Fault Unit) :
    (c.finish id task result).workers = (c.occupy id .asking).workers := by
  unfold finish conclude
  dsimp only
  split
  · split
    · exact (acknowledge_cases _ _).1.workers
    · exact (giveBack_cases _ _).1.workers
  · rfl

/-- What is sent to a broker waits there in the end of the queue. -/
theorem send_cases {b after : Broker} {payload : List UInt8} {called : Option Nat}
    (sends : b.send? payload = some (called, after)) :
    b.queue.send? payload = some after.queue ∧ after.visibility = b.visibility := by
  obtain ⟨queue, accepted, rung⟩ := Option.map_eq_some_iff.mp sends
  obtain ⟨same, visible⟩ := ring_queue { b with queue }
  rw [rung] at same visible
  exact ⟨accepted.trans (congrArg some same.symm), visible⟩

theorem sendRaw?_cases {payload : List UInt8} (sends : c.sendRaw? payload = some next) :
    Steady c next ∧ c.queue.send? payload = some next.queue := by
  unfold sendRaw? at sends
  split at sends
  · next b maxRedeliveries outages is =>
    obtain ⟨⟨called, after⟩, accepted, rfl⟩ := Option.map_eq_some_iff.mp sends
    obtain ⟨sent, visible⟩ := send_cases accepted
    rw [queue_of_broker is]
    exact ⟨.of_broker is rfl visible rfl, sent⟩
  · cases sends

/-- Who was let in sends the payload of his job to the broker and is told that it is accepted, or is
told a fault and leaves the messages alone. -/
theorem handOver_cases (brokered : c.Brokered visibility maxRedeliveries) (ticket : Nat)
    (job : Job) :
    Steady c (c.handOver ticket job) ∧
      (((c.handOver ticket job).queue = c.queue ∧
        ∃ fault, (c.handOver ticket job).answers = c.answers ++ [(ticket, .error fault)]) ∨
      (c.queue.send? job.payload = some (c.handOver ticket job).queue ∧
        (c.handOver ticket job).answers = c.answers ++ [(ticket, .ok ())])) := by
  obtain ⟨b, outages, is, _⟩ := brokered
  rw [queue_of_broker is]
  unfold handOver
  rw [is]
  dsimp only
  rcases outages.onSend with ⟨_ | fault, after⟩
  · dsimp only
    split
    · next called later sends =>
      obtain ⟨sent, visible⟩ := send_cases sends
      exact ⟨.of_broker is rfl visible rfl, .inr ⟨sent, rfl⟩⟩
    · exact ⟨.of_broker is rfl rfl rfl, .inl ⟨rfl, _, rfl⟩⟩
  · exact ⟨.of_broker is rfl rfl rfl, .inl ⟨rfl, fault, rfl⟩⟩

/-- A job that is published is handed over, or the publisher is not let in. -/
theorem publish_eq (c : Channel τ) (ticket : Nat) (job : Job) :
    c.publish ticket job = c.handOver ticket job ∨
      c.admits = false ∧ c.publish ticket job = c.answer ticket (.error .channelClosed) := by
  unfold publish
  cases c.admits with
  | true => exact .inl rfl
  | false => exact .inr ⟨rfl, rfl⟩

theorem closeBroker_cases (brokered : c.Brokered visibility maxRedeliveries) :
    Steady c c.closeBroker ∧ c.closeBroker.queue = c.queue.close := by
  obtain ⟨b, outages, is, _⟩ := brokered
  rw [queue_of_broker is]
  unfold closeBroker
  rw [is]
  exact ⟨.of_broker is rfl rfl rfl, rfl⟩

/-! ## Looking for a task -/

/-- What comes of a look at the broker, given what the queue has and what becomes of it. -/
inductive Seen (received : Reception × MessageQueue) : Fetch → MessageQueue → Prop where
  /-- Nothing was received. -/
  | nothing {fetch : Fetch} (none : fetch.task? = none)
      (message : ∀ m, received.1 ≠ .message m) : Seen received fetch received.2
  | task {m : Message} {job : Job} (message : received.1 = .message m)
      (reads : Job.ofPayload? m.payload = some job) : Seen received (.task ⟨job, some m⟩) received.2
  /-- A message describes no job; its acknowledgement may fail. -/
  | unreadable {m : Message} {queue : MessageQueue} (message : received.1 = .message m)
      (unread : Job.ofPayload? m.payload = none)
      (dropped : queue = received.2 ∨ queue = received.2.acknowledge m.receipt) :
      Seen received .again queue

theorem lookAfter_parts (b : Broker) (order : List Lease) (now id : Nat) :
    (b.lookAfter order now id).1 = (b.queue.receiveAfter order now b.visibility).1 ∧
      (b.lookAfter order now id).2.queue = (b.queue.receiveAfter order now b.visibility).2 ∧
      (b.lookAfter order now id).2.visibility = b.visibility := by
  unfold Broker.lookAfter
  rcases b.queue.receiveAfter order now b.visibility with ⟨reception, queue⟩
  cases reception <;> exact ⟨rfl, rfl, rfl⟩

/-- A look at a broker that is the channel's own, save for who waits there. -/
theorem lookAtBrokerAfter_cases {own : Broker} {before : Outages} (b : Broker) (outages : Outages)
    (order : List Lease) (now id : Nat) (is : c.supply = .broker own maxRedeliveries before)
    (queue : b.queue = own.queue) (visibility : b.visibility = own.visibility) :
    Steady c (c.lookAtBrokerAfter order now id b maxRedeliveries outages).2 ∧
      Seen (c.queue.receiveAfter order now own.visibility)
        (c.lookAtBrokerAfter order now id b maxRedeliveries outages).1
        (c.lookAtBrokerAfter order now id b maxRedeliveries outages).2.queue := by
  obtain ⟨received, left, hides⟩ := lookAfter_parts b order now id
  rw [queue, visibility] at received left
  rw [queue_of_broker is]
  unfold lookAtBrokerAfter
  generalize own.queue.receiveAfter order now own.visibility = expected at received left ⊢
  generalize b.lookAfter order now id = looked at received left hides ⊢
  obtain ⟨reception, after⟩ := looked
  obtain ⟨_, _⟩ := expected
  cases received
  cases left
  have steady : Steady c { c with supply := .broker after maxRedeliveries outages } :=
    .of_broker is rfl (hides.trans visibility) rfl
  cases reception with
  | closed => exact ⟨steady, .nothing rfl (fun _ => nofun)⟩
  | empty expiry => exact ⟨steady, .nothing rfl (fun _ => nofun)⟩
  | message m =>
    dsimp only
    cases reads : Job.ofPayload? m.payload with
    | some job => exact ⟨steady, .task rfl reads⟩
    | none =>
      obtain ⟨drops, dropped⟩ := acknowledge_cases
        { c with supply := Supply.broker after maxRedeliveries outages } m.receipt
      exact ⟨steady.trans drops, .unreadable rfl reads dropped⟩

/-- A worker who asks is turned away, or the broker is out of order, or he looks at the broker. -/
theorem fetchAfter_cases (brokered : c.Brokered visibility maxRedeliveries) (order : List Lease)
    (now : Nat) (w : Worker τ) :
    Steady c (c.fetchAfter order now w).2 ∧
      (((c.fetchAfter order now w).1.task? = none ∧ (c.fetchAfter order now w).2.queue = c.queue) ∨
        Seen (c.queue.receiveAfter order now visibility) (c.fetchAfter order now w).1
          (c.fetchAfter order now w).2.queue) := by
  obtain ⟨b, outages, is, rfl⟩ := brokered
  unfold fetchAfter
  split
  · exact ⟨.refl, .inl ⟨rfl, rfl⟩⟩
  · rw [is]
    dsimp only
    split
    · obtain ⟨steady, seen⟩ := lookAtBrokerAfter_cases (b.leave w.id) outages order now w.id
        is rfl rfl
      exact ⟨steady, .inr seen⟩
    · rcases outages.onReceive with ⟨_ | fault, after⟩
      · obtain ⟨steady, seen⟩ := lookAtBrokerAfter_cases b after order now w.id is rfl rfl
        exact ⟨steady, .inr seen⟩
      · exact ⟨.of_broker is rfl rfl rfl, .inl ⟨rfl, (queue_of_broker is).symm⟩⟩

private theorem enter_workers (c : Channel τ) (p : Publisher) :
    (c.enter p).workers = c.workers := by
  unfold enter
  split <;> rfl

private theorem letIn_workers (c : Channel τ) : c.letIn.workers = c.workers := by
  unfold letIn
  cases c.promised.head? with
  | none => rfl
  | some p => exact enter_workers c p

/-- Whoever asks, the workers stay where they are for the moment. -/
theorem fetchAfter_workers (c : Channel τ) (order : List Lease) (now : Nat) (w : Worker τ) :
    (c.fetchAfter order now w).2.workers = c.workers := by
  have looks : ∀ b maxRedeliveries outages,
      (c.lookAtBrokerAfter order now w.id b maxRedeliveries outages).2.workers = c.workers := by
    intro b maxRedeliveries outages
    unfold lookAtBrokerAfter
    rcases b.lookAfter order now w.id with ⟨reception, after⟩
    cases reception with
    | message m =>
      dsimp only
      split
      · rfl
      · exact (acknowledge_cases _ m.receipt).1.workers
    | closed => rfl
    | empty expiry => rfl
  unfold fetchAfter
  split
  · rfl
  · split
    · split
      · rfl
      · exact letIn_workers _
    · split <;> rfl
    · split
      · exact looks _ _ _
      · split
        · rfl
        · exact looks _ _ _

end Channel

end FeedIngest.Delivery
