import FeedIngest.Proofs.Delivery.Service

/-!
# What becomes of one message

A step of a channel in service leaves a message where it is, brings it to a worker, or drops it
because it describes no job. The tasks that a message brought are found again among all that were
begun, and so are those that have ended and those that are still in the hands of workers.
-/

set_option autoImplicit false

namespace FeedIngest.Delivery

variable {τ : Type}

/-! ## What a reception does to one message -/

def Message.again (m : Message) : Message := { m with attempt := m.attempt + 1 }

namespace MessageQueue

variable {q : MessageQueue} {order : List Lease} {now visibility : Nat}

/-- Nothing is received, and no message that was ready moves; or else the first message is leased of
those that are ready after the leases that are over have ended. -/
theorem receiveAfter_cases (q : MessageQueue) (order : List Lease) (now visibility : Nat) :
    ((∀ m, (q.receiveAfter order now visibility).1 ≠ .message m) ∧
      q.ready ⊆ (q.receiveAfter order now visibility).2.ready ∧
      ∀ lease ∈ q.leases, now < lease.expires →
        lease ∈ (q.receiveAfter order now visibility).2.leases) ∨
    ∃ first rest, q.ready ++ order.map (·.message) = first :: rest ∧
      q.receiveAfter order now visibility = (.message first.again,
        { q.requeue order now with ready := rest }.grant
          ⟨first.again.receipt, first.again, now + visibility⟩) := by
  have stands : ∀ lease ∈ q.leases, now < lease.expires →
      lease ∈ (q.requeue order now).leases := by
    intro lease leased inTime
    refine List.mem_filter.mpr ⟨leased, ?_⟩
    simpa using inTime
  have waiting : (q.requeue order now).ready = q.ready ++ order.map (·.message) := rfl
  unfold receiveAfter
  split
  · exact .inl ⟨fun _ => nofun, fun _ member => member, fun _ leased _ => leased⟩
  · unfold deliver
    split
    · refine .inl ⟨fun _ => nofun, ?_, stands⟩
      rw [waiting]
      exact List.subset_append_left _ _
    · next first rest ready => exact .inr ⟨first, rest, waiting.symm.trans ready, rfl⟩

/-- A message that is ready stays so unless it is the one that is received. -/
theorem mem_ready_of_receiveAfter {m : Message} (ready : m ∈ q.ready) :
    m ∈ (q.receiveAfter order now visibility).2.ready ∨
      (q.receiveAfter order now visibility).1 = .message m.again := by
  rcases q.receiveAfter_cases order now visibility with ⟨_, stays, _⟩ | ⟨first, rest, split,
      received⟩
  · exact .inl (stays ready)
  · rw [received]
    have among : m ∈ first :: rest := split ▸ List.mem_append_left _ ready
    rcases List.mem_cons.mp among with rfl | later
    · exact .inr rfl
    · exact .inl later

/-- The message that is received was ready or under a lease that is over, and is leased. -/
theorem exists_of_receiveAfter {m : Message}
    (received : (q.receiveAfter order now visibility).1 = .message m) :
    (∃ first ∈ q.ready ++ order.map (·.message), m = first.again) ∧
      ∃ lease ∈ (q.receiveAfter order now visibility).2.leases,
        lease.message = m ∧ lease.receipt = m.receipt := by
  rcases q.receiveAfter_cases order now visibility with ⟨nothing, _⟩ | ⟨first, rest, split, is⟩
  · exact absurd received (nothing m)
  · rw [is] at received ⊢
    cases received
    refine ⟨⟨first, split ▸ List.mem_cons_self, rfl⟩, ?_⟩
    exact ⟨_, List.mem_append_right _ List.mem_cons_self, rfl, rfl⟩

/-- A lease that is not over stands unless a message is leased under its receipt. -/
theorem mem_leases_of_receiveAfter {lease : Lease} (leased : lease ∈ q.leases)
    (inTime : now < lease.expires) :
    lease ∈ (q.receiveAfter order now visibility).2.leases ∨
      ∃ m, (q.receiveAfter order now visibility).1 = .message m ∧ lease.receipt = m.receipt := by
  rcases q.receiveAfter_cases order now visibility with ⟨_, _, stays⟩ | ⟨first, rest, split, is⟩
  · exact .inl (stays lease leased inTime)
  · rw [is]
    by_cases same : lease.receipt = first.again.receipt
    · exact .inr ⟨_, rfl, same⟩
    · refine .inl (List.mem_append_left _ (List.mem_filter.mpr ⟨?_, by simpa using same⟩))
      exact List.mem_filter.mpr ⟨leased, by simpa using inTime⟩

end MessageQueue

/-! ## Looking for a task -/

namespace Channel

section Looking

variable {visibility maxRedeliveries : Nat} {c : Channel τ} {order : List Lease} {now : Nat}
  {w : Worker τ}

/-- Who sees a message does not change what is ready besides. -/
theorem Seen.ready {received : Reception × MessageQueue} {fetch : Fetch} {queue : MessageQueue}
    (seen : Seen received fetch queue) : queue.ready = received.2.ready := by
  cases seen with
  | nothing => rfl
  | task => rfl
  | unreadable _ _ dropped => rcases dropped with rfl | rfl <;> rfl

/-- A task that is found is the message that was received. -/
theorem exists_of_fetchAfter (brokered : c.Brokered visibility maxRedeliveries) {task : Task}
    (found : (c.fetchAfter order now w).1 = .task task) : ∃ m job, task = ⟨job, some m⟩ ∧
      Job.ofPayload? m.payload = some job ∧
      (c.queue.receiveAfter order now visibility).1 = .message m ∧
      (c.fetchAfter order now w).2.queue = (c.queue.receiveAfter order now visibility).2 := by
  obtain ⟨_, ⟨nothing, _⟩ | seen⟩ := fetchAfter_cases brokered order now w
  · rw [found] at nothing
    cases nothing
  · generalize (c.fetchAfter order now w).2.queue = queue at seen ⊢
    rw [found] at seen
    cases seen with
    | nothing none _ => cases none
    | @task m job message reads => exact ⟨m, job, rfl, reads, message, rfl⟩

/-- A message that is ready stays so, or is found by the worker as a task, or is dropped because it
describes no job. -/
theorem InService.fetchAfter_ready (service : c.InService visibility maxRedeliveries) {m : Message}
    (ready : m ∈ c.queue.ready) : m ∈ (c.fetchAfter order now w).2.queue.ready ∨
      (∃ job, Job.ofPayload? m.payload = some job ∧
        (c.fetchAfter order now w).1 = .task ⟨job, some m.again⟩) ∨
      Job.ofPayload? m.payload = none ∧ (c.fetchAfter order now w).1 = .again ∧
        (c.queue.receiveAfter order now visibility).1 = .message m.again ∧
        (c.fetchAfter order now w).2.queue =
          (c.queue.receiveAfter order now visibility).2.acknowledge m.again.receipt := by
  cases attends : w.dismissed with
  | true =>
    refine .inl ?_
    unfold Channel.fetchAfter
    rw [attends, if_pos rfl]
    exact ready
  | false =>
    obtain ⟨_, ⟨_, same⟩ | seen⟩ := fetchAfter_cases service.brokered order now w
    · exact .inl (same ▸ ready)
    · rcases @MessageQueue.mem_ready_of_receiveAfter c.queue order now visibility m ready with
        stays | received
      · exact .inl (seen.ready ▸ stays)
      · cases reads : Job.ofPayload? m.payload with
        | none =>
          obtain ⟨again, dropped⟩ := service.fetchAfter_drops attends received reads
          exact .inr (.inr ⟨rfl, again, received, dropped⟩)
        | some job =>
          refine .inr (.inl ⟨job, rfl, ?_⟩)
          generalize (c.fetchAfter order now w).1 = fetch at seen ⊢
          generalize (c.fetchAfter order now w).2.queue = queue at seen
          cases seen with
          | nothing _ message => exact absurd received (message _)
          | task message readsToo =>
            cases received.symm.trans message
            cases reads.symm.trans readsToo
            rfl
          | unreadable message unread =>
            cases received.symm.trans message
            cases reads.symm.trans unread

end Looking

end Channel

def concerns (id : Nat) (task : Task) : Bool := task.delivery.any (·.id == id)

theorem concerns_iff {id : Nat} {job : Job} {m : Message} :
    concerns id ⟨job, some m⟩ = true ↔ m.id = id := by
  simp [concerns]

namespace LoggedChannel

/-- The tasks that were begun with the message of an id: the invocations of the handler for it. -/
def invocations (d : LoggedChannel τ) (id : Nat) : List Task := d.begun.filter (concerns id)

def outcomes (d : LoggedChannel τ) (id : Nat) : List (Task × Except Fault Unit) :=
  d.ended.filter fun e => concerns id e.1

def inHand (d : LoggedChannel τ) (id : Nat) : List Task := d.channel.tasks.filter (concerns id)

/-! ## Steps of a channel in service -/

section Service

variable {visibility maxRedeliveries : Nat} {book later : MessageLog} {d next : LoggedChannel τ}

theorem Step.service (step : Step d next)
    (service : d.channel.InService visibility maxRedeliveries) :
    next.channel.InService visibility maxRedeliveries ∧
      (next.begun = d.begun → next.ended = d.ended →
        next.channel.tasks.Sublist d.channel.tasks) := by
  have eased : ∀ {last : Channel τ},
      Channel.Eases visibility maxRedeliveries d.channel last →
      last.InService visibility maxRedeliveries ∧
        (next.begun = d.begun → next.ended = d.ended → last.tasks.Sublist d.channel.tasks) :=
    fun eases => ⟨eases.service, fun _ _ => eases.tasks⟩
  cases step with
  | handOver ticket fits => exact eased (service.handOver ticket _)
  | withdraw ticket => exact eased (service.withdraw ticket)
  | sendRaw sends => exact eased (service.sendRaw? sends)
  | closeBroker => exact eased service.closeBroker
  | enlist crew => exact eased (service.enlist crew)
  | register id =>
    exact eased (service.of_workers (fun b is => ⟨b, is, rfl⟩) (.refl _) rfl (.refl _))
  | @look w order now works free ended nothing =>
    have looks := service.fetchAfter order now w
    exact eased (looks.trans (looks.service.heed w.id nothing))
  | @begin w order now task works free ended found wakes stage =>
    have looks := service.fetchAfter order now w
    refine ⟨looks.service.occupy w.id (.busy task wakes stage), fun same _ => ?_⟩
    simp at same
  | @goOn w task works busy wakes stage =>
    refine ⟨service.occupy w.id (.busy task wakes stage), fun _ _ => ?_⟩
    obtain ⟨earlier, later, before, after⟩ :=
      service.exists_occupy works (.busy task wakes stage)
    rw [before, after, busy]
    exact .refl _
  | @finish w task works busy result =>
    have leaves :
        Channel.Eases visibility maxRedeliveries d.channel (d.channel.occupy w.id .asking) :=
      service.occupy_idle w.id rfl
    have concludes := leaves.trans (leaves.service.conclude task result).1
    exact eased (concludes.trans
      (concludes.service.of_workers (fun b is => ⟨b, is, rfl⟩) (.refl _) rfl (.refl _)))
  | close => exact eased service.close
  | turnAway => exact eased service.turnAway
  | tell => exact eased service.tell
  | claim =>
    exact eased (service.of_workers (fun b is => ⟨b, is, rfl⟩) (.refl _) rfl (.refl _))
  | abort ids => exact eased (service.abort ids)
  | arrange turns answers =>
    exact eased (service.of_workers (fun b is => ⟨b, is, rfl⟩) (.refl _) rfl (.refl _))

/-- A message that is leased now was ready or under a lease that is over. -/
theorem exists_received {w : Worker τ} {order : List Lease} {now : Nat} {task : Task}
    (service : d.channel.InService visibility maxRedeliveries)
    (found : (d.channel.fetchAfter order now w).1 = .task task) :
    ∃ m job, task = ⟨job, some m⟩ ∧
      (∃ first ∈ d.channel.queue.ready ++ order.map (·.message), m = first.again) ∧
      ∃ lease ∈ (d.channel.fetchAfter order now w).2.queue.leases, lease.message = m := by
  obtain ⟨m, job, rfl, _, received, queue⟩ :=
    Channel.exists_of_fetchAfter service.brokered found
  obtain ⟨was, lease, leased, is, _⟩ := MessageQueue.exists_of_receiveAfter received
  exact ⟨m, job, rfl, was, lease, queue ▸ leased, is⟩

private theorem ready_subset_of_send? {q after : MessageQueue} {payload : List UInt8}
    (sends : q.send? payload = some after) : q.ready ⊆ after.ready := by
  unfold MessageQueue.send? at sends
  split at sends
  · cases sends
  · cases sends
    exact List.subset_append_left _ _

private theorem ready_subset_of_conclude {c : Channel τ}
    (brokered : c.Brokered visibility maxRedeliveries) (task : Task) (result : Except Fault Unit) :
    c.queue.ready ⊆ (c.conclude task result).queue.ready := by
  rcases Channel.conclude_cases brokered task result with
    ⟨m, _, _, concluded⟩ | ⟨m, concluded⟩ | concluded
  · rw [concluded]
    obtain ⟨_, same | dropped⟩ := Channel.acknowledge_cases c m.receipt
    · rw [same]
      exact fun _ member => member
    · rw [dropped]
      exact fun _ member => member
  · rw [concluded]
    obtain ⟨_, same | returned⟩ := Channel.giveBack_cases c m.receipt
    · rw [same]
      exact fun _ member => member
    · obtain ⟨lease, _, after⟩ := Option.map_eq_some_iff.mp returned
      rw [← after]
      exact List.subset_append_left _ _
  · rw [concluded]
    exact fun _ member => member

/-- A message that is ready stays so, or a worker takes it up as a task, or it describes no job and
is dropped. -/
theorem Tracks.ready_step (tracks : Tracks visibility maxRedeliveries book d)
    (service : d.channel.InService visibility maxRedeliveries) (step : Step d next) {m : Message}
    (ready : m ∈ d.channel.queue.ready) : m ∈ next.channel.queue.ready ∨
      (∃ job, Job.ofPayload? m.payload = some job ∧
        next.begun = d.begun ++ [⟨job, some m.again⟩]) ∨
      Job.ofPayload? m.payload = none ∧ ¬next.Holds m.id := by
  have stays : ∀ {last : Channel τ}, d.channel.queue.ready ⊆ last.queue.ready →
      m ∈ last.queue.ready := fun subset => subset ready
  have quiet : ∀ {last : Channel τ}, Channel.Quiet d.channel last → m ∈ last.queue.ready :=
    fun quiet => quiet.queue ▸ ready
  have conserved := MessageLog.start_conserved.run tracks.run
  cases step with
  | handOver ticket fits =>
    obtain ⟨_, ⟨same, _⟩ | ⟨sends, _⟩⟩ := Channel.handOver_cases service.brokered ticket _
    · exact .inl (same ▸ ready)
    · exact .inl (stays (ready_subset_of_send? sends))
  | withdraw ticket => exact .inl (quiet (Channel.quiet_withdraw d.channel ticket))
  | sendRaw sends => exact .inl (stays (ready_subset_of_send? (Channel.sendRaw?_cases sends).2))
  | closeBroker =>
    refine .inl ?_
    rw [(Channel.closeBroker_cases service.brokered).2]
    exact ready
  | enlist crew => exact .inl (quiet (Channel.quiet_enlist d.channel crew))
  | register id => exact .inl ready
  | @look w order now works free ended nothing =>
    have heeds := Channel.quiet_heed (d.channel.fetchAfter order now w).2 w.id nothing
    rcases service.fetchAfter_ready ready with same | ⟨job, reads, found⟩ | ⟨unread, _, received,
        dropped⟩
    · exact .inl (heeds.queue ▸ same)
    · rw [found] at nothing
      cases nothing
    · refine .inr (.inr ⟨unread, ?_⟩)
      rintro ⟨other, member, same⟩
      rw [heeds.queue, dropped] at member
      -- The book right after the reception, when the message was leased.
      rw [← tracks.queue] at received ended member
      obtain ⟨_, lease, leased, is, named⟩ := MessageQueue.exists_of_receiveAfter received
      have after := conserved.receive ended visibility
      rw [← named] at member
      have differs := after.ne_of_acknowledged leased member
      rw [is] at differs
      exact differs same
  | @begin w order now task works free ended found wakes stage =>
    rcases service.fetchAfter_ready ready with same | ⟨job, reads, foundToo⟩ | ⟨_, again, _⟩
    · exact .inl same
    · cases found.symm.trans foundToo
      exact .inr (.inl ⟨job, reads, rfl⟩)
    · rw [found] at again
      cases again
  | goOn works busy wakes stage => exact .inl ready
  | @finish w task works busy result =>
    have leaves :
        Channel.Eases visibility maxRedeliveries d.channel (d.channel.occupy w.id .asking) :=
      service.occupy_idle w.id rfl
    exact .inl (ready_subset_of_conclude leaves.service.brokered task result ready)
  | close => exact .inl (quiet (Channel.quiet_close d.channel))
  | turnAway => exact .inl (quiet (Channel.quiet_turnAway d.channel))
  | tell => exact .inl ready
  | claim => exact .inl ready
  | abort ids => exact .inl (quiet (Channel.quiet_abort d.channel ids))
  | arrange turns answers => exact .inl ready

/-- A message that was sent and is gone does not come back. -/
theorem Tracks.not_holds_advance (tracks : Tracks visibility maxRedeliveries book d)
    (advances : Advances visibility maxRedeliveries book later d next) {id : Nat}
    (sent : id ∈ List.range' 1 book.sent.length) (gone : ¬d.Holds id) : ¬next.Holds id := by
  obtain ⟨entry, settled, rfl⟩ := tracks.exists_settled_of_sent sent gone
  intro held
  exact (tracks.advance advances).not_settled_of_holds held (advances.run.settled.subset settled)

end Service

end LoggedChannel

end FeedIngest.Delivery
