import FeedIngest.Proofs.Delivery.Reception

/-!
# The deliveries of one job

A handler that fails gets its job again, until it goes well, meets a fault that no later attempt can
mend, or has used up the deliveries. As long as each delivery is concluded before its lease is over,
the message of the job is in one pair of hands at a time. So the handler is invoked for it just as
often as that takes, each time on the next attempt, whatever else goes through the same queue. A
message that describes no job is dropped when it is delivered first.
-/

set_option autoImplicit false

namespace FeedIngest.Delivery

variable {τ : Type}

/-! ## How many deliveries a job takes -/

/-- A handler went well, or met a fault that no later attempt can mend. -/
def settles : Except Fault Unit → Bool
  | .ok () => true
  | .error fault => fault.isTerminal

/-- The first delivery with such an outcome, or the last one that there may be. -/
def budget (maxRedeliveries : Nat) (outcome : Nat → Except Fault Unit) : Nat :=
  ((List.range' 1 maxRedeliveries).find? fun i => settles (outcome i)).getD (maxRedeliveries + 1)

section Budget

variable {maxRedeliveries : Nat} {outcome : Nat → Except Fault Unit}

private theorem isFinal_eq (attempt : Nat) (result : Except Fault Unit) :
    Channel.isFinal maxRedeliveries attempt result =
      (settles result || decide (maxRedeliveries < attempt)) := by
  cases result with
  | ok done => rfl
  | error fault => rfl

theorem budget_spec : 0 < budget maxRedeliveries outcome ∧
    (∀ i, 0 < i → i < budget maxRedeliveries outcome →
      Channel.isFinal maxRedeliveries i (outcome i) = false) ∧
    Channel.isFinal maxRedeliveries (budget maxRedeliveries outcome)
      (outcome (budget maxRedeliveries outcome)) = true := by
  simp only [isFinal_eq, Bool.or_eq_false_iff, Bool.or_eq_true, decide_eq_false_iff_not,
    decide_eq_true_eq]
  unfold budget
  cases found : (List.range' 1 maxRedeliveries).find? fun i => settles (outcome i) with
  | none =>
    have unsettled := List.find?_range'_eq_none.mp found
    refine ⟨Nat.succ_pos _, ?_, .inr (Nat.lt_succ_self _)⟩
    intro i positive below
    simp only [Option.getD_none] at below
    exact ⟨by simpa using unsettled i (by omega) (by omega), by omega⟩
  | some first =>
    obtain ⟨settled, within, earlier⟩ := List.find?_range'_eq_some.mp found
    rw [List.mem_range'_1] at within
    simp only [Option.getD_some]
    refine ⟨by omega, ?_, .inl settled⟩
    intro i positive below
    exact ⟨by simpa using earlier i (by omega) below, by omega⟩

end Budget

namespace LoggedChannel

/-! ## Deliveries in time -/

/-- A step in which each delivery of one message is concluded before its lease is over, and
the handler comes to the given outcomes for it, one after the other. Nothing is said of all other
messages. -/
inductive Prompt (id : Nat) (outcome : Nat → Except Fault Unit) :
    LoggedChannel τ → LoggedChannel τ → Prop where
  /-- Something that neither begins nor ends a task or a lease. -/
  | aside {d next : LoggedChannel τ} (step : Step d next)
      (leases : next.channel.queue.leases = d.channel.queue.leases)
      (begun : next.begun = d.begun) (ended : next.ended = d.ended) : Prompt id outcome d next
  | look {d : LoggedChannel τ} {w : Worker τ} {order : List Lease} {now : Nat}
      (works : w ∈ d.channel.workers) (free : w.occupation.task? = none)
      (ended : order.Perm (d.channel.queue.expired now))
      (nothing : (d.channel.fetchAfter order now w).1.task? = none)
      (inTime : ∀ lease ∈ d.channel.queue.leases, lease.message.id = id → now < lease.expires) :
      Prompt id outcome d { d with
        channel := (d.channel.fetchAfter order now w).2.heed w.id (d.channel.fetchAfter order now w).1 }
  | begin {d : LoggedChannel τ} {w : Worker τ} {order : List Lease} {now : Nat} {task : Task}
      (works : w ∈ d.channel.workers) (free : w.occupation.task? = none)
      (ended : order.Perm (d.channel.queue.expired now))
      (found : (d.channel.fetchAfter order now w).1 = .task task)
      (inTime : ∀ lease ∈ d.channel.queue.leases, lease.message.id = id → now < lease.expires)
      (wakes : Option Nat) (stage : τ) :
      Prompt id outcome d { d with
        channel := (d.channel.fetchAfter order now w).2.occupy w.id (.busy task wakes stage)
        begun := d.begun ++ [task] }
  | finish {d : LoggedChannel τ} {w : Worker τ} {task : Task} {result : Except Fault Unit}
      (works : w ∈ d.channel.workers) (busy : w.occupation.task? = some task)
      (told : concerns id task = true → result = outcome ((d.outcomes id).length + 1)) :
      Prompt id outcome d { d with
        channel := d.channel.finish w.id task result
        ended := d.ended ++ [(task, result)] }

def PromptRun (id : Nat) (outcome : Nat → Except Fault Unit) :
    LoggedChannel τ → LoggedChannel τ → Prop :=
  Relation.ReflTransGen (Prompt id outcome)

theorem Prompt.step {id : Nat} {outcome : Nat → Except Fault Unit} {d next : LoggedChannel τ}
    (prompt : Prompt id outcome d next) : Step d next := by
  cases prompt with
  | aside step => exact step
  | look works free ended nothing => exact .look works free ended nothing
  | begin works free ended found _ wakes stage => exact .begin works free ended found wakes stage
  | finish works busy => exact .finish works busy _

section Leased

variable {visibility maxRedeliveries : Nat} {book : MessageLog} {d : LoggedChannel τ} {order : List Lease}
  {now : Nat} {lease : Lease}

/-- While the message is leased in time, what is received is another one. -/
theorem Tracks.ne_of_leased (tracks : Tracks visibility maxRedeliveries book d)
    (leased : lease ∈ d.channel.queue.leases) (ended : order.Perm (d.channel.queue.expired now))
    (inTime : ∀ other ∈ d.channel.queue.leases, other.message.id = lease.message.id →
      now < other.expires) {first : Message}
    (member : first ∈ d.channel.queue.ready ++ order.map (·.message)) :
    first.id ≠ lease.message.id := by
  rcases List.mem_append.mp member with ready | lapsed
  · rw [← tracks.queue] at ready leased
    exact (MessageLog.start_conserved.run tracks.run).ne_of_ready_of_leased ready leased
  · obtain ⟨other, inside, rfl⟩ := List.mem_map.mp lapsed
    obtain ⟨leasedToo, expired⟩ := List.mem_filter.mp (ended.mem_iff.mp inside)
    have expired : other.expires ≤ now := by simpa using expired
    intro same
    exact absurd (inTime other leasedToo same) (Nat.not_lt.mpr expired)

/-- So the lease stands, whoever looks. -/
theorem Tracks.leased_look (tracks : Tracks visibility maxRedeliveries book d)
    (leased : lease ∈ d.channel.queue.leases) (ended : order.Perm (d.channel.queue.expired now))
    (inTime : ∀ other ∈ d.channel.queue.leases, other.message.id = lease.message.id →
      now < other.expires) (w : Worker τ) :
    lease ∈ (d.channel.fetchAfter order now w).2.queue.leases := by
  have receipt : lease.receipt = lease.message.receipt := by
    have conserved := MessageLog.start_conserved.run tracks.run
    exact conserved.receipt lease (tracks.queue ▸ leased)
  have differs : ∀ m, (d.channel.queue.receiveAfter order now visibility).1 = .message m →
      lease.receipt ≠ m.receipt := by
    intro m received same
    obtain ⟨⟨first, member, rfl⟩, _⟩ := MessageQueue.exists_of_receiveAfter received
    rw [receipt] at same
    exact tracks.ne_of_leased leased ended inTime member (receiptText_id same).symm
  have stays : lease ∈ (d.channel.queue.receiveAfter order now visibility).2.leases := by
    rcases MessageQueue.mem_leases_of_receiveAfter leased (inTime lease leased rfl) with
      stays | ⟨m, received, same⟩
    · exact stays
    · exact absurd same (differs m received)
  obtain ⟨_, ⟨_, same⟩ | seen⟩ := Channel.fetchAfter_cases tracks.brokered order now w
  · exact same ▸ leased
  · generalize (d.channel.fetchAfter order now w).1 = fetch at seen
    generalize (d.channel.fetchAfter order now w).2.queue = queue at seen ⊢
    cases seen with
    | nothing => exact stays
    | task => exact stays
    | @unreadable m _ received _ dropped =>
      rcases dropped with rfl | rfl
      · exact stays
      · exact List.mem_filter.mpr ⟨stays, by simpa using differs m received⟩

/-- Nor does it end with a task that another message brought. -/
theorem Tracks.leased_finish (tracks : Tracks visibility maxRedeliveries book d)
    (service : d.channel.InService visibility maxRedeliveries)
    (leased : lease ∈ d.channel.queue.leases) {task : Task}
    (other : concerns lease.message.id task = false) (id : Nat) (result : Except Fault Unit) :
    lease ∈ (d.channel.finish id task result).queue.leases := by
  have leaves : Channel.Eases visibility maxRedeliveries d.channel (d.channel.occupy id .asking) :=
    service.occupy_idle id rfl
  show lease ∈ ((d.channel.occupy id .asking).conclude task result).queue.leases
  rcases task with ⟨job, _ | m⟩
  · unfold Channel.conclude
    obtain ⟨b, is, _⟩ := leaves.service.supply
    rw [is]
    exact leased
  · rw [(leaves.service.conclude ⟨job, some m⟩ result).2 m rfl]
    have differs : lease.receipt ≠ m.receipt := by
      have conserved := MessageLog.start_conserved.run tracks.run
      rw [conserved.receipt lease (tracks.queue ▸ leased)]
      intro same
      rw [concerns_iff.mpr (receiptText_id same).symm] at other
      cases other
    have stays : lease ∈ (d.channel.queue.release m.receipt).leases :=
      List.mem_filter.mpr ⟨leased, by simpa using differs⟩
    split
    · exact stays
    · show lease ∈ ((d.channel.queue.giveBack? m.receipt).getD d.channel.queue).leases
      unfold MessageQueue.giveBack?
      cases d.channel.queue.lease? m.receipt with
      | none => exact leased
      | some lease => exact stays

end Leased

/-! ## The pace of one job -/

def invocation (id : Nat) (payload : List UInt8) (job : Job) (attempt : Nat) : Task :=
  ⟨job, some ⟨id, payload, attempt⟩⟩

/-- Where the message of a job is when so many invocations have begun and so many have ended. -/
inductive Stands (id : Nat) (payload : List UInt8) (job : Job) (last : Nat) (d : LoggedChannel τ) :
    Nat → Nat → Prop where
  | ready {n : Nat} (ready : ⟨id, payload, n⟩ ∈ d.channel.queue.ready) (left : n < last)
      (hands : d.inHand id = []) : Stands id payload job last d n n
  | leased {n : Nat} {lease : Lease} (leased : lease ∈ d.channel.queue.leases)
      (message : lease.message = ⟨id, payload, n + 1⟩) (left : n < last)
      (hands : (d.inHand id).Sublist [invocation id payload job (n + 1)]) :
      Stands id payload job last d (n + 1) n
  | gone (gone : ¬d.Holds id) (hands : d.inHand id = []) : Stands id payload job last d last last

/-- The invocations for a job were made one after the other, on one attempt each. -/
structure Paced (id : Nat) (payload : List UInt8) (job : Job) (outcome : Nat → Except Fault Unit)
    (last begun ended : Nat) (d : LoggedChannel τ) : Prop where
  invocations : d.invocations id = (List.range' 1 begun).map (invocation id payload job)
  outcomes : d.outcomes id =
    (List.range' 1 ended).map fun i => (invocation id payload job i, outcome i)
  stands : Stands id payload job last d begun ended

structure Watched (visibility maxRedeliveries : Nat) (book : MessageLog) (id : Nat)
    (payload : List UInt8) (d : LoggedChannel τ) : Prop where
  tracks : Tracks visibility maxRedeliveries book d
  service : d.channel.InService visibility maxRedeliveries
  positive : 0 < id
  sent : book.sent[id - 1]? = some payload

section Paced

variable {visibility maxRedeliveries : Nat} {book later : MessageLog} {id : Nat}
  {payload : List UInt8} {job : Job} {outcome : Nat → Except Fault Unit} {last begun ended : Nat}
  {d next : LoggedChannel τ}

theorem Watched.given (watched : Watched visibility maxRedeliveries book id payload d) :
    id ∈ List.range' 1 book.sent.length := by
  have inside : id - 1 < book.sent.length := (List.getElem?_eq_some_iff.mp watched.sent).1
  have positive := watched.positive
  rw [List.mem_range'_1]
  omega

theorem Watched.step (watched : Watched visibility maxRedeliveries book id payload d)
    (step : Step d next) : ∃ later, Advances visibility maxRedeliveries book later d next ∧
      Watched visibility maxRedeliveries later id payload next := by
  obtain ⟨later, advances⟩ := watched.tracks.step step
  refine ⟨later, advances, watched.tracks.advance advances, (step.service watched.service).1,
    watched.positive, ?_⟩
  obtain ⟨more, grown⟩ := advances.run.grows.1
  have inside : id - 1 < book.sent.length := (List.getElem?_eq_some_iff.mp watched.sent).1
  rw [← grown, List.getElem?_append_left inside, watched.sent]

/-- Nothing has happened to the job. -/
theorem Paced.stays (paced : Paced id payload job outcome last begun ended d)
    (invocations : next.invocations id = d.invocations id)
    (outcomes : next.outcomes id = d.outcomes id)
    (hands : (next.inHand id).Sublist (d.inHand id))
    (ready : ∀ n, ⟨id, payload, n⟩ ∈ d.channel.queue.ready →
      ⟨id, payload, n⟩ ∈ next.channel.queue.ready)
    (leased : ∀ lease ∈ d.channel.queue.leases, lease.message.id = id →
      lease ∈ next.channel.queue.leases)
    (gone : ¬d.Holds id → ¬next.Holds id) :
    Paced id payload job outcome last begun ended next where
  invocations := invocations.trans paced.invocations
  outcomes := outcomes.trans paced.outcomes
  stands := by
    cases paced.stands with
    | ready was left none => exact .ready (ready _ was) left (List.sublist_nil.mp (none ▸ hands))
    | leased was message left some =>
      exact .leased (leased _ was (by rw [message])) message left (hands.trans some)
    | gone was none => exact .gone (gone was) (List.sublist_nil.mp (none ▸ hands))

/-- A message that is ready and can be read stays ready unless its task is begun. -/
theorem Watched.ready_step (watched : Watched visibility maxRedeliveries book id payload d)
    (reads : Job.ofPayload? payload = some job) (step : Step d next) {n : Nat}
    (ready : ⟨id, payload, n⟩ ∈ d.channel.queue.ready) :
    ⟨id, payload, n⟩ ∈ next.channel.queue.ready ∨
      next.begun = d.begun ++ [invocation id payload job (n + 1)] := by
  rcases watched.tracks.ready_step watched.service step ready with
    stays | ⟨other, readsToo, begun⟩ | ⟨unread, _⟩
  · exact .inl stays
  · cases reads.symm.trans readsToo
    exact .inr begun
  · cases reads.symm.trans unread

theorem inHand_begin {w : Worker τ} (order : List Lease) (now : Nat) (task : Task)
    (service : d.channel.InService visibility maxRedeliveries) (works : w ∈ d.channel.workers)
    (free : w.occupation.task? = none) (wakes : Option Nat) (stage : τ) (id : Nat) :
    ∃ earlier later, d.inHand id = earlier ++ later ∧
      inHand { d with
        channel := (d.channel.fetchAfter order now w).2.occupy w.id (.busy task wakes stage)
        begun := d.begun ++ [task] } id = earlier ++ [task].filter (concerns id) ++ later := by
  have same := Channel.fetchAfter_workers d.channel order now w
  have worksStill : w ∈ (d.channel.fetchAfter order now w).2.workers := same ▸ works
  obtain ⟨earlier, later, before, after⟩ :=
    (service.fetchAfter order now w).service.exists_occupy worksStill (.busy task wakes stage)
  refine ⟨earlier.filter (concerns id), later.filter (concerns id), ?_, ?_⟩
  · have tasks : d.channel.tasks = (d.channel.fetchAfter order now w).2.tasks := by
      rw [Channel.tasks, Channel.tasks, same]
    rw [inHand, tasks, before, free]
    simp
  · rw [inHand, after, List.filter_append, List.filter_append]
    rfl

private theorem inHand_finish {w : Worker τ} {task : Task} (result : Except Fault Unit)
    (service : d.channel.InService visibility maxRedeliveries) (works : w ∈ d.channel.workers)
    (busy : w.occupation.task? = some task) (id : Nat) :
    ∃ earlier later, d.inHand id = earlier ++ [task].filter (concerns id) ++ later ∧
      inHand { d with
        channel := d.channel.finish w.id task result
        ended := d.ended ++ [(task, result)] } id = earlier ++ later := by
  obtain ⟨earlier, later, before, after⟩ := service.exists_occupy works .asking
  refine ⟨earlier.filter (concerns id), later.filter (concerns id), ?_, ?_⟩
  · rw [inHand, before, busy, List.filter_append, List.filter_append]
    rfl
  · have tasks :
        (d.channel.finish w.id task result).tasks = (d.channel.occupy w.id .asking).tasks := by
      rw [Channel.tasks, Channel.tasks, Channel.finish_workers]
    rw [inHand, tasks, after]
    simp [Occupation.task?]

/-- A look that finds no task leaves the job alone, and so does whatever leaves the leases alone. -/
theorem Paced.aside (paced : Paced id payload job outcome last begun ended d)
    (watched : Watched visibility maxRedeliveries book id payload d)
    (reads : Job.ofPayload? payload = some job) (step : Step d next)
    (sameBegun : next.begun = d.begun) (sameEnded : next.ended = d.ended)
    (leased : ∀ lease ∈ d.channel.queue.leases, lease.message.id = id →
      lease ∈ next.channel.queue.leases) :
    Paced id payload job outcome last begun ended next := by
  obtain ⟨later, advances, _⟩ := watched.step step
  refine paced.stays ?_ ?_ ?_ ?_ leased ?_
  · rw [LoggedChannel.invocations, sameBegun, LoggedChannel.invocations]
  · rw [LoggedChannel.outcomes, sameEnded, LoggedChannel.outcomes]
  · exact ((step.service watched.service).2 sameBegun sameEnded).filter _
  · intro n ready
    rcases watched.ready_step reads step ready with stays | begun
    · exact stays
    · rw [sameBegun] at begun
      simp at begun
  · exact watched.tracks.not_holds_advance advances watched.given

/-- A worker takes up a task: that of the job if it is the turn of the job, or another one. -/
theorem Paced.begin (paced : Paced id payload job outcome last begun ended d)
    (watched : Watched visibility maxRedeliveries book id payload d)
    (reads : Job.ofPayload? payload = some job) {w : Worker τ} {order : List Lease} {now : Nat}
    {task : Task} (works : w ∈ d.channel.workers) (free : w.occupation.task? = none)
    (lapsed : order.Perm (d.channel.queue.expired now))
    (found : (d.channel.fetchAfter order now w).1 = .task task)
    (inTime : ∀ lease ∈ d.channel.queue.leases, lease.message.id = id → now < lease.expires)
    (wakes : Option Nat) (stage : τ) :
    ∃ begunToo, Paced id payload job outcome last begunToo ended { d with
      channel := (d.channel.fetchAfter order now w).2.occupy w.id (.busy task wakes stage)
      begun := d.begun ++ [task] } := by
  have step := Step.begin works free lapsed found wakes stage
  obtain ⟨later, advances, watchedToo⟩ := watched.step step
  obtain ⟨m, other, rfl, ⟨first, was, again⟩, lease, leased, is⟩ :=
    exists_received watched.service found
  obtain ⟨before, after, hands, handsToo⟩ :=
    inHand_begin order now ⟨other, some m⟩ watched.service works free wakes stage id
  have sameId : m.id = first.id := by rw [again]; rfl
  have notLeased : ∀ lease ∈ d.channel.queue.leases, lease.message.id = id → m.id ≠ id := by
    rintro lease leased rfl
    rw [sameId]
    exact watched.tracks.ne_of_leased leased lapsed inTime was
  by_cases own : m.id = id
  · subst own
    cases paced.stands with
    | ready ready left none =>
      rcases watched.ready_step reads step ready with still | begins
      · -- The message would be ready and leased.
        rw [← watchedToo.tracks.queue] at still
        have conserved := MessageLog.start_conserved.run watchedToo.tracks.run
        exact absurd (congrArg Message.id is).symm
          (conserved.ne_of_ready_of_leased still (watchedToo.tracks.queue ▸ leased))
      · have same : (⟨other, some m⟩ : Task) = invocation m.id payload job (begun + 1) := by
          simpa using begins
        have message : m = ⟨m.id, payload, begun + 1⟩ := by
          cases m
          simpa [invocation] using congrArg Task.delivery same
        refine ⟨begun + 1, ?_, paced.outcomes, .leased leased (is.trans message) left ?_⟩
        · rw [LoggedChannel.invocations, List.filter_append, List.range'_1_concat, List.map_append]
          rw [List.filter_singleton, concerns_iff.mpr rfl, cond_true, same, Nat.add_comm 1]
          exact congrArg (· ++ _) paced.invocations
        · rw [handsToo]
          rw [none] at hands
          obtain ⟨rfl, rfl⟩ := List.append_eq_nil_iff.mp hands.symm
          rw [List.filter_singleton, concerns_iff.mpr rfl, cond_true, same]
          exact .refl _
    | leased lease message =>
      exact absurd rfl (notLeased _ lease (by rw [message]))
    | gone gone =>
      have stillGone := watched.tracks.not_holds_advance advances watched.given gone
      refine absurd ?_ stillGone
      exact ⟨m, List.mem_append_right _ (List.mem_map.mpr ⟨lease, leased, is⟩), rfl⟩
  · have passes : [(⟨other, some m⟩ : Task)].filter (concerns id) = [] := by
      simpa using mt concerns_iff.mp own
    refine ⟨begun, paced.stays ?_ rfl ?_ ?_ ?_ ?_⟩
    · rw [LoggedChannel.invocations, List.filter_append, passes, List.append_nil,
        LoggedChannel.invocations]
    · rw [handsToo, passes, List.append_nil, hands]
    · intro n ready
      rcases watched.ready_step reads step ready with stays | begins
      · exact stays
      · have same : (⟨other, some m⟩ : Task) = invocation id payload job (n + 1) := by
          simpa using begins
        have message := Option.some.inj (congrArg Task.delivery same)
        exact absurd (congrArg Message.id message) own
    · rintro lease leased rfl
      exact watched.tracks.leased_look leased lapsed inTime w
    · exact watched.tracks.not_holds_advance advances watched.given

private theorem Stands.gone_at {n : Nat} (same : n = last) (gone : ¬d.Holds id)
    (hands : d.inHand id = []) : Stands id payload job last d n n := by
  subst same
  exact .gone gone hands

private theorem eq_of_sublist_singleton {α : Type} {before after : List α} {entry other : α}
    (sublist : (before ++ [entry] ++ after).Sublist [other]) :
    before = [] ∧ entry = other ∧ after = [] := by
  have length := sublist.length_le
  simp only [List.length_append, List.length_singleton] at length
  have first : before = [] := List.length_eq_zero_iff.mp (by omega)
  have last : after = [] := List.length_eq_zero_iff.mp (by omega)
  have member : entry ∈ [other] := sublist.subset (by simp)
  exact ⟨first, List.mem_singleton.mp member, last⟩

/-- The end of a delivery of the job is the last one, or the message is ready again. -/
theorem Watched.finish (watched : Watched visibility maxRedeliveries book id payload d)
    {lease : Lease} {attempt : Nat} (leased : lease ∈ d.channel.queue.leases)
    (message : lease.message = ⟨id, payload, attempt⟩) (job : Job) (worker : Nat)
    (result : Except Fault Unit) :
    if Channel.isFinal maxRedeliveries attempt result then
      ∀ m ∈ (d.channel.finish worker (invocation id payload job attempt) result).queue.ready ++
        (d.channel.finish worker (invocation id payload job attempt) result).queue.leases.map
          (·.message), m.id ≠ id
    else ⟨id, payload, attempt⟩ ∈
      (d.channel.finish worker (invocation id payload job attempt) result).queue.ready := by
  have leaves : Channel.Eases visibility maxRedeliveries d.channel
      (d.channel.occupy worker .asking) := watched.service.occupy_idle worker rfl
  have conserved := MessageLog.start_conserved.run watched.tracks.run
  have queue : (d.channel.finish worker (invocation id payload job attempt) result).queue =
      if Channel.isFinal maxRedeliveries attempt result then
        d.channel.queue.acknowledge (receiptText id attempt)
      else (d.channel.queue.giveBack? (receiptText id attempt)).getD d.channel.queue :=
    (leaves.service.conclude (invocation id payload job attempt) result).2 _ rfl
  have receipt : lease.receipt = receiptText id attempt := by
    rw [conserved.receipt lease (watched.tracks.queue ▸ leased), message]
    rfl
  rw [queue, ← receipt, ← watched.tracks.queue]
  rw [← watched.tracks.queue] at leased
  split
  · next final =>
    intro m member
    have differs := conserved.ne_of_acknowledged leased member
    rwa [message] at differs
  · next more =>
    obtain ⟨after, returned, ready⟩ := conserved.exists_giveBack? leased
    rw [returned, Option.getD_some, ← message]
    exact ready

/-- A worker ends a task: that of the job, or another one. -/
theorem Paced.finish
    (paced : Paced id payload job outcome (budget maxRedeliveries outcome) begun ended d)
    (watched : Watched visibility maxRedeliveries book id payload d)
    (reads : Job.ofPayload? payload = some job) {w : Worker τ} {task : Task}
    {result : Except Fault Unit} (works : w ∈ d.channel.workers)
    (busy : w.occupation.task? = some task)
    (told : concerns id task = true → result = outcome ((d.outcomes id).length + 1)) :
    ∃ endedToo, Paced id payload job outcome (budget maxRedeliveries outcome) begun endedToo { d with
      channel := d.channel.finish w.id task result
      ended := d.ended ++ [(task, result)] } := by
  have step := Step.finish works busy result
  obtain ⟨later, advances, watchedToo⟩ := watched.step step
  obtain ⟨before, after, hands, handsToo⟩ := inHand_finish result watched.service works busy id
  cases own : concerns id task with
  | true =>
    rw [List.filter_singleton, own, cond_true] at hands
    cases paced.stands with
    | ready _ _ none =>
      rw [none] at hands
      simp at hands
    | gone _ none =>
      rw [none] at hands
      simp at hands
    | leased leased message left some =>
      rw [hands] at some
      obtain ⟨rfl, rfl, rfl⟩ := eq_of_sublist_singleton some
      have count : (d.outcomes id).length = ended := by rw [paced.outcomes]; simp
      have result : result = outcome (ended + 1) := by rw [told own, count]
      subst result
      have outcomes : LoggedChannel.outcomes { d with
          channel := d.channel.finish w.id (invocation id payload job (ended + 1))
            (outcome (ended + 1))
          ended := d.ended ++ [(invocation id payload job (ended + 1), outcome (ended + 1))] } id =
          (List.range' 1 (ended + 1)).map fun i => (invocation id payload job i, outcome i) := by
        rw [LoggedChannel.outcomes, List.filter_append, List.filter_singleton, own, cond_true,
          List.range'_1_concat, List.map_append, Nat.add_comm 1]
        exact congrArg (· ++ _) paced.outcomes
      obtain ⟨_, earlier, final⟩ := @budget_spec maxRedeliveries outcome
      have ends := watched.finish leased message job w.id (outcome (ended + 1))
      by_cases lastOne : ended + 1 = budget maxRedeliveries outcome
      · rw [lastOne, final, if_pos rfl, ← lastOne] at ends
        refine ⟨ended + 1, paced.invocations, outcomes, .gone_at lastOne ?_ handsToo⟩
        rintro ⟨m, member, same⟩
        exact ends m member same
      · have more := earlier (ended + 1) (Nat.succ_pos _) (by omega)
        rw [more, if_neg Bool.false_ne_true] at ends
        exact ⟨ended + 1, paced.invocations, outcomes, .ready ends (by omega) handsToo⟩
  | false =>
    have passes : ∀ {α : Type} (f : α → Task) (entry : α), f entry = task →
        [entry].filter (fun e => concerns id (f e)) = [] := by
      rintro α f entry rfl
      simpa using own
    refine ⟨ended, paced.stays rfl ?_ ?_ ?_ ?_ ?_⟩
    · rw [LoggedChannel.outcomes, List.filter_append, passes Prod.fst _ rfl, List.append_nil,
        LoggedChannel.outcomes]
    · rw [handsToo, hands, List.filter_singleton, own, cond_false, List.append_nil]
    · intro n ready
      rcases watched.ready_step reads step ready with stays | begins
      · exact stays
      · simp at begins
    · rintro lease leased rfl
      exact watched.tracks.leased_finish watched.service leased own w.id result
    · exact watched.tracks.not_holds_advance advances watched.given

/-- The job keeps its pace in every step. -/
theorem Paced.step
    (paced : Paced id payload job outcome (budget maxRedeliveries outcome) begun ended d)
    (watched : Watched visibility maxRedeliveries book id payload d)
    (reads : Job.ofPayload? payload = some job) (prompt : Prompt id outcome d next) :
    ∃ begunToo endedToo,
      Paced id payload job outcome (budget maxRedeliveries outcome) begunToo endedToo next := by
  cases prompt with
  | aside step leases sameBegun sameEnded =>
    exact ⟨begun, ended, paced.aside watched reads step sameBegun sameEnded
      fun lease leased _ => leases ▸ leased⟩
  | @look w order now works free lapsed nothing inTime =>
    refine ⟨begun, ended, paced.aside watched reads (.look works free lapsed nothing) rfl rfl ?_⟩
    rintro lease leased rfl
    have stays := watched.tracks.leased_look leased lapsed inTime w
    rwa [← (Channel.quiet_heed (d.channel.fetchAfter order now w).2 w.id nothing).queue] at stays
  | begin works free lapsed found inTime wakes stage =>
    obtain ⟨begunToo, pacedToo⟩ :=
      paced.begin watched reads works free lapsed found inTime wakes stage
    exact ⟨begunToo, ended, pacedToo⟩
  | finish works busy told =>
    obtain ⟨endedToo, pacedToo⟩ := paced.finish watched reads works busy told
    exact ⟨begun, endedToo, pacedToo⟩

end Paced

/-! ## From the first delivery on -/

section Sent

variable {visibility maxRedeliveries consumers : Nat} {grace : Time.Span} {book : MessageLog}
  {id : Nat} {payload : List UInt8} {job : Job} {outcome : Nat → Except Fault Unit}
  {begun ended : Nat} {d₀ d next : LoggedChannel τ}

theorem opening_service (visibility consumers maxRedeliveries : Nat) (grace : Time.Span) :
    (opening (.broker visibility .none consumers maxRedeliveries grace) :
      LoggedChannel τ).channel.InService visibility maxRedeliveries where
  supply := ⟨.empty visibility, rfl, rfl⟩
  ids := .nil
  hired _ member := nomatch member

theorem service_of_run (run : Run d next)
    (service : d.channel.InService visibility maxRedeliveries) :
    next.channel.InService visibility maxRedeliveries := by
  induction run with
  | refl => exact service
  | tail _ last ih => exact (last.service ih).1

theorem exists_watched
    (run : Run (opening (.broker visibility .none consumers maxRedeliveries grace)) d)
    {attempt : Nat} (sent : ⟨id, payload, attempt⟩ ∈ d.channel.queue.ready) :
    ∃ book, Watched visibility maxRedeliveries book id payload d := by
  have service := service_of_run run (opening_service visibility consumers maxRedeliveries grace)
  obtain ⟨book, tracks⟩ :=
    (opening_tracks visibility .none consumers maxRedeliveries grace).exists_run run
  have accounted := (MessageLog.start_conserved.run tracks.run).accounted
  have member : ⟨id, payload, attempt⟩ ∈ book.messages :=
    List.mem_append_left _ (List.mem_append_left _ (tracks.queue ▸ sent))
  have given := accounted.placed.mem_iff.mp (List.mem_map_of_mem member)
  rw [List.mem_range'_1] at given
  exact ⟨book, tracks, service, given.1, accounted.payload _ (List.mem_append_left _ member)⟩

theorem Watched.run (watched : Watched visibility maxRedeliveries book id payload d)
    (run : Run d next) : ∃ later, Watched visibility maxRedeliveries later id payload next := by
  induction run with
  | refl => exact ⟨book, watched⟩
  | tail _ last ih =>
    obtain ⟨before, watched⟩ := ih
    obtain ⟨later, _, watchedToo⟩ := watched.step last
    exact ⟨later, watchedToo⟩

/-- Who has begun a task with the message got it from the broker. -/
theorem Watched.exists_delivered (watched : Watched visibility maxRedeliveries book id payload d)
    {task : Task} (begun : task ∈ d.begun) (own : concerns id task = true) :
    (∃ m ∈ book.delivered, m.id = id) ∧ Job.ofPayload? payload = some task.job := by
  obtain ⟨m, delivered, is, reads⟩ := watched.tracks.begun task begun
  obtain ⟨job, _⟩ := task
  cases is
  obtain rfl := concerns_iff.mp own
  have conserved := MessageLog.start_conserved.run watched.tracks.run
  rw [conserved.payload_eq (List.mem_append_right _ delivered) watched.sent] at reads
  exact ⟨⟨m, delivered, rfl⟩, reads⟩

/-- Before the first delivery there was no invocation. -/
theorem Watched.paced (watched : Watched visibility maxRedeliveries book id payload d)
    (sent : ⟨id, payload, 0⟩ ∈ d.channel.queue.ready) (job : Job)
    (outcome : Nat → Except Fault Unit) :
    Paced id payload job outcome (budget maxRedeliveries outcome) 0 0 d := by
  have accounted := (MessageLog.start_conserved.run watched.tracks.run).accounted
  have member : ⟨id, payload, 0⟩ ∈ book.messages :=
    List.mem_append_left _ (List.mem_append_left _ (watched.tracks.queue ▸ sent))
  have none : ∀ task ∈ d.begun, ¬concerns id task = true := by
    intro task begun own
    obtain ⟨⟨m, delivered, named⟩, _⟩ := watched.exists_delivered begun own
    have never := List.countP_eq_zero.mp (accounted.attempt _ member).symm m delivered
    exact never (by simpa using named)
  refine ⟨?_, ?_, .ready sent budget_spec.1 ?_⟩
  · exact List.filter_eq_nil_iff.mpr none
  · exact List.filter_eq_nil_iff.mpr fun e ended => none e.1 (watched.tracks.ended e ended)
  · exact List.filter_eq_nil_iff.mpr fun task inHand => none task (watched.tracks.tasks inHand)

theorem Watched.prompt_run (watched : Watched visibility maxRedeliveries book id payload d)
    (reads : Job.ofPayload? payload = some job)
    (paced : Paced id payload job outcome (budget maxRedeliveries outcome) begun ended d)
    (run : PromptRun id outcome d next) :
    ∃ later begunToo endedToo, Watched visibility maxRedeliveries later id payload next ∧
      Paced id payload job outcome (budget maxRedeliveries outcome) begunToo endedToo next := by
  induction run with
  | refl => exact ⟨book, begun, ended, watched, paced⟩
  | tail _ last ih =>
    obtain ⟨_, _, _, watched, paced⟩ := ih
    obtain ⟨later, _, watchedToo⟩ := watched.step last.step
    obtain ⟨begunToo, endedToo, pacedToo⟩ := paced.step watched reads last
    exact ⟨later, begunToo, endedToo, watchedToo, pacedToo⟩

/-- The message is at the broker until as many invocations have ended as there are. -/
theorem Paced.bounds {last : Nat} (paced : Paced id payload job outcome last begun ended d) :
    ended ≤ begun ∧ begun ≤ ended + 1 ∧ begun ≤ last ∧ (d.Holds id ↔ ended < last) := by
  cases paced.stands with
  | ready ready left =>
    have holds : d.Holds id := ⟨_, List.mem_append_left _ ready, rfl⟩
    exact ⟨Nat.le_refl _, Nat.le_succ _, Nat.le_of_lt left, iff_of_true holds left⟩
  | @leased n lease leased message left =>
    have holds : d.Holds id :=
      ⟨lease.message, List.mem_append_right _ (List.mem_map_of_mem leased), by rw [message]⟩
    exact ⟨Nat.le_succ _, Nat.le_refl _, left, iff_of_true holds left⟩
  | gone gone =>
    exact ⟨Nat.le_refl _, Nat.le_succ _, Nat.le_refl _, iff_of_false gone (Nat.lt_irrefl _)⟩

/-- A message that describes no job is ready as it was sent, or gone. -/
theorem Watched.unread_run (watched : Watched visibility maxRedeliveries book id payload d)
    (unread : Job.ofPayload? payload = none) (sent : ⟨id, payload, 0⟩ ∈ d.channel.queue.ready)
    (run : Run d next) : ∃ later, Watched visibility maxRedeliveries later id payload next ∧
      (⟨id, payload, 0⟩ ∈ next.channel.queue.ready ∨ ¬next.Holds id) := by
  induction run with
  | refl => exact ⟨book, watched, .inl sent⟩
  | tail _ last ih =>
    obtain ⟨_, watched, stands⟩ := ih
    obtain ⟨later, advances, watchedToo⟩ := watched.step last
    refine ⟨later, watchedToo, ?_⟩
    rcases stands with ready | gone
    · rcases watched.tracks.ready_step watched.service last ready with
        stays | ⟨job, reads, _⟩ | ⟨_, gone⟩
      · exact .inl stays
      · cases unread.symm.trans reads
      · exact .inr gone
    · exact .inr (watched.tracks.not_holds_advance advances watched.given gone)

end Sent

/-! ## Courses without end -/

/-- A message that is ready is received at some time, and what is begun with it ends. -/
structure Attended (id : Nat) (course : Nat → LoggedChannel τ) : Prop where
  received : ∀ i, (∃ m ∈ (course i).channel.queue.ready, m.id = id) →
    ∃ later, i ≤ later ∧ ∀ m ∈ (course later).channel.queue.ready, m.id ≠ id
  processed : ∀ i, ∀ task ∈ (course i).invocations id,
    ∃ later, i ≤ later ∧ ∃ result, (task, result) ∈ (course later).outcomes id

section Courses

variable {visibility maxRedeliveries : Nat} {book : MessageLog} {id : Nat} {payload : List UInt8}
  {job : Job} {outcome : Nat → Except Fault Unit} {last begun ended : Nat} {d next : LoggedChannel τ}
  {course : Nat → LoggedChannel τ}

theorem run_of_course {R : LoggedChannel τ → LoggedChannel τ → Prop}
    (steps : ∀ i, R (course i) (course (i + 1))) {i later : Nat} (after : i ≤ later) :
    Relation.ReflTransGen R (course i) (course later) := by
  induction after with
  | refl => exact .refl
  | step _ ih => exact ih.tail (steps _)

theorem PromptRun.run (run : PromptRun id outcome d next) : Run d next := by
  induction run with
  | refl => exact .refl
  | tail _ last ih => exact Relation.ReflTransGen.tail ih last.step

theorem Watched.not_holds_run (watched : Watched visibility maxRedeliveries book id payload d)
    (gone : ¬d.Holds id) (run : Run d next) : ¬next.Holds id := by
  induction run with
  | refl => exact gone
  | tail first last ih =>
    obtain ⟨before, watched⟩ := watched.run first
    obtain ⟨later, advances, _⟩ := watched.step last
    exact watched.tracks.not_holds_advance advances watched.given ih

private theorem ended_subset (run : Run d next) : d.ended ⊆ next.ended := by
  induction run with
  | refl => exact fun _ member => member
  | tail _ last ih =>
    refine List.Subset.trans ih ?_
    cases last with
    | finish => exact List.subset_append_left _ _
    | _ => exact fun _ member => member

/-- Each outcome that was counted belongs to an invocation that has ended. -/
theorem Paced.le_of_mem_outcomes (paced : Paced id payload job outcome last begun ended d)
    {attempt : Nat} {result : Except Fault Unit}
    (member : (invocation id payload job attempt, result) ∈ d.outcomes id) : attempt ≤ ended := by
  rw [paced.outcomes] at member
  obtain ⟨i, inside, same⟩ := List.mem_map.mp member
  rw [List.mem_range'_1] at inside
  have attempts : i = attempt := by simpa [invocation] using congrArg Prod.fst same
  omega

/-- While invocations are left, the message is ready for the next one or that has begun. -/
theorem Paced.ready_or_begun (paced : Paced id payload job outcome last begun ended d)
    (left : ended < last) : (∃ m ∈ d.channel.queue.ready, m.id = id) ∨
      invocation id payload job (ended + 1) ∈ d.invocations id := by
  cases paced.stands with
  | ready ready => exact .inl ⟨_, ready, rfl⟩
  | leased =>
    refine .inr ?_
    rw [paced.invocations]
    exact List.mem_map_of_mem (by rw [List.mem_range'_1]; omega)
  | gone => exact absurd left (Nat.lt_irrefl _)

/-- Where the message is attended to, one invocation after the other ends. -/
theorem Attended.exists_ended (attended : Attended id course)
    (steps : ∀ i, Prompt id outcome (course i) (course (i + 1)))
    (all : ∀ i, ∃ begun ended, Paced id payload job outcome last begun ended (course i)) {n : Nat}
    (within : n ≤ last) :
    ∃ i begun ended, Paced id payload job outcome last begun ended (course i) ∧ n ≤ ended := by
  induction n with
  | zero =>
    obtain ⟨begun, ended, paced⟩ := all 0
    exact ⟨0, begun, ended, paced, Nat.zero_le _⟩
  | succ n ih =>
    have ends : ∀ i, invocation id payload job (n + 1) ∈ (course i).invocations id →
        ∃ i begun ended, Paced id payload job outcome last begun ended (course i) ∧
          n + 1 ≤ ended := by
      intro i begins
      obtain ⟨later, _, result, done⟩ := attended.processed i _ begins
      obtain ⟨begun, ended, paced⟩ := all later
      exact ⟨later, begun, ended, paced, paced.le_of_mem_outcomes done⟩
    obtain ⟨i, begun, ended, paced, enough⟩ := ih (Nat.le_of_succ_le within)
    by_cases more : n + 1 ≤ ended
    · exact ⟨i, begun, ended, paced, more⟩
    · obtain rfl : n = ended := by omega
      rcases paced.ready_or_begun within with ready | begins
      · obtain ⟨later, after, received⟩ := attended.received i ready
        obtain ⟨begunToo, endedToo, pacedToo⟩ := all later
        -- No outcome is forgotten in the meantime.
        have noLess : n ≤ endedToo := by
          cases n with
          | zero => exact Nat.zero_le _
          | succ n =>
            have counted : (invocation id payload job (n + 1), outcome (n + 1)) ∈
                (course i).outcomes id := by
              rw [paced.outcomes]
              refine List.mem_map.mpr ⟨n + 1, ?_, rfl⟩
              rw [List.mem_range'_1]
              omega
            have run : Run (course i) (course later) :=
              PromptRun.run (run_of_course steps after)
            exact pacedToo.le_of_mem_outcomes
              (List.filter_subset _ (ended_subset run) counted)
        by_cases moreToo : n + 1 ≤ endedToo
        · exact ⟨later, begunToo, endedToo, pacedToo, moreToo⟩
        · obtain rfl : n = endedToo := by omega
          rcases pacedToo.ready_or_begun within with ⟨m, ready, same⟩ | begins
          · exact absurd same (received m ready)
          · exact ends later begins
      · exact ends i begins

end Courses

/-- If each delivery of a job is concluded before its lease is over, its handler is invoked on the
attempts 1, 2, 3 and so on, up to the first outcome that settles the job or to the last delivery. -/
theorem invoked_within_budget {visibility consumers maxRedeliveries : Nat} {grace : Time.Span}
    {d₀ : LoggedChannel τ}
    (run : Run (opening (.broker visibility .none consumers maxRedeliveries grace)) d₀) {id : Nat}
    {payload : List UInt8} (sent : ⟨id, payload, 0⟩ ∈ d₀.channel.queue.ready) :
    (∀ job outcome, Job.ofPayload? payload = some job →
      (∀ d, PromptRun id outcome d₀ d → ∃ begun ended,
        d.invocations id = (List.range' 1 begun).map (invocation id payload job) ∧
        d.outcomes id =
          (List.range' 1 ended).map (fun i => (invocation id payload job i, outcome i)) ∧
        ended ≤ begun ∧ begun ≤ ended + 1 ∧ begun ≤ budget maxRedeliveries outcome ∧
        (d.Holds id ↔ ended < budget maxRedeliveries outcome)) ∧
      ∀ course : Nat → LoggedChannel τ, course 0 = d₀ →
        (∀ i, Prompt id outcome (course i) (course (i + 1))) → Attended id course →
        ∃ i, ∀ later, i ≤ later →
          (course later).invocations id =
            (List.range' 1 (budget maxRedeliveries outcome)).map (invocation id payload job) ∧
          ¬(course later).Holds id) ∧
    (Job.ofPayload? payload = none →
      (∀ d, Run d₀ d → d.invocations id = [] ∧
        (⟨id, payload, 0⟩ ∈ d.channel.queue.ready ∨ ¬d.Holds id) ∧
        ∀ w order now, w.dismissed = false → order.Perm (d.channel.queue.expired now) →
          (d.channel.queue.receiveAfter order now visibility).1 = .message ⟨id, payload, 1⟩ →
          (d.channel.fetchAfter order now w).1 = .again ∧
            ∀ m ∈ (d.channel.fetchAfter order now w).2.queue.ready ++
              (d.channel.fetchAfter order now w).2.queue.leases.map (·.message), m.id ≠ id) ∧
      ∀ course : Nat → LoggedChannel τ, course 0 = d₀ → (∀ i, Step (course i) (course (i + 1))) →
        Attended id course → ∃ i, ∀ later, i ≤ later → ¬(course later).Holds id) := by
  obtain ⟨book, watched⟩ := exists_watched run sent
  refine ⟨fun job outcome reads => ⟨?_, ?_⟩, fun unread => ⟨?_, ?_⟩⟩
  · intro d onward
    obtain ⟨_, begun, ended, _, paced⟩ :=
      watched.prompt_run reads (watched.paced sent job outcome) onward
    obtain ⟨first, second, third, holds⟩ := paced.bounds
    exact ⟨begun, ended, paced.invocations, paced.outcomes, first, second, third, holds⟩
  · rintro course rfl steps attended
    have all : ∀ i, ∃ begun ended,
        Paced id payload job outcome (budget maxRedeliveries outcome) begun ended (course i) := by
      intro i
      obtain ⟨_, begun, ended, _, paced⟩ := watched.prompt_run reads
        (watched.paced sent job outcome) (run_of_course steps (Nat.zero_le i))
      exact ⟨begun, ended, paced⟩
    obtain ⟨i, begun, ended, paced, enough⟩ := attended.exists_ended steps all (Nat.le_refl _)
    have gone : ¬(course i).Holds id := fun holds =>
      absurd (paced.bounds.2.2.2.mp holds) (Nat.not_lt.mpr enough)
    refine ⟨i, fun later after => ?_⟩
    obtain ⟨_, watchedThen⟩ :=
      watched.run (PromptRun.run (run_of_course steps (Nat.zero_le i)))
    have stillGone :=
      watchedThen.not_holds_run gone (PromptRun.run (run_of_course steps after))
    obtain ⟨begunToo, endedToo, pacedToo⟩ := all later
    obtain ⟨first, second, third, holds⟩ := pacedToo.bounds
    have all : begunToo = budget maxRedeliveries outcome := by
      have := mt holds.mpr stillGone
      omega
    exact ⟨all ▸ pacedToo.invocations, stillGone⟩
  · intro d onward
    obtain ⟨later, watchedToo, stands⟩ := watched.unread_run unread sent onward
    refine ⟨?_, stands, ?_⟩
    · refine List.filter_eq_nil_iff.mpr fun task begun own => ?_
      cases unread.symm.trans (watchedToo.exists_delivered begun own).2
    · intro w order now attends lapsed received
      obtain ⟨again, dropped⟩ := watchedToo.service.fetchAfter_drops attends received unread
      refine ⟨again, ?_⟩
      rw [dropped]
      obtain ⟨_, lease, leased, is, named⟩ := MessageQueue.exists_of_receiveAfter received
      rw [← watchedToo.tracks.queue] at lapsed leased ⊢
      have conserved := MessageLog.start_conserved.run watchedToo.tracks.run
      have afterwards := conserved.receive lapsed visibility
      rw [← named]
      intro m member
      have differs := afterwards.ne_of_acknowledged leased member
      rwa [is] at differs
  · rintro course rfl steps attended
    have reaches : ∀ i, Run (course 0) (course i) :=
      fun i => run_of_course steps (Nat.zero_le i)
    obtain ⟨i, _, received⟩ := attended.received 0 ⟨_, sent, rfl⟩
    obtain ⟨book, watchedThen, stands⟩ := watched.unread_run unread sent (reaches i)
    have gone : ¬(course i).Holds id := by
      rcases stands with ready | gone
      · exact absurd rfl (received _ ready)
      · exact gone
    exact ⟨i, fun later after => watchedThen.not_holds_run gone (run_of_course steps after)⟩

/-! ## A job that fails twice, and what is no job -/

def fail (id : Nat) (task : Task) (d : LoggedChannel Unit) : LoggedChannel Unit :=
  { d with
    channel := d.channel.finish id task (.error (.network "reset"))
    ended := d.ended ++ [(task, .error (.network "reset"))] }

def failing : Nat → LoggedChannel Unit
  | 0 => staffed
  | 1 => staffed.takeUp 0 0 (errandTask 1)
  | 2 => (staffed.takeUp 0 0 (errandTask 1)).fail 0 (errandTask 1)
  | 3 => ((staffed.takeUp 0 0 (errandTask 1)).fail 0 (errandTask 1)).takeUp 1 1 (errandTask 2)
  | _ => (((staffed.takeUp 0 0 (errandTask 1)).fail 0 (errandTask 1)).takeUp 1 1
      (errandTask 2)).fail 1 (errandTask 2)

def littered : LoggedChannel Unit :=
  { bench with channel := ((bench.channel.hire 0).sendRaw? []).getD bench.channel }

def cleared : Nat → LoggedChannel Unit
  | 0 => littered
  | _ => { littered with
      channel := (littered.channel.fetchAfter [] 0 (clerk 0 .asking)).2.heed 0
        (littered.channel.fetchAfter [] 0 (clerk 0 .asking)).1 }

private theorem idle {id : Nat} {outcome : Nat → Except Fault Unit} (d : LoggedChannel Unit) :
    Prompt id outcome d d :=
  .aside (.arrange d.channel.turns d.channel.answers) rfl rfl rfl

private theorem failing_prompt (i : Nat) :
    Prompt 1 (fun _ => .error (.network "reset")) (failing i) (failing (i + 1)) := by
  match i with
  | 0 =>
    exact @Prompt.begin _ _ _ staffed (clerk 0 .asking) [] 0 (errandTask 1) List.mem_cons_self rfl
      (.refl _) (by decide +kernel) (fun _ leased => nomatch leased) none ()
  | 1 =>
    refine Prompt.finish (w := clerk 0 (.busy (errandTask 1) none ())) ?_ rfl fun _ => rfl
    rw [failing, takeUp_workers]
    exact List.mem_cons_self
  | 2 =>
    refine @Prompt.begin _ _ _ (failing 2) (clerk 1 .asking) _ 1 (errandTask 2) ?_ rfl (.refl _)
      (by decide +kernel) (by decide +kernel) none ()
    rw [failing, fail, Channel.finish_workers, Channel.occupy, takeUp_workers]
    exact List.mem_cons_of_mem _ List.mem_cons_self
  | 3 =>
    refine Prompt.finish (w := clerk 1 (.busy (errandTask 2) none ())) ?_ rfl fun _ => rfl
    rw [failing, takeUp_workers, fail, Channel.finish_workers, Channel.occupy, takeUp_workers]
    exact List.mem_cons_of_mem _ List.mem_cons_self
  | _ + 4 => exact idle _

private theorem failing_attended : Attended 1 failing where
  received i _ := by
    refine ⟨i + 4, Nat.le_add_right _ _, ?_⟩
    show ∀ m ∈ (failing 4).channel.queue.ready, m.id ≠ 1
    decide +kernel
  processed i task invoked := by
    refine ⟨i + 4, Nat.le_add_right _ _, .error (.network "reset"), ?_⟩
    have outcomes : (failing (i + 4)).outcomes 1 =
        [errandTask 1, errandTask 2].map fun task => (task, .error (.network "reset")) := rfl
    have member : task ∈ [errandTask 1, errandTask 2] := by
      match i, invoked with
      | 1, invoked => exact List.mem_of_mem_take (i := 1) invoked
      | 2, invoked => exact List.mem_of_mem_take (i := 1) invoked
      | 3, invoked => exact invoked
      | _ + 4, invoked => exact invoked
    rw [outcomes]
    exact List.mem_map_of_mem member

theorem cleared_step (i : Nat) : Step (cleared i) (cleared (i + 1)) := by
  match i with
  | 0 =>
    exact @Step.look _ littered (clerk 0 .asking) [] 0 List.mem_cons_self rfl (.refl _)
      (by decide +kernel)
  | _ + 1 => exact .arrange (cleared 1).channel.turns (cleared 1).channel.answers

private theorem cleared_attended : Attended 1 cleared where
  received i _ := by
    refine ⟨i + 1, Nat.le_add_right _ _, ?_⟩
    show ∀ m ∈ (cleared 1).channel.queue.ready, m.id ≠ 1
    decide +kernel
  processed i task invoked := by
    match i, invoked with
    | 0, invoked => exact nomatch invoked
    | _ + 1, invoked => exact nomatch invoked

/-- Of the two deliveries of a job that always fails both are used up; what is no job is dropped. -/
theorem failing_invoked_twice :
    (∃ i, ∀ later, i ≤ later →
      (failing later).invocations 1 = [errandTask 1, errandTask 2] ∧ ¬(failing later).Holds 1) ∧
    ∃ i, ∀ later, i ≤ later → ¬(cleared later).Holds 1 := by
  have publishes : Step bench (bench.handOver 0 errand) := .handOver 0 ⟨by decide, by decide⟩
  have hires : Run (bench.handOver 0 errand) staffed := run_hire rfl 0
  have hiresFirst : Run bench { bench with channel := bench.channel.hire 0 } := run_hire rfl 0
  have sends : Step { bench with channel := bench.channel.hire 0 } littered := .sendRaw rfl
  have ready : ⟨1, errand.payload, 0⟩ ∈ staffed.channel.queue.ready := by decide +kernel
  have readyToo : ⟨1, [], 0⟩ ∈ littered.channel.queue.ready := by decide +kernel
  have jobs := (invoked_within_budget (.head publishes hires) ready).1
  have litter := (invoked_within_budget (hiresFirst.tail sends) readyToo).2
  have reads : Job.ofPayload? errand.payload = some errand :=
    Job.ofPayload?_payload ⟨by decide, by decide⟩
  have unread : Job.ofPayload? [] = none := by decide +kernel
  have lasts := (jobs errand _ reads).2 failing rfl failing_prompt failing_attended
  exact ⟨lasts, (litter unread).2 cleared rfl cleared_step cleared_attended⟩

end LoggedChannel

end FeedIngest.Delivery
