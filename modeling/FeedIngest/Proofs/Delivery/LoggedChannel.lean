import FeedIngest.Delivery.Workshop
import FeedIngest.Proofs.Delivery.Broker.MessageLog
import FeedIngest.Proofs.Delivery.Channel
import FeedIngest.Proofs.Delivery.Job

/-!
# A job leaves the broker when it is done

A broker channel with a log of all jobs that were published, all tasks that workers took up and
all that they ended. Publishers, workers and whoever stops the channel act in any order, handlers
take as long as they like and end well or badly, and leases run out at any moment. A published job
is at the broker until a worker has ended a task for it that was final.
-/

set_option autoImplicit false

namespace FeedIngest.Delivery

/-- A channel with what was published, under the ids of the messages, and the tasks that were taken
up and ended. -/
structure LoggedChannel (τ : Type) where
  channel : Channel τ
  published : List (Nat × Job)
  begun : List Task
  ended : List (Task × Except Fault Unit)

namespace LoggedChannel

variable {τ : Type}

def opening (channel : Channel τ) : LoggedChannel τ := ⟨channel, [], [], []⟩

/-- A publisher hands over his job. If the broker took it, its message has the last id. -/
def handOver (ticket : Nat) (job : Job) (d : LoggedChannel τ) : LoggedChannel τ :=
  let channel := d.channel.handOver ticket job
  { d with
    channel
    published :=
      if channel.queue.lastId = d.channel.queue.lastId then d.published
      else d.published ++ [(channel.queue.lastId, job)] }

/-- Workers come, look for tasks, end them and go at any time, publishers hand over at any time, and
leases that are over end in any order. -/
inductive Step : LoggedChannel τ → LoggedChannel τ → Prop where
  | handOver {d : LoggedChannel τ} (ticket : Nat) {job : Job} (fits : job.Fits) :
      Step d (d.handOver ticket job)
  /-- A publisher gives up. -/
  | withdraw {d : LoggedChannel τ} (ticket : Nat) :
      Step d { d with channel := d.channel.withdraw ticket }
  /-- Somebody else sends to the broker, maybe what is no job. -/
  | sendRaw {d : LoggedChannel τ} {payload : List UInt8} {channel : Channel τ}
      (sends : d.channel.sendRaw? payload = some channel) : Step d { d with channel }
  | closeBroker {d : LoggedChannel τ} : Step d { d with channel := d.channel.closeBroker }
  | enlist {d : LoggedChannel τ} (crew : Nat) : Step d { d with channel := d.channel.enlist crew }
  | register {d : LoggedChannel τ} (id : Nat) : Step d { d with channel := d.channel.register id }
  | look {d : LoggedChannel τ} {w : Worker τ} {order : List Lease} {now : Nat}
      (works : w ∈ d.channel.workers) (free : w.occupation.task? = none)
      (ended : order.Perm (d.channel.queue.expired now))
      (nothing : (d.channel.fetchAfter order now w).1.task? = none) :
      Step d { d with
        channel := (d.channel.fetchAfter order now w).2.heed w.id (d.channel.fetchAfter order now w).1 }
  | begin {d : LoggedChannel τ} {w : Worker τ} {order : List Lease} {now : Nat} {task : Task}
      (works : w ∈ d.channel.workers) (free : w.occupation.task? = none)
      (ended : order.Perm (d.channel.queue.expired now))
      (found : (d.channel.fetchAfter order now w).1 = .task task) (wakes : Option Nat) (stage : τ) :
      Step d { d with
        channel := (d.channel.fetchAfter order now w).2.occupy w.id (.busy task wakes stage)
        begun := d.begun ++ [task] }
  | goOn {d : LoggedChannel τ} {w : Worker τ} {task : Task} (works : w ∈ d.channel.workers)
      (busy : w.occupation.task? = some task) (wakes : Option Nat) (stage : τ) :
      Step d { d with channel := d.channel.occupy w.id (.busy task wakes stage) }
  | finish {d : LoggedChannel τ} {w : Worker τ} {task : Task} (works : w ∈ d.channel.workers)
      (busy : w.occupation.task? = some task) (result : Except Fault Unit) :
      Step d { d with
        channel := d.channel.finish w.id task result
        ended := d.ended ++ [(task, result)] }
  | close {d : LoggedChannel τ} : Step d { d with channel := d.channel.close }
  | turnAway {d : LoggedChannel τ} : Step d { d with channel := d.channel.turnAway }
  | tell {d : LoggedChannel τ} : Step d { d with channel := d.channel.tell }
  | claim {d : LoggedChannel τ} : Step d { d with channel := d.channel.claim }
  | abort {d : LoggedChannel τ} (ids : List Nat) : Step d { d with channel := d.channel.abort ids }
  /-- It is somebody's turn, or an answer is heard. -/
  | arrange {d : LoggedChannel τ} (turns : List Nat) (answers : List (Nat × Except Fault Unit)) :
      Step d { d with channel := { d.channel with turns, answers } }

def Run : LoggedChannel τ → LoggedChannel τ → Prop := Relation.ReflTransGen Step

def Holds (d : LoggedChannel τ) (id : Nat) : Prop :=
  ∃ m ∈ d.channel.queue.ready ++ d.channel.queue.leases.map (·.message), m.id = id

/-! ## The book of the broker -/

def Delivered (delivered : List Message) (task : Task) : Prop :=
  ∃ m ∈ delivered, task.delivery = some m ∧ Job.ofPayload? m.payload = some task.job

def Final (maxRedeliveries : Nat) (receipt : String) (ended : Task × Except Fault Unit) : Prop :=
  ∃ m, ended.1.delivery = some m ∧ m.receipt = receipt ∧
    Channel.isFinal maxRedeliveries m.attempt ended.2 = true

structure Tracks (visibility maxRedeliveries : Nat) (book : MessageLog) (d : LoggedChannel τ) :
    Prop where
  run : MessageLog.Run visibility .start book
  brokered : d.channel.Brokered visibility maxRedeliveries
  queue : book.queue = d.channel.queue
  published : ∀ p ∈ d.published, p.2.Fits ∧ 0 < p.1 ∧ book.sent[p.1 - 1]? = some p.2.payload
  begun : ∀ task ∈ d.begun, Delivered book.delivered task
  tasks : d.channel.tasks ⊆ d.begun
  ended : ∀ e ∈ d.ended, e.1 ∈ d.begun
  settled : ∀ entry ∈ book.settled, Job.ofPayload? entry.2.payload = none ∨
    ∃ e ∈ d.ended, Final maxRedeliveries entry.1 e

/-- A worker ends a task with a final result, and the receipt of the task is the one under which a
message is leased now. -/
def Concludes (maxRedeliveries : Nat) (d next : LoggedChannel τ) (entry : String × Message) :
    Prop :=
  ∃ e, next.ended = d.ended ++ [e] ∧ e.1 ∈ d.channel.tasks ∧ Final maxRedeliveries entry.1 e ∧
    ∃ lease ∈ d.channel.queue.leases, lease.receipt = entry.1 ∧ lease.message = entry.2

/-- What one step does to the channel and to the log of its broker. -/
structure Advances (visibility maxRedeliveries : Nat) (book later : MessageLog)
    (d next : LoggedChannel τ) :
    Prop where
  run : MessageLog.Run visibility book later
  brokered : next.channel.Brokered visibility maxRedeliveries
  queue : later.queue = next.channel.queue
  published : d.published ⊆ next.published ∧ ∀ p ∈ next.published, p ∈ d.published ∨
    p.2.Fits ∧ 0 < p.1 ∧ later.sent[p.1 - 1]? = some p.2.payload
  begun : d.begun ⊆ next.begun ∧
    ∀ task ∈ next.begun, task ∈ d.begun ∨ Delivered later.delivered task
  tasks : ∀ task ∈ next.channel.tasks, task ∈ d.channel.tasks ∨ task ∈ next.begun
  ended : d.ended ⊆ next.ended ∧ ∀ e ∈ next.ended, e ∈ d.ended ∨ e.1 ∈ d.channel.tasks
  settled : ∀ entry ∈ later.settled, entry ∈ book.settled ∨
    Job.ofPayload? entry.2.payload = none ∨ Concludes maxRedeliveries d next entry

section Tracking

variable {visibility maxRedeliveries : Nat} {book later : MessageLog} {d next : LoggedChannel τ}

private theorem Delivered.mono {delivered more : List Message} {task : Task}
    (was : Delivered delivered task) (grows : delivered <+: more) : Delivered more task := by
  obtain ⟨m, member, rest⟩ := was
  exact ⟨m, grows.subset member, rest⟩

theorem Tracks.advance (tracks : Tracks visibility maxRedeliveries book d)
    (advances : Advances visibility maxRedeliveries book later d next) :
    Tracks visibility maxRedeliveries later next := by
  obtain ⟨sent, delivered⟩ := advances.run.grows
  have begun : ∀ task ∈ next.begun, Delivered later.delivered task := by
    intro task member
    rcases advances.begun.2 task member with old | new
    · exact (tracks.begun task old).mono delivered
    · exact new
  refine ⟨tracks.run.trans advances.run, advances.brokered, advances.queue, ?_, begun, ?_, ?_, ?_⟩
  · intro p member
    rcases advances.published.2 p member with old | new
    · obtain ⟨fits, positive, found⟩ := tracks.published p old
      obtain ⟨more, grown⟩ := sent
      have inside : p.1 - 1 < book.sent.length := (List.getElem?_eq_some_iff.mp found).1
      refine ⟨fits, positive, ?_⟩
      rw [← grown, List.getElem?_append_left inside, found]
    · exact new
  · intro task member
    rcases advances.tasks task member with old | new
    · exact advances.begun.1 (tracks.tasks old)
    · exact new
  · intro e member
    rcases advances.ended.2 e member with old | new
    · exact advances.begun.1 (tracks.ended e old)
    · exact advances.begun.1 (tracks.tasks new)
  · intro entry member
    rcases advances.settled entry member with old | unread | ⟨e, ends, _, final, _⟩
    · rcases tracks.settled entry old with unread | ⟨e, ended, final⟩
      · exact .inl unread
      · exact .inr ⟨e, advances.ended.1 ended, final⟩
    · exact .inl unread
    · exact .inr ⟨e, by simp [ends], final⟩

/-! ## What single steps do to the book -/

/-- An acknowledgement that reached the broker or did not. -/
theorem exists_acknowledged {receipt : String} {queue : MessageQueue}
    (dropped : queue = book.queue ∨ queue = book.queue.acknowledge receipt) :
    ∃ later, MessageLog.Run visibility book later ∧ later.queue = queue ∧
      ∀ entry ∈ later.settled, entry ∈ book.settled ∨
        entry.1 = receipt ∧ ∃ lease ∈ book.queue.leases, lease.receipt = receipt ∧
          lease.message = entry.2 := by
  rcases dropped with rfl | rfl
  · exact ⟨book, .refl, rfl, fun entry member => .inl member⟩
  · refine ⟨book.noteAcknowledgement receipt, .single .acknowledge, rfl, ?_⟩
    intro entry member
    rcases List.mem_append.mp member with old | new
    · exact .inl old
    · obtain ⟨lease, found, rfl⟩ := List.mem_map.mp new
      have found := Option.mem_toList.mp found
      refine .inr ⟨rfl, lease, List.mem_of_find?_eq_some found, ?_, rfl⟩
      simpa using List.find?_some found

/-- A look at the broker delivers the message of the task that is found; a message that describes no
job may be dropped at once. -/
theorem exists_seen (conserved : book.Conserved) {order : List Lease} {now : Nat}
    (ended : order.Perm (book.queue.expired now)) {fetch : Channel.Fetch} {queue : MessageQueue}
    (seen : Channel.Seen (book.queue.receiveAfter order now visibility) fetch queue) :
    ∃ later, MessageLog.Run visibility book later ∧ later.queue = queue ∧
      (∀ entry ∈ later.settled, entry ∈ book.settled ∨ Job.ofPayload? entry.2.payload = none) ∧
      ∀ task, fetch.task? = some task → Delivered later.delivered task := by
  have receives : MessageLog.Step visibility book
      (book.noteReception (book.queue.receiveAfter order now visibility)) := .receive ended
  have afterwards := conserved.step receives
  cases seen with
  | nothing none message =>
    refine ⟨_, .single receives, rfl, fun entry member => .inl member, ?_⟩
    intro task found
    rw [none] at found
    cases found
  | @task m job message reads =>
    refine ⟨_, .single receives, rfl, fun entry member => .inl member, ?_⟩
    intro task found
    cases found
    refine ⟨m, List.mem_append_right _ ?_, rfl, reads⟩
    simp [message, Reception.message?]
  | @unreadable m queue message unread dropped =>
    have dropped : queue = (book.noteReception _).queue ∨
        queue = (book.noteReception _).queue.acknowledge m.receipt := dropped
    obtain ⟨later, drops, same, settled⟩ := exists_acknowledged dropped
    refine ⟨later, .head receives drops, same, ?_, ?_⟩
    · intro entry member
      rcases settled entry member with old | ⟨_, lease, leased, named, is⟩
      · exact .inl old
      -- What was dropped is the message that could not be read.
      refine .inr ?_
      have delivered : m ∈ (book.noteReception
          (book.queue.receiveAfter order now visibility)).delivered := by
        refine List.mem_append_right _ ?_
        simp [message, Reception.message?]
      have sameId : lease.message.id = m.id := by
        rw [afterwards.receipt lease leased] at named
        exact receiptText_id named
      have payload := afterwards.payload_eq
        (List.mem_append_left _ (MessageLog.mem_messages_of_leased leased))
        (sameId ▸ afterwards.accounted.payload m (List.mem_append_right _ delivered))
      rw [← is, payload, unread]
    · intro task found
      cases found

/-- The conclusion of a task settles a message only if it is final, and only the one that is leased
under the receipt of the task. -/
theorem exists_concluded {c : Channel τ} (brokered : c.Brokered visibility maxRedeliveries)
    (queue : book.queue = c.queue) (task : Task) (result : Except Fault Unit) :
    Channel.Steady c (c.conclude task result) ∧
    ∃ later, MessageLog.Run visibility book later ∧ later.queue = (c.conclude task result).queue ∧
      ∀ entry ∈ later.settled, entry ∈ book.settled ∨
        Final maxRedeliveries entry.1 (task, result) ∧
          ∃ lease ∈ book.queue.leases, lease.receipt = entry.1 ∧ lease.message = entry.2 := by
  rcases Channel.conclude_cases brokered task result with
    ⟨m, delivery, final, concluded⟩ | ⟨m, concluded⟩ | concluded
  · obtain ⟨steady, dropped⟩ := Channel.acknowledge_cases c m.receipt
    rw [concluded]
    rw [← queue] at dropped
    obtain ⟨later, drops, same, settled⟩ := exists_acknowledged dropped
    refine ⟨steady, later, drops, same, ?_⟩
    intro entry member
    rcases settled entry member with old | ⟨named, leased⟩
    · exact .inl old
    · rw [← named] at leased
      exact .inr ⟨⟨m, delivery, named.symm, final⟩, leased⟩
  · obtain ⟨steady, returned⟩ := Channel.giveBack_cases c m.receipt
    rw [concluded]
    rw [← queue] at returned
    rcases returned with same | returned
    · exact ⟨steady, book, .refl, same.symm, fun entry member => .inl member⟩
    · exact ⟨steady, _, .single (.giveBack returned), rfl, fun entry member => .inl member⟩
  · rw [concluded]
    exact ⟨.refl, book, .refl, queue, fun entry member => .inl member⟩

/-! ## Every step -/

/-- Nothing joins a list that stays as it is. -/
private theorem stays {α : Type} {all : List α} {Joins : α → Prop} :
    all ⊆ all ∧ ∀ x ∈ all, x ∈ all ∨ Joins x :=
  ⟨fun _ member => member, fun _ member => .inl member⟩

/-- One entry joins a list. -/
private theorem joined {α : Type} {all : List α} {entry : α} {Joins : α → Prop}
    (joins : Joins entry) : all ⊆ all ++ [entry] ∧ ∀ x ∈ all ++ [entry], x ∈ all ∨ Joins x := by
  refine ⟨List.subset_append_left _ _, ?_⟩
  intro x member
  rcases List.mem_append.mp member with old | new
  · exact .inl old
  · exact .inr (List.mem_singleton.mp new ▸ joins)

/-- Messages move and then workers go where they go, and nobody takes up or ends a task. -/
theorem Tracks.moves {moved last : Channel τ} (tracks : Tracks visibility maxRedeliveries book d)
    (run : MessageLog.Run visibility book later) (steady : Channel.Steady d.channel moved)
    (queue : later.queue = moved.queue) (quiet : Channel.Quiet moved last)
    (settled : ∀ entry ∈ later.settled,
      entry ∈ book.settled ∨ Job.ofPayload? entry.2.payload = none) :
    Advances visibility maxRedeliveries book later d { d with channel := last } where
  run := run
  brokered := quiet.brokered _ _ (steady.brokered _ _ tracks.brokered)
  queue := queue.trans quiet.queue.symm
  published := stays
  begun := stays
  tasks _ member := .inl (steady.tasks ▸ quiet.tasks member)
  ended := stays
  settled entry member := (settled entry member).imp_right .inl

/-- All messages stay where they are. -/
theorem Tracks.rests {last : Channel τ} (tracks : Tracks visibility maxRedeliveries book d)
    (quiet : Channel.Quiet d.channel last) :
    Advances visibility maxRedeliveries book book d { d with channel := last } :=
  tracks.moves .refl .refl tracks.queue quiet fun _ member => .inl member

private theorem lastId_of_send {q next : MessageQueue} {payload : List UInt8}
    (sends : q.send? payload = some next) : next.lastId = q.lastId + 1 := by
  unfold MessageQueue.send? at sends
  split at sends
  · cases sends
  · cases sends
    rfl

private theorem Tracks.handOver (tracks : Tracks visibility maxRedeliveries book d) (ticket : Nat)
    {job : Job} (fits : job.Fits) :
    ∃ later, Advances visibility maxRedeliveries book later d (d.handOver ticket job) := by
  obtain ⟨steady, ⟨same, _⟩ | ⟨sends, _⟩⟩ := Channel.handOver_cases tracks.brokered ticket job
  · have unchanged :
        d.handOver ticket job = { d with channel := d.channel.handOver ticket job } := by
      simp [LoggedChannel.handOver, same]
    rw [unchanged]
    exact ⟨book, tracks.moves .refl steady (tracks.queue.trans same.symm) .refl
      fun _ member => .inl member⟩
  · have lastId := lastId_of_send sends
    have grown : d.handOver ticket job =
        { d with
          channel := d.channel.handOver ticket job
          published := d.published ++ [(d.channel.queue.lastId + 1, job)] } := by
      simp [LoggedChannel.handOver, lastId]
    rw [grown]
    rw [← tracks.queue] at sends ⊢
    have ids := (MessageLog.start_conserved.run tracks.run).lastId
    refine ⟨_, .single (.send sends), steady.brokered _ _ tracks.brokered, rfl, joined ?_, stays,
      fun _ member => .inl (steady.tasks ▸ member), stays, fun _ member => .inl member⟩
    exact ⟨fits, Nat.succ_pos _, by simp [ids]⟩

/-- A worker takes up the task that he found. -/
theorem Tracks.begin {moved : Channel τ} (tracks : Tracks visibility maxRedeliveries book d)
    (run : MessageLog.Run visibility book later) (steady : Channel.Steady d.channel moved)
    (queue : later.queue = moved.queue)
    (settled : ∀ entry ∈ later.settled,
      entry ∈ book.settled ∨ Job.ofPayload? entry.2.payload = none)
    (id : Nat) {task : Task} (delivered : Delivered later.delivered task) (wakes : Option Nat)
    (stage : τ) :
    Advances visibility maxRedeliveries book later d
      { d with channel := moved.occupy id (.busy task wakes stage), begun := d.begun ++ [task] } where
  run := run
  brokered := steady.brokered _ _ tracks.brokered
  queue := queue
  published := stays
  begun := joined delivered
  tasks other member := by
    rcases List.mem_append.mp (Channel.tasks_occupy moved id _ member) with new | old
    · exact .inr (List.mem_append_right _ new)
    · exact .inl (steady.tasks ▸ old)
  ended := stays
  settled entry member := (settled entry member).imp_right .inl

/-- A worker ends his task. -/
theorem Tracks.finish (tracks : Tracks visibility maxRedeliveries book d) (id : Nat) {task : Task}
    (inHand : task ∈ d.channel.tasks) (result : Except Fault Unit) :
    ∃ later, Advances visibility maxRedeliveries book later d
      { d with channel := d.channel.finish id task result, ended := d.ended ++ [(task, result)] } := by
  have quiet : Channel.Quiet d.channel (d.channel.occupy id .asking) :=
    Channel.quiet_occupy d.channel id rfl
  have brokered := quiet.brokered _ _ tracks.brokered
  obtain ⟨steady, later, run, queue, settled⟩ := exists_concluded brokered
    (tracks.queue.trans quiet.queue.symm) task result
  refine ⟨later, run, steady.brokered _ _ brokered, queue, stays, stays,
    fun _ member => .inl (quiet.tasks (steady.tasks ▸ member)), joined inHand, ?_⟩
  intro entry member
  refine (settled entry member).imp_right fun ⟨final, leased⟩ => .inr ?_
  exact ⟨(task, result), rfl, inHand, final, tracks.queue ▸ leased⟩

theorem Tracks.step (tracks : Tracks visibility maxRedeliveries book d) (step : Step d next) :
    ∃ later, Advances visibility maxRedeliveries book later d next := by
  have conserved := MessageLog.start_conserved.run tracks.run
  cases step with
  | handOver ticket fits => exact tracks.handOver ticket fits
  | withdraw ticket => exact ⟨book, tracks.rests (Channel.quiet_withdraw d.channel ticket)⟩
  | sendRaw sends =>
    obtain ⟨steady, sent⟩ := Channel.sendRaw?_cases sends
    rw [← tracks.queue] at sent
    exact ⟨_, tracks.moves (.single (.send sent)) steady rfl .refl fun _ member => .inl member⟩
  | closeBroker =>
    obtain ⟨steady, closed⟩ := Channel.closeBroker_cases tracks.brokered
    rw [← tracks.queue] at closed
    exact ⟨_, tracks.moves (.single .close) steady closed.symm .refl fun _ member => .inl member⟩
  | enlist crew => exact ⟨book, tracks.rests (Channel.quiet_enlist d.channel crew)⟩
  | register id => exact ⟨book, tracks.rests (Channel.quiet_register d.channel id)⟩
  | @look w order now works free ended nothing =>
    obtain ⟨steady, ⟨_, same⟩ | seen⟩ := Channel.fetchAfter_cases tracks.brokered order now w
    · exact ⟨book, tracks.moves .refl steady (tracks.queue.trans same.symm)
        (Channel.quiet_heed _ w.id nothing) fun _ member => .inl member⟩
    · rw [← tracks.queue] at seen ended
      obtain ⟨later, run, queue, settled, _⟩ := exists_seen conserved ended seen
      exact ⟨later, tracks.moves run steady queue (Channel.quiet_heed _ w.id nothing) settled⟩
  | @begin w order now task works free ended found wakes stage =>
    obtain ⟨steady, ⟨nothing, _⟩ | seen⟩ := Channel.fetchAfter_cases tracks.brokered order now w
    · rw [found] at nothing
      cases nothing
    · rw [← tracks.queue] at seen ended
      obtain ⟨later, run, queue, settled, delivered⟩ := exists_seen conserved ended seen
      have brought := delivered task (by rw [found]; rfl)
      exact ⟨later, tracks.begin run steady queue settled w.id brought wakes stage⟩
  | @goOn w task works busy wakes stage =>
    have inHand : task ∈ d.channel.tasks := List.mem_filterMap.mpr ⟨w, works, busy⟩
    refine ⟨book, tracks.rests (.of_supply rfl ?_)⟩
    intro other member
    rcases List.mem_append.mp (Channel.tasks_occupy _ _ _ member) with same | old
    · exact List.mem_singleton.mp same ▸ inHand
    · exact old
  | @finish w task works busy result =>
    exact tracks.finish w.id (List.mem_filterMap.mpr ⟨w, works, busy⟩) result
  | close => exact ⟨book, tracks.rests (Channel.quiet_close d.channel)⟩
  | turnAway => exact ⟨book, tracks.rests (Channel.quiet_turnAway d.channel)⟩
  | tell => exact ⟨book, tracks.rests (Channel.quiet_tell d.channel)⟩
  | claim => exact ⟨book, tracks.rests (Channel.quiet_claim d.channel)⟩
  | abort ids => exact ⟨book, tracks.rests (Channel.quiet_abort d.channel ids)⟩
  | arrange turns answers => exact ⟨book, tracks.rests (.of_supply rfl fun _ member => member)⟩

/-! ## Whole runs -/

theorem opening_tracks (visibility : Nat) (outages : Outages) (consumers maxRedeliveries : Nat)
    (grace : Time.Span) :
    Tracks visibility maxRedeliveries .start
      (opening (.broker visibility outages consumers maxRedeliveries grace) : LoggedChannel τ) where
  run := .refl
  brokered := ⟨.empty visibility, outages, rfl, rfl⟩
  queue := rfl
  published _ member := nomatch member
  begun _ member := nomatch member
  tasks _ member := nomatch member
  ended _ member := nomatch member
  settled _ member := nomatch member

theorem Tracks.exists_run (tracks : Tracks visibility maxRedeliveries book d) (run : Run d next) :
    ∃ later, Tracks visibility maxRedeliveries later next := by
  induction run with
  | refl => exact ⟨book, tracks⟩
  | tail _ last ih =>
    obtain ⟨before, tracks⟩ := ih
    obtain ⟨later, advances⟩ := tracks.step last
    exact ⟨later, tracks.advance advances⟩

/-- A message that was sent and is not at the broker is settled. -/
theorem Tracks.exists_settled_of_sent (tracks : Tracks visibility maxRedeliveries book d) {id : Nat}
    (sent : id ∈ List.range' 1 book.sent.length) (gone : ¬d.Holds id) :
    ∃ entry ∈ book.settled, entry.2.id = id := by
  have conserved := MessageLog.start_conserved.run tracks.run
  obtain ⟨m, member, rfl⟩ := List.mem_map.mp (conserved.accounted.placed.mem_iff.mpr sent)
  rcases List.mem_append.mp member with held | settled
  · exact absurd ⟨m, tracks.queue ▸ held, rfl⟩ gone
  · obtain ⟨entry, wasSettled, rfl⟩ := List.mem_map.mp settled
    exact ⟨entry, wasSettled, rfl⟩

/-- A published job that is not at the broker is settled, and its message has its payload. -/
theorem Tracks.exists_settled (tracks : Tracks visibility maxRedeliveries book d) {id : Nat}
    {job : Job} (published : (id, job) ∈ d.published) (gone : ¬d.Holds id) :
    ∃ entry ∈ book.settled, entry.2.id = id := by
  obtain ⟨_, positive, sent⟩ := tracks.published _ published
  have inside : id - 1 < book.sent.length := (List.getElem?_eq_some_iff.mp sent).1
  refine tracks.exists_settled_of_sent ?_ gone
  rw [List.mem_range'_1]
  omega

/-- What is at the broker is not settled. -/
theorem Tracks.not_settled_of_holds (tracks : Tracks visibility maxRedeliveries book d)
    {entry : String × Message} (held : d.Holds entry.2.id) : entry ∉ book.settled := by
  intro settled
  obtain ⟨m, member, same⟩ := held
  have ids := (MessageLog.start_conserved.run tracks.run).ids_nodup
  rw [MessageLog.messages, List.map_append, tracks.queue] at ids
  have apart := (List.nodup_append.mp ids).2.2
  exact apart m.id (List.mem_map_of_mem member) entry.2.id
    (List.mem_map_of_mem (List.mem_map_of_mem settled)) same

/-- A task that was delivered with the message of a published job has that job. -/
theorem Tracks.job_eq (tracks : Tracks visibility maxRedeliveries book d) {id : Nat} {job : Job}
    (published : (id, job) ∈ d.published) {task : Task} (begun : task ∈ d.begun) {m : Message}
    (delivery : task.delivery = some m) (named : m.id = id) : task.job = job := by
  have conserved := MessageLog.start_conserved.run tracks.run
  obtain ⟨fits, _, sent⟩ := tracks.published _ published
  obtain ⟨same, delivered, is, reads⟩ := tracks.begun task begun
  cases delivery.symm.trans is
  have payload := conserved.payload_eq (List.mem_append_right _ delivered) (named ▸ sent)
  rw [payload, Job.ofPayload?_payload fits] at reads
  exact (Option.some.inj reads).symm

/-- The payload of a settled message that is a published job can be read. -/
theorem Tracks.readable (tracks : Tracks visibility maxRedeliveries book d) {job : Job}
    {entry : String × Message} (settled : entry ∈ book.settled)
    (published : (entry.2.id, job) ∈ d.published) : Job.ofPayload? entry.2.payload ≠ none := by
  have conserved := MessageLog.start_conserved.run tracks.run
  obtain ⟨fits, _, sent⟩ := tracks.published _ published
  have member : entry.2 ∈ book.messages ++ book.delivered :=
    List.mem_append_left _ (List.mem_append_right _ (List.mem_map_of_mem settled))
  rw [conserved.payload_eq member sent, Job.ofPayload?_payload fits]
  exact Option.some_ne_none job

/-- A task that ended under the receipt of a settled message was a delivery of that message. -/
theorem Tracks.task_eq (tracks : Tracks visibility maxRedeliveries book d) {job : Job}
    {entry : String × Message} (settled : entry ∈ book.settled)
    (published : (entry.2.id, job) ∈ d.published) {e : Task × Except Fault Unit}
    (begun : e.1 ∈ d.begun) (final : Final maxRedeliveries entry.1 e) :
    ∃ m, e.1 = ⟨job, some m⟩ ∧ m.id = entry.2.id ∧ m.receipt = entry.1 ∧
      Channel.isFinal maxRedeliveries m.attempt e.2 = true := by
  obtain ⟨m, delivery, receipt, final⟩ := final
  have sameId : m.id = entry.2.id := by
    rw [(MessageLog.start_conserved.run tracks.run).named entry settled] at receipt
    exact receiptText_id receipt
  have job := tracks.job_eq published begun delivery sameId
  refine ⟨m, ?_, sameId, receipt, final⟩
  rw [← job, ← delivery]

end Tracking

/-- A handler went well, or met a fault that no later attempt can mend, or one on a delivery after
which no other one follows. -/
def Finished (maxRedeliveries attempt : Nat) (result : Except Fault Unit) : Prop :=
  result = .ok () ∨
    ∃ fault, result = .error fault ∧ (fault.isTerminal = true ∨ maxRedeliveries < attempt)

theorem isFinal_iff {maxRedeliveries attempt : Nat} {result : Except Fault Unit} :
    Channel.isFinal maxRedeliveries attempt result = true ↔
      Finished maxRedeliveries attempt result := by
  cases result with
  | ok done => simp [Channel.isFinal, Finished]
  | error fault => simp [Channel.isFinal, Finished]

/-- A published job is at the broker until a worker ends a task for it that was finished, under the
receipt by which the job is leased at that moment. -/
theorem holds_until_finished {visibility consumers maxRedeliveries : Nat} {outages : Outages}
    {grace : Time.Span} {d : LoggedChannel τ}
    (run : Run (opening (.broker visibility outages consumers maxRedeliveries grace)) d) {id : Nat}
    {job : Job} (published : (id, job) ∈ d.published) :
    (d.Holds id ∨ ∃ m result, (⟨job, some m⟩, result) ∈ d.ended ∧ m.id = id ∧
      Finished maxRedeliveries m.attempt result) ∧
    (∀ next, Step d next → d.Holds id → ¬next.Holds id →
      ∃ m result, next.ended = d.ended ++ [(⟨job, some m⟩, result)] ∧
        ⟨job, some m⟩ ∈ d.channel.tasks ∧ m.id = id ∧ Finished maxRedeliveries m.attempt result ∧
        ∃ lease ∈ d.channel.queue.leases, lease.receipt = m.receipt ∧ lease.message.id = id) ∧
    ∀ task ∈ d.begun, ∀ m, task.delivery = some m → m.id = id → task.job = job := by
  obtain ⟨book, tracks⟩ :=
    (opening_tracks visibility outages consumers maxRedeliveries grace).exists_run run
  refine ⟨?_, ?_, fun task begun m delivery named => tracks.job_eq published begun delivery named⟩
  · refine or_iff_not_imp_left.mpr fun gone => ?_
    obtain ⟨entry, settled, rfl⟩ := tracks.exists_settled published gone
    rcases tracks.settled entry settled with unread | ⟨e, ended, final⟩
    · exact absurd unread (tracks.readable settled published)
    · obtain ⟨m, is, named, _, final⟩ :=
        tracks.task_eq settled published (tracks.ended e ended) final
      exact ⟨m, e.2, is ▸ ended, named, isFinal_iff.mp final⟩
  · intro next step held gone
    obtain ⟨later, advances⟩ := tracks.step step
    have tracksToo := tracks.advance advances
    have publishedToo := advances.published.1 published
    obtain ⟨entry, settled, rfl⟩ := tracksToo.exists_settled publishedToo gone
    rcases advances.settled entry settled with old | unread | ⟨e, ends, inHand, final, leased⟩
    · exact absurd old (tracks.not_settled_of_holds held)
    · exact absurd unread (tracksToo.readable settled publishedToo)
    · obtain ⟨m, is, named, receipt, final⟩ := tracksToo.task_eq settled publishedToo
        (advances.begun.1 (tracks.tasks inHand)) final
      obtain ⟨lease, leased, under, message⟩ := leased
      exact ⟨m, e.2, is ▸ ends, is ▸ inHand, named, isFinal_iff.mp final, lease, leased,
        under.trans receipt.symm, by rw [message]⟩

/-! ## A delivery that comes too late -/

def errand : Job := ⟨7⟩

def errandTask (attempt : Nat) : Task := ⟨errand, some ⟨1, errand.payload, attempt⟩⟩

/-- A broker that hides a job for five moments and redelivers it once. -/
def bench : LoggedChannel Unit := opening (.broker 5 .none 2 1 .zero)

def clerk (id : Nat) (occupation : Occupation Unit) : Worker Unit := ⟨id, 0, occupation, false⟩

def staffed : LoggedChannel Unit :=
  { bench.handOver 0 errand with channel := (bench.handOver 0 errand).channel.hire 0 }

def takeUp (id now : Nat) (task : Task) (d : LoggedChannel Unit) : LoggedChannel Unit :=
  { d with
    channel := (d.channel.fetchAfter (d.channel.queue.expired now) now (clerk id .asking)).2.occupy id
      (.busy task none ())
    begun := d.begun ++ [task] }

/-- Two workers begin. -/
theorem run_hire {d : LoggedChannel τ} (two : d.channel.crewSize = 2) (crew : Nat) :
    Run d { d with channel := d.channel.hire crew } := by
  rw [Channel.hire, two]
  exact .head (.enlist crew) (.head (.register _) (.head (.enlist crew) (.single (.register _))))

theorem takeUp_workers (id now : Nat) (task : Task) (d : LoggedChannel Unit) :
    (d.takeUp id now task).channel.workers = d.channel.workers.map fun w =>
      if w.id = id then { w with occupation := .busy task none () } else w := by
  rw [← Channel.fetchAfter_workers d.channel (d.channel.queue.expired now) now (clerk id .asking)]
  rfl

/-- The first worker is so slow that the second one takes up the job as well. -/
def doubled : LoggedChannel Unit := (staffed.takeUp 0 0 (errandTask 1)).takeUp 1 9 (errandTask 2)

def belated : LoggedChannel Unit :=
  { doubled with
    channel := (doubled.channel.finish 0 (errandTask 1) (.ok ())).abort [0]
    ended := [(errandTask 1, .ok ())] }

def buried : LoggedChannel Unit :=
  { belated with
    channel := belated.channel.finish 1 (errandTask 2) (.error (.network "reset"))
    ended := belated.ended ++ [(errandTask 2, .error (.network "reset"))] }

theorem doubled_workers : doubled.channel.workers =
    [clerk 0 (.busy (errandTask 1) none ()), clerk 1 (.busy (errandTask 2) none ())] := by
  rw [doubled, takeUp_workers, takeUp_workers]
  rfl

theorem run_belated : Run bench belated := by
  have publishes : Step bench (bench.handOver 0 errand) := .handOver 0 ⟨by decide, by decide⟩
  have hires : Run (bench.handOver 0 errand) staffed := run_hire rfl 0
  have begins : Step staffed (staffed.takeUp 0 0 (errandTask 1)) :=
    @Step.begin _ staffed (clerk 0 .asking) [] 0 (errandTask 1) List.mem_cons_self rfl (.refl _)
      (by decide +kernel) none ()
  have still : clerk 1 .asking ∈ (staffed.takeUp 0 0 (errandTask 1)).channel.workers := by
    rw [takeUp_workers]
    exact List.mem_cons_of_mem _ List.mem_cons_self
  have again : Step (staffed.takeUp 0 0 (errandTask 1)) doubled :=
    @Step.begin _ _ (clerk 1 .asking) _ 9 (errandTask 2) still rfl (.refl _) (by decide +kernel)
      none ()
  have works : clerk 0 (.busy (errandTask 1) none ()) ∈ doubled.channel.workers := by
    rw [doubled_workers]
    exact List.mem_cons_self
  have ends := Step.finish works rfl (.ok ())
  have leaves := Step.abort (d := { doubled with
    channel := doubled.channel.finish 0 (errandTask 1) (.ok ())
    ended := [(errandTask 1, .ok ())] }) [0]
  exact .head publishes (hires.trans (.head begins (.head again (.head ends (.single leaves)))))

/-- The first end comes under an outdated receipt and leaves the job at the broker, as does the
abort; the second one takes it away. -/
theorem belated_finished :
    Run bench belated ∧ (1, errand) ∈ belated.published ∧ belated.Holds 1 ∧
      Step belated buried ∧ ¬buried.Holds 1 ∧
      ∃ m result, buried.ended = belated.ended ++ [(⟨errand, some m⟩, result)] ∧
        ⟨errand, some m⟩ ∈ belated.channel.tasks ∧ m.id = 1 ∧ Finished 1 m.attempt result ∧
        ∃ lease ∈ belated.channel.queue.leases, lease.receipt = m.receipt ∧ lease.message.id = 1 := by
  have published : (1, errand) ∈ belated.published := by decide
  have held : belated.Holds 1 := by
    unfold Holds
    decide +kernel
  have works : clerk 1 (.busy (errandTask 2) none ()) ∈ belated.channel.workers := by
    change _ ∈ (doubled.channel.finish 0 (errandTask 1) (.ok ())).workers.filter (·.id != 0)
    rw [Channel.finish_workers, Channel.occupy, doubled_workers]
    exact List.mem_cons_self
  have ends : Step belated buried := .finish works rfl _
  have gone : ¬buried.Holds 1 := by
    unfold Holds
    decide +kernel
  obtain ⟨_, removes, _⟩ := holds_until_finished run_belated published
  exact ⟨run_belated, published, held, ends, gone, removes buried ends held gone⟩

end LoggedChannel

end FeedIngest.Delivery
