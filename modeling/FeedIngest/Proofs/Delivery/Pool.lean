import Mathlib.Data.List.Perm.Basic
import FeedIngest.Proofs.Delivery.LiveChannel

/-!
# Worker pools

A pool holds a bounded number of jobs, and a bounded number of workers have one in hand. Whatever
the order in which publishers, workers and handlers act, each accepted job is handed to one handler
once, in the order in which the jobs were accepted. Once the pool was dropped, its workers handle
what is left in the queue, and then they end.
-/

set_option autoImplicit false

namespace FeedIngest.Delivery

variable {τ : Type}

/-! ## The steps of a channel that has a queue of jobs -/

namespace Channel

def told (answers : List (Nat × Except Fault Unit)) : List Nat :=
  answers.filterMap fun a => match a.2 with
    | .ok () => some a.1
    | .error _ => none

section Pool

variable {c : Channel τ} {queue : JobQueue} (is : c.supply = .pool queue)
include is

theorem handOver_refused (closed : queue.closed = true) (full : queue.isFull = true) (ticket : Nat)
    (job : Job) : c.handOver ticket job = c.answer ticket (.error .channelClosed) := by
  unfold handOver
  rw [is]
  simp only [JobQueue.offer, full, Bool.not_true, Bool.false_eq_true, if_false, closed, if_true]
  rw [← is]

theorem handOver_waits (openToAll : queue.closed = false) (full : queue.isFull = true)
    (ticket : Nat) (job : Job) : c.handOver ticket job =
      { c with supply := .pool { queue with blocked := queue.blocked ++ [⟨ticket, job⟩] } } := by
  unfold handOver
  rw [is]
  simp [JobQueue.offer, openToAll, full]

theorem handOver_accepted (room : queue.isFull = false) (ticket : Nat) (job : Job) :
    c.handOver ticket job =
      ({ c with supply := .pool { queue with jobs := queue.jobs ++ [job] } }.answer ticket
        (.ok ())).call c.waiting := by
  unfold handOver
  rw [is]
  simp [JobQueue.offer, room]

private theorem publish_of_open (openToAll : c.closed = false) (queueToo : queue.closed = false)
    (ticket : Nat) (job : Job) : c.publish ticket job = c.handOver ticket job := by
  refine if_pos ?_
  rw [admits, is]
  simp [openToAll, queueToo]

theorem supply_dismiss (id : Nat) : (c.dismiss id).supply = .pool queue := by
  simp only [dismiss, is]

theorem supply_abort (ids : List Nat) : (c.abort ids).supply = .pool queue := by
  induction ids generalizing c with
  | nil => exact is
  | cons id ids ih => exact ih (supply_dismiss is id)

theorem fetchAfter_nothing {order : List Lease} {now : Nat} {w : Worker τ}
    (stays : w.dismissed = false) (nothing : (c.fetchAfter order now w).1.task? = none) :
    queue.jobs = [] ∧ c.fetchAfter order now w = (if queue.isOver then .ends else .waits, c) := by
  unfold fetchAfter at nothing ⊢
  rw [is] at nothing ⊢
  simp only [stays, Bool.false_eq_true, if_false] at nothing ⊢
  cases jobs : queue.jobs with
  | nil => simp only [JobQueue.next?, jobs, true_and]
  | cons job jobs => simp [JobQueue.next?, jobs, Fetch.task?] at nothing

theorem conclude_pool (task : Task) (result : Except Fault Unit) : c.conclude task result = c := by
  unfold conclude
  rw [is]

end Pool

/-- The fetch of a worker is the taking of a job, and then the entry of who was promised its place.
-/
theorem fetchAfter_takes {c : Channel τ} {queue rest : JobQueue} {job : Job}
    (is : c.supply = .pool queue) (first : queue.next? = some (job, rest)) {w : Worker τ}
    (stays : w.dismissed = false) (order : List Lease) (now : Nat) :
    c.fetchAfter order now w = (.task ⟨job, none⟩, { c with supply := .pool rest }.letIn) := by
  unfold fetchAfter
  rw [is]
  simp [stays, first]

end Channel

/-! ## What a step does to the queue -/

namespace LiveChannel

variable {d next : LiveChannel τ} {queue : JobQueue}

/-- The queue of a pool stays open or closed, or is closed with the pool when no call is under way.
-/
def Closes (queue after : JobQueue) (d next : LiveChannel τ) : Prop :=
  after.closed = queue.closed ∧ next.channel.closed = d.channel.closed ∨
    (after.closed = true ∧ next.channel.closed = true) ∧ next.NoneComes ∧ next.publishing = []

/-- The way of a job through the queue: it is accepted in the end, or taken from the front. -/
inductive Flow (queue : JobQueue) (d next : LiveChannel τ) : Prop where
  | keeps (blocked : List Publisher) (closed : Bool)
      (supply : next.channel.supply = .pool { queue with blocked, closed })
      (closes : Closes queue { queue with closed } d next)
      (fewer : queue.closed = true → blocked.length ≤ queue.blocked.length)
      (accepted : next.accepted = d.accepted)
      (handed : next.handed.map (·.task) = d.handed.map (·.task))
      (told : Channel.told next.channel.answers = Channel.told d.channel.answers)
  | accepts (p : Publisher) (blocked : List Publisher) (room : queue.jobs.length < queue.capacity)
      (supply : next.channel.supply =
        .pool { queue with jobs := queue.jobs ++ [p.job], blocked })
      (closed : next.channel.closed = d.channel.closed)
      (fewer : queue.closed = true → blocked.length < queue.blocked.length)
      (accepted : next.accepted = d.accepted ++ [p]) (handed : next.handed = d.handed)
      (told : Channel.told next.channel.answers = Channel.told d.channel.answers ++ [p.ticket])
  | takes (job : Job) (jobs : List Job) (first : queue.jobs = job :: jobs)
      (supply : next.channel.supply = .pool { queue with jobs })
      (closed : next.channel.closed = d.channel.closed) (accepted : next.accepted = d.accepted)
      (handed : next.handed.map (·.task) = d.handed.map (·.task) ++ [⟨job, none⟩])
      (told : Channel.told next.channel.answers = Channel.told d.channel.answers)

theorem Flow.same (supply : next.channel.supply = .pool queue)
    (closed : next.channel.closed = d.channel.closed) (accepted : next.accepted = d.accepted)
    (handed : next.handed.map (·.task) = d.handed.map (·.task))
    (told : Channel.told next.channel.answers = Channel.told d.channel.answers) :
    Flow queue d next :=
  .keeps queue.blocked queue.closed supply (.inl ⟨rfl, closed⟩) (fun _ => Nat.le_refl _) accepted
    handed told

private theorem handOver_flow (is : d.channel.supply = .pool queue)
    (openToAll : queue.closed = false) (p : Publisher) : Flow queue d (d.handOver p) := by
  cases full : queue.isFull with
  | true =>
    have waits := Channel.handOver_waits is openToAll full p.ticket p.job
    refine .keeps (queue.blocked ++ [p]) queue.closed ?_ (.inl ⟨rfl, ?_⟩) ?_ ?_ rfl ?_
    · simp only [handOver, hear, waits]
    · simp only [handOver, hear, waits]
    · simp [openToAll]
    · simp [handOver, hear, waits]
    · simp only [handOver, hear, waits]
  | false =>
    have accepts := Channel.handOver_accepted is full p.ticket p.job
    have room : queue.jobs.length < queue.capacity := by
      simp only [JobQueue.isFull, decide_eq_false_iff_not, Nat.not_le] at full
      omega
    refine .accepts p queue.blocked room ?_ ?_ ?_ ?_ rfl ?_
    · simp only [handOver, hear, accepts]
      rfl
    · simp only [handOver, hear, accepts]
      rfl
    · simp [openToAll]
    · simp [handOver, hear, accepts, Channel.answer, Channel.call]
    · simp [handOver, hear, accepts, Channel.answer, Channel.call, Channel.told]

private theorem enter_flow (is : d.channel.supply = .pool queue) {p : Publisher}
    (promised : p ∈ d.channel.promised) : Flow queue d (d.enter p) := by
  rw [Channel.promised, is] at promised
  have among : p ∈ queue.blocked := List.mem_of_mem_take promised
  have room : queue.jobs.length < queue.capacity := by
    have some : 0 < (queue.blocked.take (queue.capacity - queue.jobs.length)).length :=
      List.length_pos_of_mem promised
    rw [List.length_take] at some
    omega
  have enters : d.channel.enter p =
      { d.channel with supply := .pool (queue.enter p) }.answer p.ticket (.ok ()) := by
    rw [Channel.enter, is]
  refine .accepts p (queue.blocked.erase p) room ?_ ?_ (fun _ => ?_) rfl rfl ?_
  · simp only [enter, enters]
    rfl
  · simp only [enter, enters]
    rfl
  · have some := List.length_pos_of_mem among
    rw [List.length_erase_of_mem among]
    omega
  · simp [enter, enters, Channel.answer, Channel.told]

private theorem look_flow (is : d.channel.supply = .pool queue) {w : Worker τ}
    (stays : w.dismissed = false) {order : List Lease}
    (nothing : (d.channel.fetchAfter order d.now w).1.task? = none) :
    Flow queue d { d with
      channel := (d.channel.fetchAfter order d.now w).2.heed w.id
        (d.channel.fetchAfter order d.now w).1 } := by
  obtain ⟨_, found⟩ := Channel.fetchAfter_nothing is stays nothing
  rw [found]
  split
  · exact .same (Channel.supply_dismiss is w.id) rfl rfl rfl rfl
  · exact .same is rfl rfl rfl rfl

private theorem finish_flow (is : d.channel.supply = .pool queue) (id : Nat) (task : Task)
    (result : Except Fault Unit) : Flow queue d (d.finish id task result) := by
  have concluded := Channel.conclude_pool (c := d.channel.occupy id .asking) is task result
  refine .same ?_ ?_ rfl ?_ ?_
  · simp only [finish, Channel.finish, concluded]
    exact is
  · simp only [finish, Channel.finish, concluded]
    rfl
  · simp only [finish, List.map_map]
    refine List.map_congr_left fun h _ => ?_
    exact (Handling.endedBy_worker id d.now result h).2
  · simp only [finish, Channel.finish, concluded]
    rfl

theorem Step.calls_eq_nil (step : Step d next) (unstopped : next.calls = []) : d.calls = [] := by
  rcases step.calls_cases with calls | ⟨new, calls⟩ | ⟨i, call, f, found, _, calls⟩
  · exact calls ▸ unstopped
  · rw [unstopped] at calls
    exact absurd calls.symm (by simp)
  · have here : next.calls[i]? = some (f call) := calls ▸ modify_self found
    rw [unstopped] at here
    cases here

theorem Step.flow (step : Step d next) (is : d.channel.supply = .pool queue)
    (stay : ∀ w ∈ d.channel.workers, w.dismissed = false)
    (shut : queue.closed = true → d.publishing = []) (unstopped : next.calls = []) :
    Flow queue d next := by
  have none : ∀ {i : Nat} {call : StopCall}, d.calls = [] → d.calls[i]? ≠ some call := by
    intro i call empty found
    rw [empty] at found
    cases found
  cases step with
  | approach => exact .same is rfl rfl rfl rfl
  | refuse ticket => exact .same is rfl rfl rfl (by simp [Channel.answer, Channel.told])
  | handOver among =>
    refine handOver_flow is (Bool.eq_false_iff.mpr fun closed => ?_) _
    rw [shut closed] at among
    cases among
  | withdraw ticket =>
    refine .keeps (queue.withdraw ticket).blocked queue.closed ?_ (.inl ⟨rfl, ?_⟩) ?_ rfl rfl ?_
    · rw [LiveChannel.withdraw, Channel.withdraw, is]
      rfl
    · rw [LiveChannel.withdraw, Channel.withdraw, is]
    · exact fun _ => List.length_filter_le _ _
    · rw [LiveChannel.withdraw, Channel.withdraw, is]
  | wake found closed isToo waits =>
    exact absurd found (none (Step.calls_eq_nil (.wake found closed isToo waits) unstopped))
  | enter promised => exact enter_flow is promised
  | sendRaw sends =>
    rw [Channel.sendRaw?, is] at sends
    cases sends
  | closeBroker =>
    have same : d.channel.closeBroker = d.channel := by
      rw [Channel.closeBroker, is]
    rw [same]
    exact .same is rfl rfl rfl rfl
  | consume => exact .same is rfl rfl rfl rfl
  | enlist =>
    refine .same ?_ rfl rfl rfl rfl
    rw [LiveChannel.enlist, Channel.enlist, is]
  | register => exact .same is rfl rfl rfl rfl
  | look works free ended nothing => exact look_flow is (stay _ works) nothing
  | @take w own rest job works free stays isToo first wakes stage =>
    rw [is] at isToo
    cases isToo
    cases jobs : queue.jobs with
    | nil => simp [JobQueue.next?, jobs] at first
    | cons head tail =>
      simp only [JobQueue.next?, jobs, Option.some.injEq, Prod.mk.injEq] at first
      obtain ⟨rfl, rfl⟩ := first
      refine .takes head tail jobs rfl rfl rfl ?_ rfl
      rw [takeUp, List.map_append]
      rfl
  | begin works free ended apart => exact absurd is (apart queue)
  | goOn works busy wakes stage => exact .same is rfl rfl rfl rfl
  | finish works busy result => exact finish_flow is _ _ _
  | abandon noneComes nobody =>
    have dropped : d.channel.abandon =
        { d.channel with supply := .pool queue.abandon, closed := true }.call d.channel.waiting := by
      rw [Channel.abandon, is]
    rw [dropped]
    exact .keeps queue.blocked true rfl (.inr ⟨⟨rfl, rfl⟩, ⟨noneComes.1, noneComes.2⟩, nobody⟩)
      (fun _ => Nat.le_refl _) rfl rfl rfl
  | stop => exact absurd unstopped (by simp [LiveChannel.stop])
  | turnAway found closed =>
    exact absurd found (none (Step.calls_eq_nil (.turnAway found closed) unstopped))
  | tell found turnedAway =>
    exact absurd found (none (Step.calls_eq_nil (.tell found turnedAway) unstopped))
  | claim found told => exact absurd found (none (Step.calls_eq_nil (.claim found told) unstopped))
  | drained found waits ended =>
    exact absurd found (none (Step.calls_eq_nil (.drained found waits ended) unstopped))
  | giveUp found waits late =>
    exact absurd found (none (Step.calls_eq_nil (.giveUp found waits late) unstopped))
  | pass still => exact .same is rfl rfl rfl rfl

/-- What a worker does who fetches a job is a run of such steps. -/
theorem run_fetchAfter (is : d.channel.supply = .pool queue) {w : Worker τ}
    (works : w ∈ d.channel.workers) (free : w.occupation.isFreeAt d.now = true)
    (stays : w.dismissed = false) {rest : JobQueue} {job : Job}
    (first : queue.next? = some (job, rest)) (order : List Lease) (wakes : Option Nat) (stage : τ) :
    ∃ next, Run d next ∧ next.channel =
      (d.channel.fetchAfter order d.now w).2.occupy w.id (.busy ⟨job, none⟩ wakes stage) := by
  have taken : Run d _ := .single (.take works free stays is first wakes stage)
  rw [Channel.fetchAfter_takes is first stays, Channel.letIn]
  cases promised : (Channel.promised { d.channel with supply := .pool rest }).head? with
  | none => exact ⟨_, taken, rfl⟩
  | some p => exact ⟨_, taken.tail (.enter (List.mem_of_head? promised)), rfl⟩

/-! ## What a step does to the crew -/

def planned (d : LiveChannel τ) : Nat := d.channel.hired + d.recruits.length

/-- A worker of a pool goes on, or is newly occupied; nobody rests. -/
inductive Crew (queue : JobQueue) (d next : LiveChannel τ) : Prop where
  | stays (ids : next.channel.ids = d.channel.ids) (hired : next.channel.hired = d.channel.hired)
      (workers : ∀ w ∈ next.channel.workers, ∃ old ∈ d.channel.workers,
        w.dismissed = old.dismissed ∧
          (w.occupation = old.occupation ∨ ∀ wakes, w.occupation ≠ .resting wakes))
      (planned : next.planned = d.planned ∨ d.planned = 0 ∧ next.planned = d.channel.crewSize)
  | enlists (crew : Nat) (comes : crew ∈ d.recruits) (is : next = d.enlist crew)
  | leaves (id : Nat) (jobs : queue.jobs = []) (noMore : queue.isOver = true)
      (channel : next.channel = d.channel.dismiss id) (recruits : next.recruits = d.recruits)

theorem Crew.of_workers (workers : next.channel.workers = d.channel.workers)
    (hired : next.channel.hired = d.channel.hired) (recruits : next.recruits = d.recruits) :
    Crew queue d next := by
  refine .stays ?_ hired ?_ (.inl ?_)
  · rw [Channel.ids, workers, Channel.ids]
  · intro w works
    exact ⟨w, workers ▸ works, rfl, .inl rfl⟩
  · rw [planned, hired, recruits, planned]

private theorem Crew.of_delivers (moved : d.channel.Delivers next.channel)
    (recruits : next.recruits = d.recruits) : Crew queue d next :=
  .of_workers moved.workers moved.keeps.hired recruits

private theorem Crew.of_occupy {channel : Channel τ} {id : Nat} {occupation : Occupation τ}
    (moved : d.channel.Delivers channel) (awake : ∀ wakes, occupation ≠ .resting wakes)
    (after : (channel.occupy id occupation).Delivers next.channel)
    (recruits : next.recruits = d.recruits) : Crew queue d next := by
  have hired : next.channel.hired = d.channel.hired := by
    rw [after.keeps.hired, (Channel.keeps_occupy channel id occupation).hired, moved.keeps.hired]
  refine .stays ?_ hired ?_ (.inl ?_)
  · rw [Channel.ids, after.workers, Channel.occupy_ids, moved.workers, Channel.ids]
  · intro w works
    rw [after.workers] at works
    obtain ⟨old, worked, rfl⟩ := List.mem_map.mp works
    refine ⟨old, moved.workers ▸ worked, ?_⟩
    by_cases here : old.id = id
    · rw [if_pos here]
      exact ⟨rfl, .inr awake⟩
    · rw [if_neg here]
      exact ⟨rfl, .inl rfl⟩
  · rw [planned, hired, recruits, planned]

/-- The first call to consume starts the crew, and each other one nobody. -/
theorem planned_consume (is : d.channel.supply = .pool queue) (crew : Nat) :
    (d.consume crew).planned = d.planned ∨
      d.planned = 0 ∧ (d.consume crew).planned = d.channel.crewSize := by
  have length : (d.consume crew).planned = d.planned + d.vacancies := by
    rw [planned, consume, List.length_append, List.length_replicate, ← Nat.add_assoc, planned]
  rw [length]
  unfold vacancies
  rw [is]
  dsimp only
  split
  · next first =>
    have nobody : d.planned = 0 := by rw [planned, first.1, first.2, List.length_nil]
    exact .inr ⟨nobody, by rw [nobody, Nat.zero_add]⟩
  · exact .inl (Nat.add_zero _)

private theorem planned_enlist {crew : Nat} (comes : crew ∈ d.recruits) :
    (d.enlist crew).planned = d.planned := by
  have some := List.length_pos_of_mem comes
  show d.channel.hired + 1 + (d.recruits.erase crew).length = _
  rw [List.length_erase_of_mem comes, planned]
  omega

theorem Step.crew (step : Step d next) (is : d.channel.supply = .pool queue)
    (stay : ∀ w ∈ d.channel.workers, w.dismissed = false) (unstopped : next.calls = []) :
    Crew queue d next := by
  cases step with
  | approach => exact .of_workers rfl rfl rfl
  | refuse => exact .of_workers rfl rfl rfl
  | handOver => exact .of_delivers (d.channel.handOver_delivers _ _) rfl
  | withdraw ticket => exact .of_delivers (d.channel.withdraw_delivers ticket) rfl
  | @wake _ _ _ p => exact .of_delivers (d.channel.withdraw_delivers p.ticket) rfl
  | enter => exact .of_delivers (d.channel.enter_delivers _) rfl
  | sendRaw sends => exact .of_delivers (d.channel.sendRaw?_delivers sends) rfl
  | closeBroker => exact .of_delivers d.channel.closeBroker_delivers rfl
  | consume crew =>
    exact .stays rfl rfl (fun w works => ⟨w, works, rfl, .inl rfl⟩) (planned_consume is crew)
  | enlist comes => exact .enlists _ comes rfl
  | register => exact .of_workers rfl rfl rfl
  | @look w order works free ended nothing =>
    obtain ⟨jobs, found⟩ := Channel.fetchAfter_nothing is (stay _ works) nothing
    cases noMore : queue.isOver with
    | true =>
      rw [noMore, if_pos rfl] at found
      rw [found]
      exact .leaves w.id jobs noMore rfl rfl
    | false =>
      rw [noMore, if_neg Bool.false_ne_true] at found
      rw [found]
      exact .of_occupy (.refl _) (by nofun) (.refl _) rfl
  | take works free stays isToo first wakes stage =>
    exact .of_occupy (.of_supply (by rw [is]; rfl)) (by nofun) (.refl _) rfl
  | begin works free ended apart => exact absurd is (apart queue)
  | goOn works busy wakes stage => exact .of_occupy (.refl _) (by nofun) (.refl _) rfl
  | finish works busy result =>
    exact .of_occupy (.refl _) (by nofun) (d.channel.finish_delivers _ _ _) rfl
  | abandon =>
    refine .of_workers ?_ ?_ rfl <;>
    · unfold Channel.abandon
      split <;> rfl
  | stop => exact absurd unstopped (by simp [LiveChannel.stop])
  | turnAway => exact .of_delivers d.channel.turnAway_delivers rfl
  | tell found turnedAway =>
    have unstoppedBefore := Step.calls_eq_nil (.tell found turnedAway) unstopped
    rw [unstoppedBefore] at found
    cases found
  | claim => exact .of_workers rfl rfl rfl
  | drained => exact .of_workers rfl rfl rfl
  | giveUp found waits late =>
    have unstoppedBefore := Step.calls_eq_nil (.giveUp found waits late) unstopped
    rw [unstoppedBefore] at found
    cases found
  | pass still => exact .of_workers rfl rfl rfl

/-! ## Pools that nobody stops -/

/-- Each accepted job was handed to a handler or is in the queue, in the order of acceptance.
Workers leave only when nothing is left and nothing can come. -/
structure Pooled (crewSize capacity : Nat) (queue : JobQueue) (d : LiveChannel τ) : Prop where
  supply : d.channel.supply = .pool queue
  roomy : queue.capacity = capacity
  places : queue.jobs.length ≤ capacity
  crew : d.channel.crewSize = crewSize
  planned : d.planned = 0 ∨ d.planned = crewSize
  stay : ∀ w ∈ d.channel.workers, w.dismissed = false
  awake : ∀ w ∈ d.channel.workers, ∀ wakes, w.occupation ≠ .resting wakes
  closed : queue.closed = d.channel.closed
  shut : d.channel.closed = true → d.NoneComes ∧ d.publishing = []
  accepted : d.accepted.map (·.job) = d.handed.map (·.task.job) ++ queue.jobs
  told : Channel.told d.channel.answers = d.accepted.map (·.ticket)
  left : d.channel.ids.length < d.channel.hired → queue.jobs = [] ∧ queue.isOver = true

theorem opening_pooled (workers capacity : Nat) (grace : Time.Span) :
    Pooled (max workers 1) (max capacity 1) (.empty capacity)
      (opening (.pool workers capacity grace) : LiveChannel τ) where
  supply := rfl
  roomy := rfl
  places := Nat.zero_le _
  crew := rfl
  planned := .inl rfl
  stay _ works := nomatch works
  awake _ works := nomatch works
  closed := rfl
  shut := nofun
  accepted := rfl
  told := rfl
  left fewer := absurd fewer (Nat.lt_irrefl 0)

section Pooled

variable {crewSize capacity : Nat}

private theorem handed_jobs {handed more : List Handling} {tasks : List Task}
    (same : more.map (·.task) = handed.map (·.task) ++ tasks) :
    more.map (·.task.job) = handed.map (·.task.job) ++ tasks.map (·.job) := by
  have jobs := congrArg (List.map Task.job) same
  rw [List.map_append, List.map_map, List.map_map] at jobs
  exact jobs

private theorem Pooled.flow (pooled : Pooled crewSize capacity queue d) (flow : Flow queue d next) :
    ∃ after : JobQueue, next.channel.supply = .pool after ∧ after.capacity = capacity ∧
      after.jobs.length ≤ capacity ∧ after.closed = next.channel.closed ∧
      (next.channel.closed = d.channel.closed ∨ next.NoneComes ∧ next.publishing = []) ∧
      next.accepted.map (·.job) = next.handed.map (·.task.job) ++ after.jobs ∧
      Channel.told next.channel.answers = next.accepted.map (·.ticket) ∧
      (queue.jobs = [] ∧ queue.isOver = true → after.jobs = [] ∧ after.isOver = true) := by
  cases flow with
  | keeps blocked closed supply closes fewer accepted handed told =>
    refine ⟨_, supply, pooled.roomy, pooled.places, ?_, ?_, ?_, ?_, ?_⟩
    · rcases closes with ⟨same, sameToo⟩ | ⟨⟨shut, shutToo⟩, _⟩
      · rw [sameToo, ← pooled.closed]
        exact same
      · exact shut.trans shutToo.symm
    · exact closes.imp And.right And.right
    · have jobs := handed_jobs (handed.trans (List.append_nil _).symm)
      rw [accepted, pooled.accepted, jobs, List.map_nil, List.append_nil]
    · rw [told, accepted, pooled.told]
    · rintro ⟨jobs, noMore⟩
      simp only [JobQueue.isOver, Bool.and_eq_true, List.isEmpty_iff] at noMore ⊢
      refine ⟨jobs, ?_, ?_⟩
      · rcases closes with ⟨same, _⟩ | ⟨⟨shut, _⟩, _⟩
        · exact same.trans noMore.1
        · exact shut
      · have none := fewer noMore.1
        rw [noMore.2] at none
        exact List.eq_nil_of_length_eq_zero (Nat.le_zero.mp none)
  | accepts p blocked room supply closed fewer accepted handed told =>
    refine ⟨_, supply, pooled.roomy, ?_, ?_, .inl closed, ?_, ?_, ?_⟩
    · rw [List.length_append, ← pooled.roomy]
      exact room
    · rw [closed, ← pooled.closed]
    · rw [accepted, handed, List.map_append, pooled.accepted, List.append_assoc]
      rfl
    · rw [told, accepted, List.map_append, pooled.told]
      rfl
    · rintro ⟨_, noMore⟩
      simp only [JobQueue.isOver, Bool.and_eq_true, List.isEmpty_iff] at noMore
      have some := fewer noMore.1
      rw [noMore.2] at some
      exact absurd some (Nat.not_lt_zero _)
  | takes job jobs first supply closed accepted handed told =>
    have places := pooled.places
    rw [first, List.length_cons] at places
    refine ⟨_, supply, pooled.roomy, Nat.le_of_succ_le places, ?_, .inl closed, ?_, ?_, ?_⟩
    · rw [closed, ← pooled.closed]
    · rw [accepted, handed_jobs handed, pooled.accepted, first, List.append_assoc]
      rfl
    · rw [told, accepted, pooled.told]
    · rintro ⟨none, _⟩
      rw [first] at none
      cases none

private theorem Pooled.not_admits (pooled : Pooled crewSize capacity queue d)
    (closed : d.channel.closed = true) : d.channel.admits = false := by
  rw [Channel.admits, pooled.supply]
  simp [closed]

theorem Pooled.shut_step (pooled : Pooled crewSize capacity queue d) (step : Step d next)
    (unstopped : next.calls = [])
    (closes : next.channel.closed = d.channel.closed ∨ next.NoneComes ∧ next.publishing = [])
    (closed : next.channel.closed = true) : next.NoneComes ∧ next.publishing = [] := by
  rcases closes with same | shut
  · have closedBefore := same.symm.trans closed
    obtain ⟨noneComes, nobody⟩ := pooled.shut closedBefore
    exact ⟨noneComes.step closedBefore step,
      step.publishing_eq_nil (pooled.not_admits closedBefore) (step.calls_eq_nil unstopped) nobody⟩
  · exact shut

theorem Pooled.step (pooled : Pooled crewSize capacity queue d) (step : Step d next)
    (unstopped : next.calls = []) : ∃ after, Pooled crewSize capacity after next := by
  have nobody : queue.closed = true → d.publishing = [] := fun closed =>
    (pooled.shut (pooled.closed.symm.trans closed)).2
  obtain ⟨after, supply, roomy, places, closed, closes, accepted, told, stillOver⟩ :=
    pooled.flow (step.flow pooled.supply pooled.stay nobody unstopped)
  have crew := step.lasts.crewSize.trans pooled.crew
  have shut := pooled.shut_step step unstopped closes
  refine ⟨after, ?_⟩
  cases step.crew pooled.supply pooled.stay unstopped with
  | stays ids hired workers planned =>
    refine ⟨supply, roomy, places, crew, ?_, ?_, ?_, closed, shut, accepted, told, ?_⟩
    · rcases planned with same | ⟨_, whole⟩
      · exact same ▸ pooled.planned
      · exact .inr (whole.trans pooled.crew)
    · intro w works
      obtain ⟨old, worked, same, _⟩ := workers w works
      exact same.trans (pooled.stay old worked)
    · intro w works wakes
      obtain ⟨old, worked, _, same | awake⟩ := workers w works
      · exact same ▸ pooled.awake old worked wakes
      · exact awake wakes
    · rw [ids, hired]
      exact fun fewer => stillOver (pooled.left fewer)
  | enlists crewToo comes is =>
    have workers : ∀ w ∈ next.channel.workers, w ∈ d.channel.workers ∨
        w.dismissed = false ∧ w.occupation = .asking := by
      intro w works
      rw [is] at works
      rcases List.mem_append.mp works with old | new
      · exact .inl old
      · rw [List.mem_singleton.mp new]
        exact .inr ⟨rfl, rfl⟩
    refine ⟨supply, roomy, places, crew, ?_, ?_, ?_, closed, shut, accepted, told, ?_⟩
    · rw [is, planned_enlist comes]
      exact pooled.planned
    · intro w works
      exact (workers w works).elim (pooled.stay w) And.left
    · intro w works wakes resting
      rcases workers w works with old | ⟨_, asking⟩
      · exact pooled.awake w old wakes resting
      · cases asking.symm.trans resting
    · intro fewer
      rw [is, LiveChannel.enlist, Channel.ids_enlist, List.length_append,
          List.length_singleton] at fewer
      exact stillOver (pooled.left (Nat.lt_of_succ_lt_succ fewer))
  | leaves id jobs noMore channel recruits =>
    have workers : ∀ w ∈ next.channel.workers, w ∈ d.channel.workers := by
      intro w works
      rw [channel] at works
      exact List.mem_of_mem_filter works
    have planned : next.planned = d.planned := by
      rw [LiveChannel.planned, channel, recruits]
      rfl
    refine ⟨supply, roomy, places, crew, ?_, ?_, ?_, closed, shut, accepted, told, ?_⟩
    · exact planned ▸ pooled.planned
    · exact fun w works => pooled.stay w (workers w works)
    · exact fun w works => pooled.awake w (workers w works)
    · exact fun _ => stillOver ⟨jobs, noMore⟩

theorem Pooled.run (pooled : Pooled crewSize capacity queue d) (run : Run d next)
    (unstopped : next.calls = []) : ∃ after, Pooled crewSize capacity after next := by
  induction run with
  | refl => exact ⟨queue, pooled⟩
  | tail _ last ih =>
    obtain ⟨between, middle⟩ := ih (last.calls_eq_nil unstopped)
    exact middle.step last unstopped

/-! ## How many are at work -/

private theorem Staffed.ids_length_le (staffed : d.Staffed) :
    d.channel.ids.length ≤ d.channel.hired := by
  have inside : d.channel.ids ⊆ List.range d.channel.hired := by
    intro id there
    exact List.mem_range.mpr (staffed.hired id (.inl there))
  simpa using staffed.ids.length_le_of_subset inside

private theorem Pooled.busy_length_le (pooled : Pooled crewSize capacity queue d)
    (staffed : d.Staffed) :
    d.channel.busy.length ≤ crewSize := by
  have busy := (Channel.busy_ids_sublist d.channel).length_le
  rw [List.length_map] at busy
  have ids := staffed.ids_length_le
  have hired : d.channel.hired ≤ d.planned := Nat.le_add_right _ _
  have planned := pooled.planned
  omega

private theorem Booked.running_perm (booked : d.Booked) (staffed : d.Staffed)
    (unstopped : d.calls = []) :
    ((d.handed.filter (·.ended.isNone)).map fun h => (h.worker, h.task)).Perm d.channel.busy := by
  have runs : ((d.handed.filter (·.ended.isNone)).map fun h => (h.worker, h.task)).Nodup := by
    have single := booked.single
    have workers : (·.worker) = Prod.fst ∘ fun h : Handling => (h.worker, h.task) := rfl
    rw [workers, ← List.map_map] at single
    exact List.Nodup.of_map _ single
  have busy : d.channel.busy.Nodup :=
    List.Nodup.of_map _ ((Channel.busy_ids_sublist d.channel).nodup staffed.ids)
  refine (List.perm_ext_iff_of_nodup runs busy).mpr ?_
  rintro ⟨id, task⟩
  constructor
  · intro member
    obtain ⟨h, among, same⟩ := List.mem_map.mp member
    obtain ⟨handed, runs⟩ := List.mem_filter.mp among
    rw [← same]
    rcases booked.running h handed (by simpa using runs) with has | ⟨call, made, _⟩
    · exact has
    · rw [unstopped] at made
      cases made
  · intro member
    exact List.mem_map.mpr ⟨_, List.mem_filter.mpr ⟨booked.inHand id task member, rfl⟩, rfl⟩

/-! ## Who waits for a place -/

theorem Pooled.publish_waits_iff (pooled : Pooled crewSize capacity queue d)
    (openToAll : queue.closed = false) (ticket : Nat) (job : Job) :
    (d.publish ticket job).channel.answers = d.channel.answers ↔ queue.isFull = true := by
  have through :=
    Channel.publish_of_open pooled.supply (pooled.closed.symm.trans openToAll) openToAll
    ticket job
  rw [publish, hear, through]
  cases full : queue.isFull with
  | true =>
    rw [Channel.handOver_waits pooled.supply openToAll full]
    exact iff_of_true rfl rfl
  | false =>
    rw [Channel.handOver_accepted pooled.supply full]
    refine iff_of_false ?_ Bool.false_ne_true
    simp [Channel.answer, Channel.call]

private theorem Pooled.promised_or_full (pooled : Pooled crewSize capacity queue d) {p : Publisher}
    (waits : p ∈ queue.blocked) : p ∈ d.channel.promised ∨ queue.isFull = true := by
  rw [Channel.promised, pooled.supply]
  dsimp only
  by_cases enough : queue.blocked.length ≤ queue.capacity - queue.jobs.length
  · rw [JobQueue.promised, List.take_of_length_le enough]
    exact .inl waits
  · refine .inr ?_
    have places := pooled.places
    have roomy := pooled.roomy
    simp only [JobQueue.isFull, JobQueue.promised, List.length_take, decide_eq_true_eq]
    omega

theorem Pooled.head?_promised (pooled : Pooled crewSize capacity queue d)
    (room : queue.jobs.length < capacity) :
    d.channel.promised.head? = queue.blocked.head? := by
  rw [Channel.promised, pooled.supply]
  dsimp only
  have free : queue.capacity - queue.jobs.length ≠ 0 := by
    rw [pooled.roomy]
    omega
  rw [JobQueue.promised, List.head?_take, if_neg free]

private theorem Pooled.promised_eq_nil (pooled : Pooled crewSize capacity queue d)
    (full : capacity ≤ queue.jobs.length) : d.channel.promised = [] := by
  rw [Channel.promised, pooled.supply]
  dsimp only
  rw [JobQueue.promised, pooled.roomy, Nat.sub_eq_zero_of_le full, List.take_zero]

/-! ## Dropped pools -/

/-- What is left to do for the workers of a pool that was dropped: publishers enter, jobs are taken,
tasks end, and workers leave. -/
def toDo (d : LiveChannel τ) : Nat :=
  match d.channel.supply with
  | .pool queue =>
    4 * queue.blocked.length + 3 * queue.jobs.length + 2 * d.handed.countP (·.ended.isNone) +
      d.channel.ids.length
  | _ => 0

theorem toDo_of_pool (is : d.channel.supply = .pool queue) : d.toDo =
    4 * queue.blocked.length + 3 * queue.jobs.length + 2 * d.handed.countP (·.ended.isNone) +
      d.channel.ids.length := by
  rw [toDo, is]

private theorem Handing.running_le (handing : Handing d next) :
    next.handed.countP (·.ended.isNone) + d.handed.length ≤
      d.handed.countP (·.ended.isNone) + next.handed.length := by
  cases handing with
  | keeps _ handed => exact Nat.le_of_eq (by rw [handed])
  | takes _ _ _ _ _ _ handed =>
    rw [handed, List.countP_append, List.length_append]
    exact Nat.le_of_eq (by simp; omega)
  | ends id _ _ result _ handed =>
    have fewer := (running_endedBy_sublist id d.now result d.handed).length_le
    rw [handed, List.length_map, List.countP_eq_length_filter, List.countP_eq_length_filter]
    omega
  | givesUp _ _ _ _ handed => exact Nat.le_of_eq (by rw [handed])

theorem Step.ids_length_le (step : Step d next) (noneComes : d.NoneComes) :
    next.channel.ids.length ≤ d.channel.ids.length := by
  cases step.staffing with
  | keeps keeps => exact keeps.ids.length_le
  | enlists crew comes =>
    rw [noneComes.recruits] at comes
    cases comes
  | registers _ _ is => exact Nat.le_of_eq (by rw [is]; rfl)
  | claims _ _ _ _ is => exact Nat.le_of_eq (by rw [is]; rfl)
  | drained _ _ _ _ _ _ is => exact Nat.le_of_eq (by rw [is]; rfl)
  | givesUp _ _ workers _ _ _ is =>
    rw [is]
    exact (Channel.keeps_abort d.channel workers).ids.length_le

private theorem Pooled.toDo_le (pooled : Pooled crewSize capacity queue d) (staffed : d.Staffed)
    (closed : d.channel.closed = true) (step : Step d next) (unstopped : next.calls = []) :
    next.toDo ≤ d.toDo := by
  have shut : queue.closed = true := pooled.closed.trans closed
  obtain ⟨noneComes, nobody⟩ := pooled.shut closed
  have running := (staffed.handing step).running_le
  have workers := step.ids_length_le noneComes
  rw [toDo_of_pool pooled.supply]
  cases step.flow pooled.supply pooled.stay (fun _ => nobody) unstopped with
  | keeps blocked _ supply _ fewer _ handed =>
    have waiting := fewer shut
    have same := congrArg List.length handed
    rw [List.length_map, List.length_map] at same
    rw [toDo_of_pool supply]
    dsimp only
    omega
  | accepts p blocked _ supply _ fewer _ handed =>
    have waiting := fewer shut
    rw [toDo_of_pool supply, handed]
    rw [handed] at running
    dsimp only
    rw [List.length_append, List.length_singleton]
    omega
  | takes job jobs first supply _ _ handed =>
    have more := congrArg List.length handed
    rw [List.length_map, List.length_append, List.length_map, List.length_singleton] at more
    rw [toDo_of_pool supply, first, List.length_cons]
    dsimp only
    omega

private theorem Booked.running_lt (booked : d.Booked) {id : Nat} {task : Task}
    (inHand : (id, task) ∈ d.channel.busy) (result : Except Fault Unit) :
    (d.handed.map (Handling.endedBy id d.now result)).countP (·.ended.isNone) <
      d.handed.countP (·.ended.isNone) := by
  obtain ⟨before, after, split⟩ := List.append_of_mem (booked.inHand id task inHand)
  have ended : Handling.endedBy id d.now result ⟨id, task, none⟩ =
      ⟨id, task, some (d.now, result)⟩ := if_pos ⟨rfl, rfl⟩
  have first := (running_endedBy_sublist id d.now result before).length_le
  have last := (running_endedBy_sublist id d.now result after).length_le
  rw [← List.countP_eq_length_filter, ← List.countP_eq_length_filter] at first last
  rw [split, List.map_append, List.map_cons, ended, List.countP_append, List.countP_append,
    List.countP_cons_of_neg (by simp), List.countP_cons_of_pos rfl]
  omega

private theorem Pooled.toDo_finish (pooled : Pooled crewSize capacity queue d) (booked : d.Booked)
    {id : Nat} {task : Task} (inHand : (id, task) ∈ d.channel.busy) (result : Except Fault Unit) :
    (d.finish id task result).toDo < d.toDo := by
  have fewer := booked.running_lt inHand result
  have concluded :=
    Channel.conclude_pool (c := d.channel.occupy id .asking) pooled.supply task result
  have supply : (d.finish id task result).channel.supply = .pool queue := by
    simp only [finish, Channel.finish, concluded]
    exact pooled.supply
  have ids : (d.finish id task result).channel.ids = d.channel.ids := by
    rw [finish, Channel.ids, (d.channel.finish_delivers id task result).workers,
      Channel.occupy_ids, Channel.ids]
  rw [toDo_of_pool supply, toDo_of_pool pooled.supply, ids]
  simp only [finish]
  omega

private theorem Pooled.toDo_take (pooled : Pooled crewSize capacity queue d) {job : Job}
    {rest : List Job} (jobs : queue.jobs = job :: rest) (id : Nat) (wakes : Option Nat)
    (stage : τ) :
    (d.takeUp { d.channel with supply := .pool { queue with jobs := rest } } id ⟨job, none⟩ wakes
      stage).toDo < d.toDo := by
  have supply :
      (d.takeUp { d.channel with supply := .pool { queue with jobs := rest } } id ⟨job, none⟩
      wakes stage).channel.supply = .pool { queue with jobs := rest } := rfl
  rw [toDo_of_pool supply, toDo_of_pool pooled.supply, jobs]
  simp only [takeUp, Channel.ids_occupy, List.countP_append, List.countP_singleton,
      List.length_cons,
    Option.isNone_none, if_true]
  show _ + _ + 2 * (_ + 1) + d.channel.ids.length < _
  omega

private theorem Pooled.toDo_enter (pooled : Pooled crewSize capacity queue d) {p : Publisher}
    (waits : p ∈ queue.blocked) : (d.enter p).toDo < d.toDo := by
  have enters : d.channel.enter p =
      { d.channel with supply := .pool (queue.enter p) }.answer p.ticket (.ok ()) := by
    rw [Channel.enter, pooled.supply]
  have supply : (d.enter p).channel.supply = .pool (queue.enter p) := by
    rw [enter, enters]
    rfl
  have ids : (d.enter p).channel.ids = d.channel.ids := by
    rw [enter, Channel.ids, (d.channel.enter_delivers p).workers, Channel.ids]
  have some := List.length_pos_of_mem waits
  rw [toDo_of_pool supply, toDo_of_pool pooled.supply, ids]
  simp only [JobQueue.enter, List.length_erase_of_mem waits, List.length_append,
      List.length_singleton,
    enter]
  omega

private theorem Pooled.toDo_leave (pooled : Pooled crewSize capacity queue d) {w : Worker τ}
    (works : w ∈ d.channel.workers) :
    toDo { d with channel := d.channel.dismiss w.id } < d.toDo := by
  have fewer : (d.channel.dismiss w.id).ids.length < d.channel.ids.length := by
    refine Nat.lt_of_le_of_ne (Channel.ids_dismiss _ _).length_le ?_
    intro same
    have equal := (Channel.ids_dismiss d.channel w.id).eq_of_length same
    have still : w.id ∈ (d.channel.dismiss w.id).ids := equal ▸ List.mem_map_of_mem works
    exact (Channel.mem_ids_dismiss.mp still).2 rfl
  rw [toDo_of_pool pooled.supply, toDo_of_pool (Channel.supply_dismiss pooled.supply w.id)]
  exact Nat.add_lt_add_left fewer _

/-- As long as a worker is there, some step brings the end nearer. -/
theorem Pooled.exists_step [Nonempty τ] (pooled : Pooled crewSize capacity queue d)
    (booked : d.Booked) (closed : d.channel.closed = true) (room : 0 < capacity)
    (there : d.channel.workers ≠ []) :
    ∃ next, Step d next ∧ next.calls = d.calls ∧ next.toDo < d.toDo := by
  obtain ⟨stage⟩ := ‹Nonempty τ›
  obtain ⟨w, works⟩ := List.exists_mem_of_ne_nil _ there
  have stays := pooled.stay w works
  cases busy : w.occupation.task? with
  | some task =>
    exact ⟨_, .finish works busy (.ok ()), rfl,
      pooled.toDo_finish booked (Channel.mem_busy.mpr ⟨w, works, rfl, busy⟩) _⟩
  | none =>
    have free : w.occupation.isFreeAt d.now = true := by
      cases is : w.occupation with
      | asking => rfl
      | waiting => rfl
      | resting wakes => exact absurd is (pooled.awake w works wakes)
      | busy task wakes stage =>
        rw [is] at busy
        cases busy
    cases jobs : queue.jobs with
    | cons job rest =>
      have first : queue.next? = some (job, { queue with jobs := rest }) := by
        rw [JobQueue.next?, jobs]
      exact ⟨_, .take works free stays pooled.supply first none stage, rfl,
        pooled.toDo_take jobs _ _ _⟩
    | nil =>
      cases waiting : queue.blocked with
      | cons p rest =>
        have first := pooled.head?_promised (by rw [jobs]; exact room)
        rw [waiting] at first
        exact ⟨_, .enter (List.mem_of_head? first), rfl,
          pooled.toDo_enter (waiting ▸ List.mem_cons_self)⟩
      | nil =>
        have noMore : queue.isOver = true := by
          rw [JobQueue.isOver, waiting, pooled.closed, closed]
          rfl
        have found : d.channel.fetchAfter (d.channel.queue.expired d.now) d.now w =
            (.ends, d.channel) := by
          unfold Channel.fetchAfter
          rw [pooled.supply]
          simp [stays, JobQueue.next?, jobs, noMore]
        refine ⟨_, .look works free (.refl _) (by rw [found]; rfl), rfl, ?_⟩
        rw [found]
        exact pooled.toDo_leave works

theorem Pooled.exists_end [Nonempty τ] (pooled : Pooled crewSize capacity queue d)
    (staffed : d.Staffed) (booked : d.Booked) (closed : d.channel.closed = true)
    (room : 0 < capacity) (unstopped : d.calls = []) :
    ∃ last, Run d last ∧ last.calls = [] ∧ last.channel.workers = [] := by
  induction measure : d.toDo using Nat.strongRecOn generalizing d queue with
  | ind toDo ih =>
    by_cases there : d.channel.workers = []
    · exact ⟨d, .refl, unstopped, there⟩
    · obtain ⟨next, step, same, fewer⟩ := pooled.exists_step booked closed room there
      have stillUnstopped := same.trans unstopped
      obtain ⟨after, pooledToo⟩ := pooled.step step stillUnstopped
      have closedToo := step.lasts.closed closed
      obtain ⟨last, run, finallyUnstopped, nobody⟩ := ih next.toDo (measure ▸ fewer) pooledToo
        (staffed.step step) (booked.step staffed step) closedToo stillUnstopped rfl
      exact ⟨last, .head step run, finallyUnstopped, nobody⟩

/-- A dropped pool stays one, and what it has to do does not become more. -/
theorem Pooled.dropped (pooled : Pooled crewSize capacity queue d) (staffed : d.Staffed)
    (closed : d.channel.closed = true) (started : d.channel.hired ≠ 0) {later : LiveChannel τ}
    (onward : Run d later) (unstopped : later.calls = []) :
    ∃ after, Pooled crewSize capacity after later ∧ later.channel.closed = true ∧
      later.channel.hired ≠ 0 ∧ later.toDo ≤ d.toDo := by
  induction onward with
  | refl => exact ⟨queue, pooled, closed, started, Nat.le_refl _⟩
  | tail before last ih =>
    obtain ⟨between, pooledThen, closedThen, startedThen, fewer⟩ := ih (last.calls_eq_nil unstopped)
    obtain ⟨after, pooledToo⟩ := pooledThen.step last unstopped
    have less := pooledThen.toDo_le (staffed.run before) closedThen last unstopped
    have hired := last.hired_le
    exact ⟨after, pooledToo, last.lasts.closed closedThen, by omega,
      Nat.le_trans less fewer⟩

private theorem Pooled.handled (pooled : Pooled crewSize capacity queue d) (booked : d.Booked)
    (unstopped : d.calls = []) (started : d.channel.hired ≠ 0) (nobody : d.channel.workers = []) :
    d.accepted.map (·.job) = d.handed.map (·.task.job) ∧
      ∀ h ∈ d.handed, h.ended.isSome = true := by
  have ids : d.channel.ids = [] := by rw [Channel.ids, nobody, List.map_nil]
  obtain ⟨jobs, _⟩ := pooled.left (by rw [ids]; exact Nat.pos_of_ne_zero started)
  constructor
  · rw [pooled.accepted, jobs, List.append_nil]
  · intro h handed
    cases ended : h.ended with
    | some _ => rfl
    | none =>
      rcases booked.running h handed ended with busy | ⟨call, made, _⟩
      · rw [Channel.busy, nobody] at busy
        cases busy
      · rw [unstopped] at made
        cases made

end Pooled

/-- The accepted jobs of a pool are those that were handed to handlers, once each and in their
order, followed by those in its queue. A started pool that is dropped handles all of them. -/
theorem pool_hands_out_once [Nonempty τ] {workers capacity : Nat} {grace : Time.Span}
    {d : LiveChannel τ} (run : Run (opening (.pool workers capacity grace)) d)
    (unstopped : d.calls = []) :
    ∃ queue : JobQueue, d.channel.supply = .pool queue ∧
      queue.jobs.length ≤ max capacity 1 ∧
      (d.handed.filter (·.ended.isNone)).length ≤ max workers 1 ∧
      (d.channel.closed = false → ∀ ticket job,
        ((d.publish ticket job).channel.answers = d.channel.answers ↔ queue.isFull = true)) ∧
      (∀ p ∈ queue.blocked, p ∈ d.channel.promised ∨ queue.isFull = true) ∧
      (queue.jobs.length < max capacity 1 → d.channel.promised.head? = queue.blocked.head?) ∧
      (max capacity 1 ≤ queue.jobs.length → d.channel.promised = []) ∧
      Channel.told d.channel.answers = d.accepted.map (·.ticket) ∧
      d.accepted.map (·.job) = d.handed.map (·.task.job) ++ queue.jobs ∧
      ((d.handed.filter (·.ended.isNone)).map fun h => (h.worker, h.task)).Perm d.channel.busy ∧
      (d.channel.closed = true → d.channel.hired ≠ 0 → ∀ later, Run d later → later.calls = [] →
        later.toDo ≤ d.toDo ∧
        (later.channel.workers ≠ [] →
          ∃ next, Step later next ∧ next.calls = [] ∧ next.toDo < later.toDo) ∧
        (∃ last, Run later last ∧ last.calls = [] ∧ last.channel.workers = []) ∧
        (later.channel.workers = [] →
          later.accepted.map (·.job) = later.handed.map (·.task.job) ∧
          ∀ h ∈ later.handed, h.ended.isSome = true)) := by
  have opened : (opening (.pool workers capacity grace) : LiveChannel τ).Staffed :=
    opening_staffed rfl rfl
  have blank : (opening (.pool workers capacity grace) : LiveChannel τ).Booked := opening_booked rfl
  have staffed := opened.run run
  have booked := blank.run opened run
  obtain ⟨queue, pooled⟩ := (opening_pooled workers capacity grace).run run unstopped
  have running := booked.running_perm staffed unstopped
  have room : 0 < max capacity 1 := Nat.lt_of_lt_of_le Nat.zero_lt_one (Nat.le_max_right _ _)
  refine ⟨queue, pooled.supply, pooled.places, ?_, ?_, fun p => pooled.promised_or_full,
    pooled.head?_promised, pooled.promised_eq_nil, pooled.told, pooled.accepted, running, ?_⟩
  · have busy := pooled.busy_length_le staffed
    rw [← running.length_eq, List.length_map] at busy
    exact busy
  · exact fun openToAll => pooled.publish_waits_iff (pooled.closed.trans openToAll)
  · intro closed started later onward unstoppedToo
    obtain ⟨after, pooledToo, closedToo, startedToo, fewer⟩ :=
      pooled.dropped staffed closed started onward unstoppedToo
    have staffedToo := staffed.run onward
    have bookedToo := booked.run staffed onward
    refine ⟨fewer, fun there => ?_, ?_, pooledToo.handled bookedToo unstoppedToo startedToo⟩
    · obtain ⟨next, step, same, less⟩ := pooledToo.exists_step bookedToo closedToo room there
      exact ⟨next, step, same.trans unstoppedToo, less⟩
    · exact pooledToo.exists_end staffedToo bookedToo closedToo room unstoppedToo

/-- One worker takes the first of two jobs, so that the second one comes into the queue. The first
one fails, and the pool is dropped. -/
theorem dropped_pool_hands_out_once : ∃ d : LiveChannel Unit,
    Run (opening (.pool 1 1 (.ofMillis 0))) d ∧ d.calls = [] ∧ d.channel.closed = true ∧
      d.channel.hired ≠ 0 ∧ d.accepted = [⟨1, ⟨7⟩⟩, ⟨2, ⟨8⟩⟩] ∧
      d.handed = [⟨0, ⟨⟨7⟩, none⟩, some (0, .error .payload)⟩] ∧
      ∃ last, Run d last ∧ last.calls = [] ∧ last.channel.workers = [] ∧
        last.accepted.map (·.job) = last.handed.map (·.task.job) := by
  have published : Run (opening (.pool 1 1 (.ofMillis 0)) : LiveChannel Unit) _ :=
    (run_publish rfl rfl 1 ⟨7⟩).trans (run_publish rfl rfl 2 ⟨8⟩)
  have started := published.trans (run_consume 0 ⟨rfl, rfl⟩ rfl)
  have taken : Run (opening (.pool 1 1 (.ofMillis 0)) : LiveChannel Unit) _ := .tail started
    (@Step.take _ _ ⟨0, 0, .asking, false⟩ _ _ _ (.head _) rfl rfl rfl rfl none ())
  have entered : Run (opening (.pool 1 1 (.ofMillis 0)) : LiveChannel Unit) _ := .tail taken
    (@Step.enter _ _ ⟨2, ⟨8⟩⟩ (.head _))
  have failed : Run (opening (.pool 1 1 (.ofMillis 0)) : LiveChannel Unit) _ := .tail entered
    (@Step.finish _ _ ⟨0, 0, .busy ⟨⟨7⟩, none⟩ none (), false⟩ _ (.head _) rfl (.error .payload))
  have run : Run (opening (.pool 1 1 (.ofMillis 0)) : LiveChannel Unit) _ :=
    .tail failed (.abandon ⟨rfl, rfl⟩ rfl)
  obtain ⟨_, _, _, _, _, _, _, _, _, _, _, dropped⟩ := pool_hands_out_once run rfl
  obtain ⟨_, _, ⟨last, onward, unstopped, nobody⟩, _⟩ := dropped rfl (by decide) _ .refl rfl
  obtain ⟨_, _, _, handled⟩ := dropped rfl (by decide) last onward unstopped
  exact ⟨_, run, rfl, rfl, by decide, rfl, rfl, last, onward, unstopped, nobody, (handled nobody).1⟩

theorem Step.accepted_prefix (step : Step d next) : d.accepted <+: next.accepted := by
  cases step with
  | handOver =>
    unfold LiveChannel.handOver hear
    dsimp only
    split
    · exact List.prefix_append _ _
    · exact List.prefix_refl _
  | enter => exact List.prefix_append _ _
  | _ => exact List.prefix_refl _

/-- In a closed channel without workers nothing is handed out any more. -/
theorem Step.nobody (step : Step d next) (staffed : d.Staffed) (noneComes : d.NoneComes)
    (nobody : d.channel.ids = []) :
    next.channel.ids = [] ∧ (d.handed = [] → next.handed = []) := by
  refine ⟨?_, ?_⟩
  · have fewer := step.ids_length_le noneComes
    rw [nobody] at fewer
    exact List.eq_nil_of_length_eq_zero (Nat.le_zero.mp fewer)
  · intro nothing
    cases staffed.handing step with
    | keeps _ handed => exact handed.trans nothing
    | takes w _ works =>
      have there : w.id ∈ d.channel.ids := List.mem_map_of_mem works
      rw [nobody] at there
      cases there
    | ends id _ _ result _ handed => rw [handed, nothing, List.map_nil]
    | givesUp _ _ _ _ handed => exact handed.trans nothing

theorem nobody_of_run (staffed : d.Staffed) (closed : d.channel.closed = true)
    (noneComes : d.NoneComes) (nobody : d.channel.ids = []) (nothing : d.handed = [])
    (run : Run d next) : next.channel.closed = true ∧ next.NoneComes ∧ next.channel.ids = [] ∧
      next.handed = [] ∧ d.accepted <+: next.accepted := by
  induction run with
  | refl => exact ⟨closed, noneComes, nobody, nothing, List.prefix_refl _⟩
  | tail before step ih =>
    obtain ⟨closedThen, noneComesThen, nobodyThen, nothingThen, accepted⟩ := ih
    obtain ⟨nobodyToo, nothingToo⟩ := step.nobody (staffed.run before) noneComesThen nobodyThen
    exact ⟨step.lasts.closed closedThen, noneComesThen.step closedThen step, nobodyToo,
      nothingToo nothingThen, accepted.trans step.accepted_prefix⟩

def unstarted : LiveChannel Unit :=
  let d := (opening (.pool 1 1 (.ofMillis 0))).publish 1 ⟨7⟩
  { d with channel := d.channel.abandon }

theorem run_unstarted : Run (opening (.pool 1 1 (.ofMillis 0))) unstarted :=
  (run_publish rfl rfl 1 ⟨7⟩).tail (.abandon ⟨rfl, rfl⟩ rfl)

/-- A pool that was never started has nobody to handle what is in its queue. -/
theorem not_forall_dropped_handled :
    ¬∀ (workers capacity : Nat) (grace : Time.Span) (d : LiveChannel Unit),
      Run (opening (.pool workers capacity grace)) d → d.calls = [] → d.channel.closed = true →
        ∃ last, Run d last ∧ last.calls = [] ∧
          last.accepted.map (·.job) = last.handed.map (·.task.job) := by
  intro claimed
  obtain ⟨last, run, unstopped,
      handled⟩ := claimed 1 1 (.ofMillis 0) unstarted run_unstarted rfl rfl
  have opened : (opening (.pool 1 1 (.ofMillis 0)) : LiveChannel Unit).Staffed :=
    opening_staffed rfl rfl
  obtain ⟨_, _, _, nothing, accepted⟩ :=
    nobody_of_run (opened.run run_unstarted) rfl ⟨rfl, rfl⟩ rfl rfl run
  have some : 1 ≤ last.accepted.length := accepted.length_le
  have same := congrArg List.length handled
  rw [List.length_map, nothing] at same
  exact absurd same (Nat.ne_of_gt some)

end LiveChannel

end FeedIngest.Delivery
