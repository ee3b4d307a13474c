import Mathlib.Logic.Relation
import FeedIngest.Proofs.Delivery.Staff

/-!
# A channel at work

A live channel is a channel with a clock, the calls that are made to it, the publishers who were
told that their jobs are accepted, and the tasks that were handed to handlers. Publishers, workers
and callers act in any order, and handlers take as long as they like. A publisher who was promised a
place in a full queue enters some time after the place was freed, if he does not give up before.

Calls are not made in one go. Who is let in with a job hands it over some time later. Who is let in
to consume starts his workers one by one, and a call to stop can wait for a worker only some time
after he has begun. A call to stop closes the channel, turns away those who wait for a place, tells
the workers to go, and takes over those whom nobody waits for; anything else can happen in between.

Time does not pass while a worker who was told to go still has to look up, or while a call to stop
has something to do or to answer.
-/

set_option autoImplicit false

namespace FeedIngest.Delivery

variable {τ : Type}

/-- A worker may look for a task: he has none, and is awake. -/
def Occupation.isFreeAt (now : Nat) : Occupation τ → Bool
  | .asking => true
  | .waiting => true
  | .resting wakes => wakes ≤ now
  | .busy .. => false

theorem Occupation.task?_of_isFreeAt {occupation : Occupation τ} {now : Nat}
    (free : occupation.isFreeAt now = true) : occupation.task? = none := by
  cases occupation with
  | busy => cases free
  | asking => rfl
  | waiting => rfl
  | resting => rfl

/-- A worker who was told to go need not look up before that moment. -/
def Occupation.lasts (moment : Nat) : Occupation τ → Bool
  | .busy .. => true
  | .resting wakes => moment ≤ wakes
  | _ => false

theorem Occupation.lasts_iff {occupation : Occupation τ} {moment : Nat} :
    occupation.lasts moment = true ↔ occupation.task?.isSome = true ∨
      ∃ wakes, occupation = .resting wakes ∧ moment ≤ wakes := by
  cases occupation <;> simp [lasts, task?]

/-- A task that was handed to the handler of a worker, and when and how it ended. -/
structure Handling where
  worker : Nat
  task : Task
  ended : Option (Nat × Except Fault Unit)

def Handling.endedBy (worker now : Nat) (result : Except Fault Unit) (h : Handling) : Handling :=
  if h.worker = worker ∧ h.ended.isNone then { h with ended := some (now, result) } else h

theorem Handling.endedBy_worker (id now : Nat) (result : Except Fault Unit) (h : Handling) :
    (h.endedBy id now result).worker = h.worker ∧ (h.endedBy id now result).task = h.task := by
  unfold Handling.endedBy
  split <;> exact ⟨rfl, rfl⟩

theorem Handling.running_of_endedBy {id now : Nat} {result : Except Fault Unit} {h : Handling}
    (runs : (h.endedBy id now result).ended = none) :
    h.endedBy id now result = h ∧ h.worker ≠ id := by
  unfold Handling.endedBy at runs ⊢
  split at runs
  · cases runs
  · next other =>
    rw [if_neg other]
    refine ⟨rfl, fun same => other ⟨same, ?_⟩⟩
    rw [runs, Option.isNone_none]

inductive Stage where
  /-- The channel is closed, unless it is a bus. -/
  | closed
  | turnedAway
  | told
  | waits (workers : List Nat)
  | answered (workers : List Nat) (moment : Nat) (answer : Except Fault Unit)

def Stage.isEarly : Stage → Bool
  | .waits .. | .answered .. => false
  | _ => true

def Stage.hasTold : Stage → Bool
  | .closed | .turnedAway => false
  | _ => true

structure StopCall where
  stage : Stage
  began : Nat
  limit : Nat

namespace StopCall

def claimed (call : StopCall) : List Nat :=
  match call.stage with
  | .waits workers | .answered workers _ _ => workers
  | _ => []

def answer (call : StopCall) : Option (Nat × Except Fault Unit) :=
  match call.stage with
  | .answered _ moment answer => some (moment, answer)
  | _ => none

def reach (stage : Stage) (call : StopCall) : StopCall := { call with stage }

def answered (now : Nat) (answer : Except Fault Unit) (call : StopCall) : StopCall :=
  call.reach (.answered call.claimed now answer)

/-- It has its answer, or waits for somebody and has grace until that moment. -/
def lasts (c : Channel τ) (moment : Nat) (call : StopCall) : Bool :=
  match call.stage with
  | .waits workers => !c.haveEnded workers && moment ≤ call.limit
  | .answered .. => true
  | _ => false

theorem claimed_of_isEarly {call : StopCall} (early : call.stage.isEarly = true) :
    call.claimed = [] := by
  unfold Stage.isEarly at early
  unfold claimed
  split at early <;> simp_all

theorem answer_of_isEarly {call : StopCall} (early : call.stage.isEarly = true) :
    call.answer = none := by
  unfold Stage.isEarly at early
  unfold answer
  split at early <;> simp_all

theorem lasts_cases {call : StopCall} {c : Channel τ} {moment : Nat}
    (lasts : call.lasts c moment = true) :
    (∃ workers, call.stage = .waits workers ∧ c.haveEnded workers = false ∧ moment ≤ call.limit) ∨
      ∃ workers t answer, call.stage = .answered workers t answer := by
  unfold StopCall.lasts at lasts
  split at lasts
  · next workers waits =>
    obtain ⟨there, inTime⟩ := Bool.and_eq_true_iff.mp lasts
    exact .inl ⟨workers, waits, Bool.not_eq_true' _ ▸ there, of_decide_eq_true inTime⟩
  · next workers t answer answered => exact .inr ⟨workers, t, answer, answered⟩
  · cases lasts

theorem claimed_of_waits {call : StopCall} {workers : List Nat}
    (waits : call.stage = .waits workers) :
    call.claimed = workers := by
  rw [claimed, waits]

theorem answer_of_waits {call : StopCall} {workers : List Nat}
    (waits : call.stage = .waits workers) :
    call.answer = none := by
  rw [answer, waits]

theorem stage_of_answer {call : StopCall} {t : Nat} {result : Except Fault Unit}
    (is : call.answer = some (t, result)) : ∃ workers, call.stage = .answered workers t result := by
  unfold answer at is
  split at is
  · next workers moment answered stage =>
    cases is
    exact ⟨workers, stage⟩
  · cases is

end StopCall

structure LiveChannel (τ : Type) where
  channel : Channel τ
  now : Nat
  calls : List StopCall
  /-- The publishers who were told that their jobs are accepted, in that order. -/
  accepted : List Publisher
  /-- The tasks that were handed to handlers, in that order. -/
  handed : List Handling
  /-- The publishers who were let in, and have not handed over their jobs yet. -/
  publishing : List Publisher
  /-- The crews of those whom calls to consume still have to start. -/
  recruits : List Nat
  /-- The workers who have begun, and for whom no call to stop can wait yet. -/
  newcomers : List Nat

namespace LiveChannel

def opening (channel : Channel τ) : LiveChannel τ := ⟨channel, 0, [], [], [], [], [], []⟩

/-- No call to consume is under way. -/
structure NoneComes (d : LiveChannel τ) : Prop where
  recruits : d.recruits = []
  newcomers : d.newcomers = []

/-- A publisher has handed over his job to the channel, which is another one by that. -/
def hear (p : Publisher) (channel : Channel τ) (d : LiveChannel τ) : LiveChannel τ :=
  { d with
    channel
    accepted :=
      if channel.answers = d.channel.answers ++ [(p.ticket, .ok ())] then d.accepted ++ [p]
      else d.accepted }

def handOver (p : Publisher) (d : LiveChannel τ) : LiveChannel τ :=
  { d.hear p (d.channel.handOver p.ticket p.job) with publishing := d.publishing.erase p }

def publish (ticket : Nat) (job : Job) (d : LiveChannel τ) : LiveChannel τ :=
  d.hear ⟨ticket, job⟩ (d.channel.publish ticket job)

def withdraw (ticket : Nat) (d : LiveChannel τ) : LiveChannel τ :=
  { d with
    channel := d.channel.withdraw ticket
    publishing := d.publishing.filter (·.ticket != ticket) }

def enter (p : Publisher) (d : LiveChannel τ) : LiveChannel τ :=
  { d with channel := d.channel.enter p, accepted := d.accepted ++ [p] }

/-- A publisher who waited is about to offer his job again. -/
def wake (p : Publisher) (d : LiveChannel τ) : LiveChannel τ :=
  { d with channel := d.channel.withdraw p.ticket, publishing := d.publishing ++ [p] }

/-- How many workers a call to consume has to start. The first one starts the crew of a pool. -/
def vacancies (d : LiveChannel τ) : Nat :=
  match d.channel.supply with
  | .pool _ => if d.channel.hired = 0 ∧ d.recruits = [] then d.channel.crewSize else 0
  | _ => d.channel.crewSize

def consume (crew : Nat) (d : LiveChannel τ) : LiveChannel τ :=
  { d with recruits := d.recruits ++ List.replicate d.vacancies crew }

def enlist (crew : Nat) (d : LiveChannel τ) : LiveChannel τ :=
  { d with
    channel := d.channel.enlist crew
    recruits := d.recruits.erase crew
    newcomers := d.newcomers ++ [d.channel.hired] }

def register (id : Nat) (d : LiveChannel τ) : LiveChannel τ :=
  { d with channel := d.channel.register id, newcomers := d.newcomers.erase id }

/-- A worker begins a task that came from the channel, which has changed by that. -/
def takeUp (channel : Channel τ) (worker : Nat) (task : Task) (wakes : Option Nat) (stage : τ)
    (d : LiveChannel τ) : LiveChannel τ :=
  { d with
    channel := channel.occupy worker (.busy task wakes stage)
    handed := d.handed ++ [⟨worker, task, none⟩] }

def finish (worker : Nat) (task : Task) (result : Except Fault Unit) (d : LiveChannel τ) :
    LiveChannel τ :=
  { d with
    channel := d.channel.finish worker task result
    handed := d.handed.map (Handling.endedBy worker d.now result) }

def stop (d : LiveChannel τ) : LiveChannel τ :=
  { d with
    channel := d.channel.close
    calls := d.calls ++ [⟨.closed, d.now, d.now + d.channel.grace.ticks⟩] }

def turnAway (i : Nat) (d : LiveChannel τ) : LiveChannel τ :=
  { d with
    channel := d.channel.turnAway
    calls := d.calls.modify i (StopCall.reach .turnedAway) }

def tell (i : Nat) (d : LiveChannel τ) : LiveChannel τ :=
  { d with channel := d.channel.tell, calls := d.calls.modify i (StopCall.reach .told) }

def claim (i : Nat) (d : LiveChannel τ) : LiveChannel τ :=
  { d with
    channel := d.channel.claim
    calls := d.calls.modify i (StopCall.reach (.waits d.channel.unclaimed)) }

def reply (i : Nat) (answer : Except Fault Unit) (d : LiveChannel τ) : LiveChannel τ :=
  { d with calls := d.calls.modify i (StopCall.answered d.now answer) }

/-- Nothing has to happen before that span is over: workers who were told to go have a task or rest,
and calls to stop wait for somebody and have grace. -/
structure Still (span : Nat) (d : LiveChannel τ) : Prop where
  workers : ∀ w ∈ d.channel.workers, w.dismissed = true → w.occupation.lasts (d.now + span) = true
  calls : ∀ call ∈ d.calls, call.lasts d.channel (d.now + span) = true

instance (span : Nat) (d : LiveChannel τ) : Decidable (d.Still span) :=
  decidable_of_iff
    ((∀ w ∈ d.channel.workers, w.dismissed = true → w.occupation.lasts (d.now + span) = true) ∧
      ∀ call ∈ d.calls, call.lasts d.channel (d.now + span) = true)
    ⟨fun ⟨workers, calls⟩ => ⟨workers, calls⟩, fun still => ⟨still.workers, still.calls⟩⟩

inductive Step : LiveChannel τ → LiveChannel τ → Prop where
  /-- Somebody is let in with a job. -/
  | approach {d : LiveChannel τ} (ticket : Nat) (job : Job) (admitted : d.channel.admits = true) :
      Step d { d with publishing := d.publishing ++ [⟨ticket, job⟩] }
  | refuse {d : LiveChannel τ} (ticket : Nat) (closed : d.channel.admits = false) :
      Step d { d with channel := d.channel.answer ticket (.error .channelClosed) }
  | handOver {d : LiveChannel τ} {p : Publisher} (among : p ∈ d.publishing) : Step d (d.handOver p)
  | withdraw {d : LiveChannel τ} (ticket : Nat) : Step d (d.withdraw ticket)
  | enter {d : LiveChannel τ} {p : Publisher} (promised : p ∈ d.channel.promised) :
      Step d (d.enter p)
  /-- A publisher who waits has seen that nobody was turned away yet, and is overtaken by a call to
  stop before he looks for a place. -/
  | wake {d : LiveChannel τ} {i : Nat} {call : StopCall} {queue : JobQueue} {p : Publisher}
      (found : d.calls[i]? = some call) (closed : call.stage = .closed)
      (is : d.channel.supply = .pool queue) (waits : p ∈ queue.blocked) : Step d (d.wake p)
  /-- Somebody else sends to the broker. -/
  | sendRaw {d : LiveChannel τ} {payload : List UInt8} {channel : Channel τ}
      (sends : d.channel.sendRaw? payload = some channel) : Step d { d with channel }
  | closeBroker {d : LiveChannel τ} : Step d { d with channel := d.channel.closeBroker }
  /-- Somebody is let in to consume. -/
  | consume {d : LiveChannel τ} (crew : Nat) (admitted : d.channel.closed = false) :
      Step d (d.consume crew)
  | enlist {d : LiveChannel τ} {crew : Nat} (comes : crew ∈ d.recruits) : Step d (d.enlist crew)
  | register {d : LiveChannel τ} {id : Nat} (new : id ∈ d.newcomers) : Step d (d.register id)
  | look {d : LiveChannel τ} {w : Worker τ} {order : List Lease}
      (works : w ∈ d.channel.workers) (free : w.occupation.isFreeAt d.now = true)
      (ended : order.Perm (d.channel.queue.expired d.now))
      (nothing : (d.channel.fetchAfter order d.now w).1.task? = none) :
      Step d { d with
        channel := (d.channel.fetchAfter order d.now w).2.heed w.id
          (d.channel.fetchAfter order d.now w).1 }
  /-- A worker takes the first job of a pool. The place is free then for whoever was promised it. -/
  | take {d : LiveChannel τ} {w : Worker τ} {queue rest : JobQueue} {job : Job}
      (works : w ∈ d.channel.workers) (free : w.occupation.isFreeAt d.now = true)
      (stays : w.dismissed = false) (is : d.channel.supply = .pool queue)
      (first : queue.next? = some (job, rest)) (wakes : Option Nat) (stage : τ) :
      Step d (d.takeUp { d.channel with supply := .pool rest } w.id ⟨job, none⟩ wakes stage)
  /-- A worker finds a task that comes from a bus or a broker. -/
  | begin {d : LiveChannel τ} {w : Worker τ} {order : List Lease} {task : Task}
      (works : w ∈ d.channel.workers) (free : w.occupation.isFreeAt d.now = true)
      (ended : order.Perm (d.channel.queue.expired d.now))
      (apart : ∀ queue, d.channel.supply ≠ .pool queue)
      (found : (d.channel.fetchAfter order d.now w).1 = .task task) (wakes : Option Nat)
      (stage : τ) :
      Step d (d.takeUp (d.channel.fetchAfter order d.now w).2 w.id task wakes stage)
  | goOn {d : LiveChannel τ} {w : Worker τ} {task : Task} (works : w ∈ d.channel.workers)
      (busy : w.occupation.task? = some task) (wakes : Option Nat) (stage : τ) :
      Step d { d with channel := d.channel.occupy w.id (.busy task wakes stage) }
  | finish {d : LiveChannel τ} {w : Worker τ} {task : Task} (works : w ∈ d.channel.workers)
      (busy : w.occupation.task? = some task) (result : Except Fault Unit) :
      Step d (d.finish w.id task result)
  /-- The last owner of a pool drops it. Nobody has a call under way then. -/
  | abandon {d : LiveChannel τ} (noneComes : d.NoneComes) (nobody : d.publishing = []) :
      Step d { d with channel := d.channel.abandon }
  | stop {d : LiveChannel τ} : Step d d.stop
  | turnAway {d : LiveChannel τ} {i : Nat} {call : StopCall} (found : d.calls[i]? = some call)
      (closed : call.stage = .closed) : Step d (d.turnAway i)
  | tell {d : LiveChannel τ} {i : Nat} {call : StopCall} (found : d.calls[i]? = some call)
      (turnedAway : call.stage = .turnedAway) : Step d (d.tell i)
  | claim {d : LiveChannel τ} {i : Nat} {call : StopCall} (found : d.calls[i]? = some call)
      (told : call.stage = .told) : Step d (d.claim i)
  /-- All workers whom a call to stop waits for have ended. -/
  | drained {d : LiveChannel τ} {i : Nat} {call : StopCall} {workers : List Nat}
      (found : d.calls[i]? = some call) (waits : call.stage = .waits workers)
      (ended : d.channel.haveEnded workers = true) : Step d (d.reply i (.ok ()))
  /-- The grace of a call to stop is over. -/
  | giveUp {d : LiveChannel τ} {i : Nat} {call : StopCall} {workers : List Nat}
      (found : d.calls[i]? = some call) (waits : call.stage = .waits workers)
      (late : call.limit ≤ d.now) :
      Step d ({ d with channel := d.channel.abort workers }.reply i (.error Channel.drainTimeout))
  | pass {d : LiveChannel τ} {span : Nat} (still : d.Still span) :
      Step d { d with now := d.now + span }

abbrev Run : LiveChannel τ → LiveChannel τ → Prop := Relation.ReflTransGen Step

/-! ## Calls that are not interrupted -/

section Calls

variable {calls : List StopCall} {i k : Nat} {f : StopCall → StopCall} {call other : StopCall}

theorem modify_self (found : calls[i]? = some call) : (calls.modify i f)[i]? = some (f call) := by
  rw [List.getElem?_modify_eq, found]
  rfl

theorem mem_modify (found : calls[i]? = some call) (member : other ∈ calls.modify i f) :
    other ∈ calls ∨ other = f call := by
  obtain ⟨k, here⟩ := List.mem_iff_getElem?.mp member
  by_cases same : i = k
  · rw [← same, modify_self found] at here
    exact .inr (Option.some.inj here).symm
  · rw [List.getElem?_modify_ne f calls same] at here
    exact .inl (List.mem_of_getElem? here)

theorem mem_modify_of_ne (found : calls[i]? = some call) (member : other ∈ calls)
    (differs : other ≠ call) : other ∈ calls.modify i f := by
  obtain ⟨k, here⟩ := List.mem_iff_getElem?.mp member
  have apart : i ≠ k := by
    intro same
    rw [same, here] at found
    exact differs (Option.some.inj found)
  exact List.mem_of_getElem? ((List.getElem?_modify_ne f calls apart).trans here)

end Calls

/-- A call to stop comes to wait, and nothing happens in between. -/
def halt (d : LiveChannel τ) : LiveChannel τ :=
  ((d.stop.turnAway d.calls.length).tell d.calls.length).claim d.calls.length

variable {d next : LiveChannel τ}

theorem run_halt_of_stop (d : LiveChannel τ) : Run d.stop d.halt := by
  have made : d.stop.calls[d.calls.length]? = some _ := List.getElem?_concat_length
  have turned := modify_self (f := StopCall.reach .turnedAway) made
  have told := modify_self (f := StopCall.reach .told) turned
  exact .head (.turnAway made rfl) (.head (.tell turned rfl) (.single (.claim told rfl)))

theorem run_halt (d : LiveChannel τ) : Run d d.halt := .head .stop d.run_halt_of_stop

/-- A call that is not interrupted does to the channel what `signal` does. -/
theorem channel_halt (d : LiveChannel τ) : d.halt.channel = d.channel.signal.2 := rfl

/-- A publisher who is let in hands over his job at once. -/
theorem run_publish (admitted : d.channel.admits = true) (nobody : d.publishing = []) (ticket : Nat)
    (job : Job) : Run d (d.publish ticket job) := by
  have through : d.channel.publish ticket job = d.channel.handOver ticket job := if_pos admitted
  have hands : Step { d with publishing := d.publishing ++ [⟨ticket, job⟩] } _ :=
    .handOver (List.mem_append_right _ (.head _))
  have same : handOver ⟨ticket, job⟩ { d with publishing := d.publishing ++ [⟨ticket, job⟩] } =
      d.publish ticket job := by
    rw [publish, through]
    simp [handOver, hear, nobody]
  rw [same] at hands
  exact .tail (.single (.approach ticket job admitted)) hands

/-- One worker begins, and a call to stop can wait for him. -/
theorem run_enlist {crew left : Nat} (newcomers : d.newcomers = [])
    (recruits : d.recruits = List.replicate (left + 1) crew) : Run d { d with
      channel := (d.channel.enlist crew).register d.channel.hired
      recruits := List.replicate left crew } := by
  have enlists : Step d (d.enlist crew) := .enlist (by simp [recruits])
  have registers : Step (d.enlist crew) ((d.enlist crew).register d.channel.hired) :=
    .register (by simp [enlist])
  have same : (d.enlist crew).register d.channel.hired = { d with
      channel := (d.channel.enlist crew).register d.channel.hired
      recruits := List.replicate left crew } := by
    simp [enlist, register, newcomers, recruits, List.replicate_succ]
  exact .tail (.single enlists) (same ▸ registers)

theorem run_hire {crew : Nat} (newcomers : d.newcomers = []) (n left : Nat)
    (recruits : d.recruits = List.replicate (n + left) crew) : Run d { d with
      channel := (List.range n).foldl (fun c _ => (c.enlist crew).register c.hired) d.channel
      recruits := List.replicate left crew } := by
  induction n generalizing left with
  | zero =>
    rw [Nat.zero_add] at recruits
    rw [← recruits]
    exact .refl
  | succ n ih =>
    have before := ih (left + 1) (by rw [recruits, Nat.add_right_comm, Nat.add_assoc])
    rw [List.range_succ, List.foldl_append]
    exact before.trans (run_enlist newcomers rfl)

/-- Who is let in to consume starts his workers at once. -/
theorem run_consume (crew : Nat) {channel : Channel τ} (noneComes : d.NoneComes)
    (starts : d.channel.consume crew = .ok channel) : Run d { d with channel } := by
  obtain ⟨recruits, newcomers⟩ := noneComes
  unfold Channel.consume at starts
  split at starts
  · cases starts
  · next admitted =>
    have consumes : Run d (d.consume crew) := .single (.consume crew (by simpa using admitted))
    have hires :
        d.vacancies = d.channel.crewSize → Run d { d with channel := d.channel.hire crew } := by
      intro vacant
      have hired := run_hire (d := d.consume crew) newcomers d.channel.crewSize 0
        (by rw [consume, recruits, vacant]; rfl)
      have same : (List.replicate 0 crew : List Nat) = d.recruits := recruits.symm
      rw [same] at hired
      exact consumes.trans hired
    split at starts
    · next queue is =>
      cases starts
      split
      · next first => exact hires (by rw [vacancies, is]; exact if_pos ⟨first, recruits⟩)
      · exact .refl
    · next apart =>
      cases starts
      refine hires ?_
      unfold vacancies
      split
      · next queue is => exact absurd is (apart queue)
      · rfl

/-! ## Who is there, and who waits for them -/

/-- What a step does to the staff of the channel and to the calls to stop. -/
inductive Staffing (d next : LiveChannel τ) : Prop where
  | keeps (channel : d.channel.Keeps next.channel) (newcomers : next.newcomers = d.newcomers)
      (made : ∀ call ∈ next.calls, call ∈ d.calls ∨ call.stage.isEarly = true)
      (kept : ∀ call ∈ d.calls, call ∈ next.calls ∨ call.stage.isEarly = true)
  | enlists (crew : Nat) (comes : crew ∈ d.recruits) (is : next = d.enlist crew)
  | registers (id : Nat) (new : id ∈ d.newcomers) (is : next = d.register id)
  | claims (i : Nat) (call : StopCall) (found : d.calls[i]? = some call)
      (told : call.stage = .told) (is : next = d.claim i)
  | drained (i : Nat) (call : StopCall) (workers : List Nat) (found : d.calls[i]? = some call)
      (waits : call.stage = .waits workers) (ended : d.channel.haveEnded workers = true)
      (is : next = d.reply i (.ok ()))
  | givesUp (i : Nat) (call : StopCall) (workers : List Nat) (found : d.calls[i]? = some call)
      (waits : call.stage = .waits workers) (late : call.limit ≤ d.now)
      (is : next =
        { d with channel := d.channel.abort workers }.reply i (.error Channel.drainTimeout))

private theorem Staffing.aside (channel : d.channel.Keeps next.channel)
    (newcomers : next.newcomers = d.newcomers) (calls : next.calls = d.calls) : Staffing d next :=
  .keeps channel newcomers (fun _ made => .inl (calls ▸ made)) (fun _ made => .inl (calls ▸ made))

/-- A call to stop gets on, and does not wait yet. -/
theorem Staffing.proceed {i : Nat} {call : StopCall} {stage : Stage}
    (channel : d.channel.Keeps next.channel) (newcomers : next.newcomers = d.newcomers)
    (found : d.calls[i]? = some call) (early : call.stage.isEarly = true)
    (still : stage.isEarly = true) (calls : next.calls = d.calls.modify i (StopCall.reach stage)) :
    Staffing d next := by
  refine .keeps channel newcomers (fun other made => ?_) (fun other made => ?_)
  · rw [calls] at made
    rcases mem_modify found made with old | rfl
    · exact .inl old
    · exact .inr still
  · rw [calls]
    by_cases differs : other = call
    · exact .inr (differs ▸ early)
    · exact .inl (mem_modify_of_ne found made differs)

theorem Step.staffing (step : Step d next) : Staffing d next := by
  cases step with
  | approach => exact .aside (.refl _) rfl rfl
  | refuse => exact .aside (Channel.Delivers.of_supply rfl).keeps rfl rfl
  | handOver => exact .aside (d.channel.handOver_delivers _ _).keeps rfl rfl
  | withdraw ticket => exact .aside (d.channel.withdraw_delivers ticket).keeps rfl rfl
  | @wake _ _ _ p => exact .aside (d.channel.withdraw_delivers p.ticket).keeps rfl rfl
  | enter => exact .aside (d.channel.enter_delivers _).keeps rfl rfl
  | sendRaw sends => exact .aside (d.channel.sendRaw?_delivers sends).keeps rfl rfl
  | closeBroker => exact .aside d.channel.closeBroker_delivers.keeps rfl rfl
  | consume => exact .aside (.refl _) rfl rfl
  | enlist comes => exact .enlists _ comes rfl
  | register new => exact .registers _ new rfl
  | look works free ended nothing =>
    exact .aside ((d.channel.fetchAfter_delivers _ _ _).keeps.trans
      (Channel.keeps_heed _ _ nothing)) rfl rfl
  | @take w queue rest job works free stays is first wakes stage =>
    have moved : d.channel.Delivers { d.channel with supply := .pool rest } :=
      .of_supply (by rw [is]; rfl)
    exact .aside (moved.keeps.trans (Channel.keeps_occupy _ _ _)) rfl rfl
  | begin works free ended apart found wakes stage =>
    exact .aside ((d.channel.fetchAfter_delivers _ _ _).keeps.trans (Channel.keeps_occupy _ _ _)) rfl
      rfl
  | goOn works busy wakes stage => exact .aside (Channel.keeps_occupy _ _ _) rfl rfl
  | finish works busy result =>
    exact .aside ((Channel.keeps_occupy _ _ _).trans (d.channel.finish_delivers _ _ _).keeps) rfl rfl
  | abandon => exact .aside d.channel.keeps_abandon rfl rfl
  | stop =>
    refine .keeps (Channel.keeps_close _) rfl (fun call made => ?_)
      (fun call made => .inl (List.mem_append_left _ made))
    rcases List.mem_append.mp made with old | new
    · exact .inl old
    · rw [List.mem_singleton.mp new]
      exact .inr rfl
  | turnAway found closed =>
    exact .proceed d.channel.turnAway_delivers.keeps rfl found (by rw [closed]; rfl) rfl rfl
  | tell found turnedAway =>
    exact .proceed (Channel.keeps_tell _) rfl found (by rw [turnedAway]; rfl) rfl rfl
  | claim found told => exact .claims _ _ found told rfl
  | drained found waits ended => exact .drained _ _ _ found waits ended rfl
  | giveUp found waits late => exact .givesUp _ _ _ found waits late rfl
  | pass => exact .aside (.refl _) rfl rfl

theorem Step.lasts (step : Step d next) : d.channel.Lasts next.channel := by
  cases step.staffing with
  | keeps keeps => exact keeps.toLasts
  | enlists crew _ is =>
    rw [is]
    exact d.channel.enlist_lasts crew
  | registers _ _ is =>
    rw [is]
    exact ⟨rfl, rfl, rfl, fun closed => closed⟩
  | claims _ _ _ _ is =>
    rw [is]
    exact ⟨rfl, rfl, rfl, fun closed => closed⟩
  | drained _ _ _ _ _ _ is =>
    rw [is]
    exact .refl _
  | givesUp _ _ workers _ _ _ is =>
    rw [is]
    exact (d.channel.keeps_abort workers).toLasts

theorem lasts_of_run (run : Run d next) : d.channel.Lasts next.channel := by
  induction run with
  | refl => exact .refl _
  | tail _ last ih => exact ih.trans last.lasts

/-- Nobody is let in with a job once the channel is closed. -/
theorem Step.publishing_eq_nil (step : Step d next) (closed : d.channel.admits = false)
    (unstopped : d.calls = []) (nobody : d.publishing = []) : next.publishing = [] := by
  cases step with
  | approach ticket job admitted =>
    rw [closed] at admitted
    cases admitted
  | handOver among =>
    rw [nobody] at among
    cases among
  | withdraw ticket => rw [LiveChannel.withdraw, nobody, List.filter_nil]
  | wake found =>
    rw [unstopped] at found
    cases found
  | _ => exact nobody

/-- What a step does to the list of the calls to stop. -/
theorem Step.calls_cases (step : Step d next) : next.calls = d.calls ∨
    (∃ new, next.calls = d.calls ++ [new]) ∨
    ∃ i call f, d.calls[i]? = some call ∧ call.answer = none ∧ next.calls = d.calls.modify i f := by
  have early : ∀ {call : StopCall} {stage : Stage}, call.stage = stage → stage.isEarly = true →
      call.answer = none := fun is early => StopCall.answer_of_isEarly (is ▸ early)
  cases step with
  | stop => exact .inr (.inl ⟨_, rfl⟩)
  | turnAway found closed => exact .inr (.inr ⟨_, _, _, found, early closed rfl, rfl⟩)
  | tell found turnedAway => exact .inr (.inr ⟨_, _, _, found, early turnedAway rfl, rfl⟩)
  | claim found told => exact .inr (.inr ⟨_, _, _, found, early told rfl, rfl⟩)
  | drained found waits => exact .inr (.inr ⟨_, _, _, found, StopCall.answer_of_waits waits, rfl⟩)
  | giveUp found waits => exact .inr (.inr ⟨_, _, _, found, StopCall.answer_of_waits waits, rfl⟩)
  | _ => exact .inl rfl

/-- Each worker has an id of his own, which nobody has after him. A call to stop waits for him, or
none has taken him over since he came. -/
structure Staffed (d : LiveChannel τ) : Prop where
  ids : d.channel.ids.Nodup
  hired : ∀ id, id ∈ d.channel.ids ∨ id ∈ d.channel.unclaimed ∨ id ∈ d.newcomers →
    id < d.channel.hired
  claimed : ∀ call ∈ d.calls, ∀ id ∈ call.claimed, id < d.channel.hired
  covered : ∀ id ∈ d.channel.ids, id ∈ d.channel.unclaimed ∨ id ∈ d.newcomers ∨
    ∃ call ∈ d.calls, call.answer = none ∧ id ∈ call.claimed
  gone : ∀ call ∈ d.calls, call.answer.isSome = true → ∀ id ∈ call.claimed, id ∉ d.channel.ids

theorem opening_staffed {channel : Channel τ} (nobody : channel.workers = [])
    (unclaimed : channel.unclaimed = []) : (opening channel).Staffed := by
  have ids : channel.ids = [] := by rw [Channel.ids, nobody, List.map_nil]
  constructor
  · simp [opening, ids]
  · simp [opening, ids, unclaimed]
  · simp [opening]
  · simp [opening, ids]
  · simp [opening]

/-- Nobody comes, and no call to stop takes anybody over. -/
theorem Staffed.keep (staffed : d.Staffed) (keeps : d.channel.Keeps next.channel)
    (newcomers : next.newcomers = d.newcomers)
    (made : ∀ call ∈ next.calls, call ∈ d.calls ∨ call.stage.isEarly = true)
    (kept : ∀ call ∈ d.calls, call ∈ next.calls ∨ call.stage.isEarly = true) : next.Staffed := by
  constructor
  · exact keeps.ids.nodup staffed.ids
  · intro id known
    rw [keeps.unclaimed, newcomers] at known
    rw [keeps.hired]
    exact staffed.hired id (known.imp_left (keeps.ids.subset ·))
  · intro call among id claims
    rw [keeps.hired]
    rcases made call among with old | early
    · exact staffed.claimed call old id claims
    · rw [StopCall.claimed_of_isEarly early] at claims
      cases claims
  · intro id there
    rw [keeps.unclaimed, newcomers]
    refine (staffed.covered id (keeps.ids.subset there)).imp_right (.imp_right ?_)
    rintro ⟨call, among, waits, claims⟩
    rcases kept call among with still | early
    · exact ⟨call, still, waits, claims⟩
    · rw [StopCall.claimed_of_isEarly early] at claims
      cases claims
  · intro call among answered id claims there
    rcases made call among with old | early
    · exact staffed.gone call old answered id claims (keeps.ids.subset there)
    · rw [StopCall.claimed_of_isEarly early] at claims
      cases claims

/-- Those are gone whom a call to stop waits for that has its answer now. -/
theorem Staffed.answer (staffed : d.Staffed) {i : Nat} {call : StopCall}
    {channel : Channel τ} (found : d.calls[i]? = some call) (answer : Except Fault Unit)
    (keeps : d.channel.Keeps channel) (left : ∀ id ∈ call.claimed, id ∉ channel.ids) :
    ({ d with channel }.reply i answer).Staffed := by
  have member : call ∈ d.calls := List.mem_of_getElem? found
  constructor
  · exact keeps.ids.nodup staffed.ids
  · intro id known
    rw [show (reply i answer { d with channel }).channel = channel from rfl] at known ⊢
    rw [keeps.unclaimed] at known
    rw [keeps.hired]
    exact staffed.hired id (known.imp_left (keeps.ids.subset ·))
  · intro other among id claims
    rw [show (reply i answer { d with channel }).channel = channel from rfl, keeps.hired]
    rcases mem_modify found among with old | rfl
    · exact staffed.claimed other old id claims
    · exact staffed.claimed call member id claims
  · intro id there
    rw [show (reply i answer { d with channel }).channel = channel from rfl] at there ⊢
    rw [keeps.unclaimed]
    refine (staffed.covered id (keeps.ids.subset there)).imp_right (.imp_right ?_)
    rintro ⟨other, among, waits, claims⟩
    have differs : other ≠ call := by
      rintro rfl
      exact left id claims there
    exact ⟨other, mem_modify_of_ne found among differs, waits, claims⟩
  · intro other among answered id claims
    rcases mem_modify found among with old | rfl
    · exact fun there => staffed.gone other old answered id claims (keeps.ids.subset there)
    · exact left id claims

private theorem Staffed.enlist (staffed : d.Staffed) (crew : Nat) : (d.enlist crew).Staffed := by
  have ids : (d.enlist crew).channel.ids = d.channel.ids ++ [d.channel.hired] :=
    d.channel.ids_enlist crew
  have hired : (d.enlist crew).channel.hired = d.channel.hired + 1 := rfl
  constructor
  · rw [ids, List.nodup_append]
    refine ⟨staffed.ids, List.nodup_singleton _, fun id there other new same => ?_⟩
    rw [List.mem_singleton.mp new] at same
    exact Nat.ne_of_lt (staffed.hired id (.inl there)) same
  · intro id known
    rw [ids] at known
    rw [hired]
    rcases known with there | free | new
    · rcases List.mem_append.mp there with old | comes
      · exact Nat.lt_succ_of_lt (staffed.hired id (.inl old))
      · exact List.mem_singleton.mp comes ▸ Nat.lt_succ_self _
    · exact Nat.lt_succ_of_lt (staffed.hired id (.inr (.inl free)))
    · rcases List.mem_append.mp new with old | comes
      · exact Nat.lt_succ_of_lt (staffed.hired id (.inr (.inr old)))
      · exact List.mem_singleton.mp comes ▸ Nat.lt_succ_self _
  · exact fun call among id claims => Nat.lt_succ_of_lt (staffed.claimed call among id claims)
  · intro id there
    rw [ids] at there
    rcases List.mem_append.mp there with old | comes
    · exact (staffed.covered id old).imp_right (.imp_left (List.mem_append_left _))
    · exact .inr (.inl (List.mem_append_right _ comes))
  · intro call among answered id claims there
    rw [ids] at there
    rcases List.mem_append.mp there with old | comes
    · exact staffed.gone call among answered id claims old
    · exact Nat.ne_of_lt (staffed.claimed call among id claims) (List.mem_singleton.mp comes)

private theorem Staffed.register (staffed : d.Staffed) {id : Nat} (new : id ∈ d.newcomers) :
    (d.register id).Staffed := by
  have unclaimed : (d.register id).channel.unclaimed = d.channel.unclaimed ++ [id] := rfl
  constructor
  · exact staffed.ids
  · intro other known
    rw [unclaimed] at known
    rcases known with there | free | late
    · exact staffed.hired other (.inl there)
    · rcases List.mem_append.mp free with old | comes
      · exact staffed.hired other (.inr (.inl old))
      · exact List.mem_singleton.mp comes ▸ staffed.hired id (.inr (.inr new))
    · exact staffed.hired other (.inr (.inr (List.mem_of_mem_erase late)))
  · exact staffed.claimed
  · intro other there
    rw [unclaimed]
    rcases staffed.covered other there with free | late | waits
    · exact .inl (List.mem_append_left _ free)
    · by_cases same : other = id
      · exact .inl (List.mem_append_right _ (List.mem_singleton.mpr same))
      · exact .inr (.inl ((List.mem_erase_of_ne same).mpr late))
    · exact .inr (.inr waits)
  · exact staffed.gone

/-- A call to stop takes over those whom nobody waits for. -/
theorem Staffed.claim (staffed : d.Staffed) {i : Nat} {call : StopCall}
    (found : d.calls[i]? = some call) (early : call.stage.isEarly = true) : (d.claim i).Staffed := by
  constructor
  · exact staffed.ids
  · rintro id (there | free | late)
    · exact staffed.hired id (.inl there)
    · cases free
    · exact staffed.hired id (.inr (.inr late))
  · intro other among id claims
    rcases mem_modify found among with old | rfl
    · exact staffed.claimed other old id claims
    · exact staffed.hired id (.inr (.inl claims))
  · intro id there
    rcases staffed.covered id there with free | late | ⟨other, among, waits, claims⟩
    · exact .inr (.inr ⟨_, List.mem_of_getElem? (modify_self found), rfl, free⟩)
    · exact .inr (.inl late)
    · have differs : other ≠ call := by
        rintro rfl
        rw [StopCall.claimed_of_isEarly early] at claims
        cases claims
      exact .inr (.inr ⟨other, mem_modify_of_ne found among differs, waits, claims⟩)
  · intro other among answered
    rcases mem_modify found among with old | rfl
    · exact staffed.gone other old answered
    · cases answered

theorem Staffed.step (staffed : d.Staffed) (step : Step d next) : next.Staffed := by
  cases step.staffing with
  | keeps keeps newcomers made kept => exact staffed.keep keeps newcomers made kept
  | enlists crew comes is =>
    rw [is]
    exact staffed.enlist crew
  | registers id new is =>
    rw [is]
    exact staffed.register new
  | claims i call found told is =>
    rw [is]
    exact staffed.claim found (by rw [told]; rfl)
  | drained i call workers found waits ended is =>
    rw [is]
    refine staffed.answer found _ (.refl _) ?_
    rw [StopCall.claimed_of_waits waits]
    exact Channel.haveEnded_iff.mp ended
  | givesUp i call workers found waits late is =>
    rw [is]
    refine staffed.answer found _ (Channel.keeps_abort _ _) ?_
    rw [StopCall.claimed_of_waits waits]
    exact fun id claims there => (Channel.mem_ids_abort.mp there).2 claims

theorem Staffed.run (staffed : d.Staffed) (run : Run d next) : next.Staffed := by
  induction run with
  | refl => exact staffed
  | tail _ last ih => exact ih.step last

theorem Step.answered (step : Step d next) {call : StopCall} (member : call ∈ d.calls)
    (answered : call.answer.isSome = true) : call ∈ next.calls := by
  rcases step.calls_cases with calls | ⟨new, calls⟩ | ⟨i, other, f, found, waits, calls⟩
  · exact calls ▸ member
  · exact calls ▸ List.mem_append_left _ member
  · rw [calls]
    refine mem_modify_of_ne found member ?_
    rintro rfl
    simp [waits] at answered

theorem Step.hired_le (step : Step d next) : d.channel.hired ≤ next.channel.hired := by
  cases step.staffing with
  | keeps keeps => exact Nat.le_of_eq keeps.hired.symm
  | enlists crew _ is =>
    rw [is]
    exact Nat.le_succ _
  | registers _ _ is => exact Nat.le_of_eq (by rw [is]; rfl)
  | claims _ _ _ _ is => exact Nat.le_of_eq (by rw [is]; rfl)
  | drained _ _ _ _ _ _ is => exact Nat.le_of_eq (by rw [is]; rfl)
  | givesUp _ _ workers _ _ _ is =>
    rw [is]
    exact Nat.le_of_eq (Channel.keeps_abort d.channel workers).hired.symm

/-- Nobody is let in to consume once the channel is closed, so that nobody comes either. -/
theorem NoneComes.step (noneComes : d.NoneComes) (closed : d.channel.closed = true)
    (step : Step d next) : next.NoneComes := by
  obtain ⟨recruits, newcomers⟩ := noneComes
  cases step with
  | consume crew admitted =>
    rw [closed] at admitted
    cases admitted
  | enlist comes =>
    rw [recruits] at comes
    cases comes
  | register new =>
    rw [newcomers] at new
    cases new
  | _ => exact ⟨recruits, newcomers⟩

/-! ## Who has what in hand -/

/-- What a step does to the tasks that workers have, and to what was handed to handlers. -/
inductive Handing (d next : LiveChannel τ) : Prop where
  | keeps (busy : ∀ b, b ∈ next.channel.busy ↔ b ∈ d.channel.busy)
      (handed : next.handed = d.handed)
  | takes (w : Worker τ) (task : Task) (works : w ∈ d.channel.workers) (stays : w.dismissed = false)
      (free : ∀ other, (w.id, other) ∉ d.channel.busy)
      (busy : ∀ b, b ∈ next.channel.busy ↔ b ∈ d.channel.busy ∨ b = (w.id, task))
      (handed : next.handed = d.handed ++ [⟨w.id, task, none⟩])
  | ends (id : Nat) (task : Task) (inHand : (id, task) ∈ d.channel.busy)
      (result : Except Fault Unit)
      (busy : ∀ b, b ∈ next.channel.busy ↔ b.1 ≠ id ∧ b ∈ d.channel.busy)
      (handed : next.handed = d.handed.map (Handling.endedBy id d.now result))
  | givesUp (i : Nat) (call : StopCall) (found : d.calls[i]? = some call)
      (busy : ∀ b, b ∈ next.channel.busy ↔ b.1 ∉ call.claimed ∧ b ∈ d.channel.busy)
      (handed : next.handed = d.handed)
      (calls : next.calls = (d.reply i (.error Channel.drainTimeout)).calls)

theorem stays_of_found {c : Channel τ} {order : List Lease} {now : Nat} {w : Worker τ} {task : Task}
    (found : (c.fetchAfter order now w).1 = .task task) : w.dismissed = false := by
  cases dismissed : w.dismissed with
  | false => rfl
  | true =>
    rw [Channel.fetchAfter, if_pos dismissed] at found
    cases found

private theorem Staffed.takes (staffed : d.Staffed) {channel : Channel τ} {w : Worker τ}
    (moved : d.channel.Delivers channel) (works : w ∈ d.channel.workers)
    (stays : w.dismissed = false) (free : w.occupation.isFreeAt d.now = true) (task : Task)
    (wakes : Option Nat) (stage : τ) : Handing d (d.takeUp channel w.id task wakes stage) := by
  have noTask : ∀ other, (w.id, other) ∉ d.channel.busy := fun other =>
    Channel.not_mem_busy staffed.ids works (Occupation.task?_of_isFreeAt free)
  have worksStill : w ∈ channel.workers := moved.workers ▸ works
  refine .takes w task works stays noTask ?_ rfl
  rintro ⟨id, other⟩
  rw [takeUp, Channel.mem_busy_occupy worksStill, moved.busy, Prod.mk.injEq]
  constructor
  · rintro (⟨_, member⟩ | ⟨rfl, same⟩)
    · exact .inl member
    · exact .inr ⟨rfl, (Option.some.inj same).symm⟩
  · rintro (member | ⟨rfl, rfl⟩)
    · refine .inl ⟨?_, member⟩
      rintro rfl
      exact noTask other member
    · exact .inr ⟨rfl, rfl⟩

theorem Staffed.handing (staffed : d.Staffed) (step : Step d next) : Handing d next := by
  have delivers : ∀ {channel : Channel τ}, d.channel.Delivers channel →
      ∀ b, b ∈ channel.busy ↔ b ∈ d.channel.busy := by
    intro channel moved b
    rw [moved.busy]
  cases step with
  | approach => exact .keeps (fun _ => .rfl) rfl
  | refuse => exact .keeps (delivers (.of_supply rfl)) rfl
  | handOver => exact .keeps (delivers (d.channel.handOver_delivers _ _)) rfl
  | withdraw ticket => exact .keeps (delivers (d.channel.withdraw_delivers ticket)) rfl
  | @wake _ _ _ p => exact .keeps (delivers (d.channel.withdraw_delivers p.ticket)) rfl
  | enter => exact .keeps (delivers (d.channel.enter_delivers _)) rfl
  | sendRaw sends => exact .keeps (delivers (d.channel.sendRaw?_delivers sends)) rfl
  | closeBroker => exact .keeps (delivers d.channel.closeBroker_delivers) rfl
  | consume => exact .keeps (fun _ => .rfl) rfl
  | enlist => exact .keeps (fun b => by rw [LiveChannel.enlist, Channel.busy_enlist]) rfl
  | register => exact .keeps (fun _ => .rfl) rfl
  | look works free ended nothing =>
    have moved := d.channel.fetchAfter_delivers
    refine .keeps (fun b => ?_) rfl
    have ids := staffed.ids
    rw [Channel.ids, ← (moved _ _ _).workers] at ids
    rw [Channel.busy_heed ids ((moved _ _ _).workers ▸ works) (Occupation.task?_of_isFreeAt free)
      nothing, (moved _ _ _).busy]
  | take works free stays is first wakes stage =>
    exact staffed.takes (.of_supply (by rw [is]; rfl)) works stays free _ wakes stage
  | begin works free ended apart found wakes stage =>
    exact staffed.takes (d.channel.fetchAfter_delivers _ _ _) works (stays_of_found found) free _
      wakes stage
  | @goOn w task works busy wakes stage =>
    refine .keeps ?_ rfl
    rintro ⟨id, other⟩
    rw [Channel.mem_busy_occupy works]
    constructor
    · rintro (⟨_, member⟩ | ⟨rfl, same⟩)
      · exact member
      · cases same
        exact Channel.mem_busy.mpr ⟨w, works, rfl, busy⟩
    · intro member
      by_cases here : id = w.id
      · subst here
        rw [Channel.busy_unique staffed.ids works busy member]
        exact .inr ⟨rfl, rfl⟩
      · exact .inl ⟨here, member⟩
  | @finish w task works busy result =>
    refine .ends w.id task (Channel.mem_busy.mpr ⟨w, works, rfl, busy⟩) result ?_ rfl
    rintro ⟨id, other⟩
    rw [finish, (d.channel.finish_delivers w.id task result).busy, Channel.mem_busy_occupy works]
    constructor
    · rintro (known | ⟨_, has⟩)
      · exact known
      · cases has
    · exact .inl
  | abandon =>
    exact .keeps (fun b => by rw [Channel.busy, Channel.workers_abandon, Channel.busy]) rfl
  | stop => exact .keeps (fun b => by rw [stop, Channel.busy_close]) rfl
  | turnAway => exact .keeps (delivers d.channel.turnAway_delivers) rfl
  | tell => exact .keeps (fun b => by rw [tell, Channel.busy_tell]) rfl
  | claim => exact .keeps (fun _ => .rfl) rfl
  | drained => exact .keeps (fun _ => .rfl) rfl
  | giveUp found waits late =>
    refine .givesUp _ _ found ?_ rfl rfl
    rintro ⟨id, task⟩
    rw [StopCall.claimed_of_waits waits]
    exact Channel.mem_busy_abort
  | pass => exact .keeps (fun _ => .rfl) rfl

def CutOff (d : LiveChannel τ) (id : Nat) : Prop :=
  ∃ call ∈ d.calls, (∃ t, call.answer = some (t, .error Channel.drainTimeout)) ∧ id ∈ call.claimed

/-- What runs is in the hands of one worker, unless that was cut off. -/
structure Booked (d : LiveChannel τ) : Prop where
  known : ∀ h ∈ d.handed, h.worker < d.channel.hired
  inHand : ∀ id task, (id, task) ∈ d.channel.busy → ⟨id, task, none⟩ ∈ d.handed
  running : ∀ h ∈ d.handed, h.ended = none →
    (h.worker, h.task) ∈ d.channel.busy ∨ d.CutOff h.worker
  single : ((d.handed.filter (·.ended.isNone)).map (·.worker)).Nodup

theorem opening_booked {channel : Channel τ} (nobody : channel.workers = []) :
    (opening channel).Booked := by
  constructor
  · simp [opening]
  · simp [opening, Channel.busy, nobody]
  · simp [opening]
  · simp [opening]

theorem Step.cutOff (step : Step d next) {id : Nat} (cut : d.CutOff id) : next.CutOff id := by
  obtain ⟨call, member, ⟨t, answer⟩, claims⟩ := cut
  exact ⟨call, step.answered member (by rw [answer, Option.isSome_some]), ⟨t, answer⟩, claims⟩

theorem running_endedBy_sublist (id now : Nat) (result : Except Fault Unit)
    (handed : List Handling) :
    ((handed.map (Handling.endedBy id now result)).filter (·.ended.isNone)).Sublist
      (handed.filter (·.ended.isNone)) := by
  induction handed with
  | nil => exact .refl _
  | cons h handed ih =>
    rw [List.map_cons, List.filter_cons, List.filter_cons]
    cases still : (h.endedBy id now result).ended with
    | some ended =>
      rw [if_neg (by simp)]
      split
      · exact ih.cons _
      · exact ih
    | none =>
      obtain ⟨same, _⟩ := Handling.running_of_endedBy still
      rw [same] at still ⊢
      rw [still]
      exact ih.cons_cons _

theorem Booked.step (booked : d.Booked) (staffed : d.Staffed) (step : Step d next) :
    next.Booked := by
  have known : ∀ h ∈ d.handed, h.worker < next.channel.hired := fun h member =>
    Nat.lt_of_lt_of_le (booked.known h member) step.hired_le
  cases staffed.handing step with
  | keeps busy handed =>
    constructor
    · rw [handed]
      exact known
    · intro id task member
      rw [handed]
      exact booked.inHand id task ((busy _).mp member)
    · intro h member runs
      rw [handed] at member
      exact (booked.running h member runs).imp (busy _).mpr step.cutOff
    · rw [handed]
      exact booked.single
  | takes w task works stays free busy handed =>
    have there : w.id ∈ d.channel.ids := List.mem_map_of_mem works
    constructor
    · intro h member
      rw [handed] at member
      rcases List.mem_append.mp member with old | new
      · exact known h old
      · rw [List.mem_singleton.mp new]
        exact Nat.lt_of_lt_of_le (staffed.hired w.id (.inl there)) step.hired_le
    · intro id other member
      rw [handed]
      rcases (busy _).mp member with old | new
      · exact List.mem_append_left _ (booked.inHand id other old)
      · cases new
        exact List.mem_append_right _ List.mem_cons_self
    · intro h member runs
      rw [handed] at member
      rcases List.mem_append.mp member with old | new
      · exact (booked.running h old runs).imp (fun has => (busy _).mpr (.inl has)) step.cutOff
      · rw [List.mem_singleton.mp new]
        exact .inl ((busy _).mpr (.inr rfl))
    · rw [handed, List.filter_append, List.map_append, List.nodup_append]
      refine ⟨booked.single, by simp, ?_⟩
      intro id member other new same
      obtain ⟨h, among, rfl⟩ := List.mem_map.mp member
      obtain ⟨old, runs⟩ := List.mem_filter.mp among
      have is : h.worker = w.id := by
        rw [same]
        simpa using new
      -- He would have another task in hand, or have been cut off and not be there.
      rcases booked.running h old (by simpa using runs) with has | ⟨call, made, ⟨t, answer⟩, claims⟩
      · exact free h.task (is ▸ has)
      · exact staffed.gone call made (by rw [answer, Option.isSome_some]) w.id (is ▸ claims) there
  | ends id task inHand result busy handed =>
    constructor
    · intro h member
      rw [handed] at member
      obtain ⟨before, old, rfl⟩ := List.mem_map.mp member
      rw [(Handling.endedBy_worker id d.now result before).1]
      exact known before old
    · intro other taskToo member
      obtain ⟨differs, has⟩ := (busy _).mp member
      rw [handed]
      refine List.mem_map.mpr ⟨_, booked.inHand other taskToo has, ?_⟩
      exact if_neg fun same => differs same.1
    · intro h member runs
      rw [handed] at member
      obtain ⟨before, old, rfl⟩ := List.mem_map.mp member
      obtain ⟨same, differs⟩ := Handling.running_of_endedBy runs
      rw [same] at runs ⊢
      exact (booked.running before old runs).imp (fun has => (busy _).mpr ⟨differs,
          has⟩) step.cutOff
    · rw [handed]
      exact ((running_endedBy_sublist id d.now result d.handed).map _).nodup booked.single
  | givesUp i call found busy handed calls =>
    constructor
    · rw [handed]
      exact known
    · intro id task member
      rw [handed]
      exact booked.inHand id task ((busy _).mp member).2
    · intro h member runs
      rw [handed] at member
      rcases booked.running h member runs with has | cut
      · by_cases claims : h.worker ∈ call.claimed
        · refine .inr ⟨call.answered d.now (.error Channel.drainTimeout), ?_, ⟨d.now, rfl⟩, claims⟩
          rw [calls]
          exact List.mem_of_getElem? (modify_self found)
        · exact .inl ((busy _).mpr ⟨claims, has⟩)
      · exact .inr (step.cutOff cut)
    · rw [handed]
      exact booked.single

theorem Booked.run (booked : d.Booked) (staffed : d.Staffed) (run : Run d next) : next.Booked := by
  induction run with
  | refl => exact booked
  | tail before last ih => exact ih.step (staffed.run before) last

end LiveChannel

end FeedIngest.Delivery
