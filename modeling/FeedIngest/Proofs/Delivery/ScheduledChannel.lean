import FeedIngest.Delivery.Agenda
import FeedIngest.Proofs.Delivery.Draining

/-!
# A channel with schedulers

Schedulers publish the jobs of their agendas to one channel, to which others publish too. There is
one slot for a scheduler: a new one takes it, and the one before is told to end. A call to stop
tells the scheduler in the slot to end, and then stops the channel, whatever came of the agenda. An
agenda that has not ended when the grace is over is broken off.

A scheduler begins before he has the slot, and whether or not somebody called to stop. So there may
be schedulers after a call to stop has returned, but their jobs are refused, unless one was let in
before. Workers may begin then too, if the call to consume that starts them was let in before.
-/

set_option autoImplicit false

namespace FeedIngest.Delivery

variable {τ : Type}

namespace LiveChannel

def approach (ticket : Nat) (job : Job) (d : LiveChannel τ) : LiveChannel τ :=
  if d.channel.admits then { d with publishing := d.publishing ++ [⟨ticket, job⟩] }
  else { d with channel := d.channel.answer ticket (.error .channelClosed) }

theorem run_approach (d : LiveChannel τ) (ticket : Nat) (job : Job) :
    Run d (d.approach ticket job) := by
  unfold approach
  split
  · next admitted => exact .single (.approach ticket job admitted)
  · next refused => exact .single (.refuse ticket (Bool.eq_false_iff.mpr refused))

end LiveChannel

/-! ## Schedulers -/

/-- Who keeps an agenda. He asks for the feeds when a pass begins, and publishes their jobs one by
one. Tickets tell publications apart, and any ticket will do. -/
structure Scheduler where
  agenda : Agenda
  /-- Whether he was told to end. -/
  told : Bool
  /-- Since when he has been asking for the feeds. -/
  asks : Option Nat
  ticket : Nat

namespace Scheduler

def start (now period : Nat) : Scheduler := ⟨.start now period, false, none, 0⟩

def job? (k : Scheduler) : Option Job :=
  match k.agenda.phase with
  | .passing (.publishing feedId _ _) => some ⟨feedId⟩
  | _ => none

def approach (k : Scheduler) (d : LiveChannel τ) : LiveChannel τ :=
  k.job?.elim d fun job => d.approach k.ticket job

def withdraw (k : Scheduler) (d : LiveChannel τ) : LiveChannel τ :=
  k.job?.elim d fun _ => d.withdraw k.ticket

def tell (k : Scheduler) : Scheduler := { k with told := true }

def quit (k : Scheduler) : Scheduler := { k with agenda := k.agenda.cancel, asks := none }

inductive Acts (d : LiveChannel τ) (k : Scheduler) : Scheduler → Prop where
  | tick (rests : k.agenda.phase = .resting) (idle : k.asks = none) (due : k.agenda.due ≤ d.now) :
      Acts d k { k with asks := some d.now }
  | list {since : Nat} (asks : k.asks = some since) (listed : Except Fault (List Int))
      (ticket : Nat) :
      Acts d k { k with agenda := k.agenda.begin since (.start listed), asks := none, ticket }
  | hear {pass : Pass} (passes : k.agenda.phase = .passing pass) {answer : Except Fault Unit}
      (is : d.channel.answer? k.ticket = some answer) (ticket : Nat) :
      Acts d k { k with agenda := k.agenda.follow (pass.hear answer), ticket }

private theorem isOver_quit (k : Scheduler) : k.quit.agenda.isOver = true := by
  show k.agenda.cancel.isOver = true
  unfold Agenda.cancel
  split
  · assumption
  · rfl

private theorem Acts.told {d : LiveChannel τ} {k after : Scheduler} (acts : k.Acts d after) :
    after.told = k.told := by
  cases acts <;> rfl

theorem run_approach (k : Scheduler) (d : LiveChannel τ) : LiveChannel.Run d (k.approach d) := by
  unfold approach
  cases k.job? with
  | none => exact .refl
  | some job => exact d.run_approach k.ticket job

theorem run_withdraw (k : Scheduler) (d : LiveChannel τ) : LiveChannel.Run d (k.withdraw d) := by
  unfold withdraw
  cases k.job? with
  | none => exact .refl
  | some _ => exact .single (.withdraw k.ticket)

end Scheduler

/-! ## What can happen -/

inductive Closing where
  | arrives
  | cancels (scheduler limit : Nat)
  /-- That came of the agenda, and now the channel has to answer that call. -/
  | drains (agenda : Except Fault Unit) (call : Nat)
  | returned (agenda : Except Fault Unit) (call : Nat) (answer : Except Fault Unit)

structure ScheduledChannel (τ : Type) where
  live : LiveChannel τ
  /-- How long schedulers may take to end. -/
  grace : Nat
  schedulers : List Scheduler
  /-- The schedulers who have yet to take the slot. -/
  pending : List Nat
  slot : Option Nat
  /-- The scheduler who is replaced, and until when he is waited for. In the meantime the slot is
  locked. -/
  replaces : Option (Nat × Nat)
  closings : List Closing

namespace ScheduledChannel

def opening (channel : Channel τ) (grace : Nat) : ScheduledChannel τ :=
  ⟨.opening channel, grace, [], [], none, none, []⟩

def tell (i : Nat) (w : ScheduledChannel τ) : ScheduledChannel τ :=
  { w with schedulers := w.schedulers.modify i Scheduler.tell }

def quit (i : Nat) (k : Scheduler) (w : ScheduledChannel τ) : ScheduledChannel τ :=
  { w with live := k.withdraw w.live, schedulers := w.schedulers.set i k.quit }

def drain (i : Nat) (agenda : Except Fault Unit) (w : ScheduledChannel τ) : ScheduledChannel τ :=
  { w with
    live := w.live.stop
    closings := w.closings.set i (.drains agenda w.live.calls.length) }

/-- How it ends to wait for a scheduler, and what came of his agenda. -/
inductive Leaves (w : ScheduledChannel τ) (i limit : Nat) :
    Except Fault Unit → ScheduledChannel τ → Prop where
  | ended {k : Scheduler} (found : w.schedulers[i]? = some k) (isOver : k.agenda.isOver = true) :
      Leaves w i limit k.agenda.outcome w
  | late {k : Scheduler} (found : w.schedulers[i]? = some k) (keeps : k.agenda.isOver = false)
      (late : limit ≤ w.live.now) :
      Leaves w i limit (.error Agenda.stopTimeout) (w.quit i k)

/-- What can happen. A scheduler who was told to end may still go on for a while. -/
inductive Step : ScheduledChannel τ → ScheduledChannel τ → Prop where
  /-- Others publish and consume, workers work, and time passes. -/
  | channel {w : ScheduledChannel τ} {live : LiveChannel τ} (step : w.live.Step live) :
      Step w { w with live }
  /-- A scheduler goes on, and comes to the channel with the next job. -/
  | act {w : ScheduledChannel τ} {i : Nat} {k after : Scheduler} (found : w.schedulers[i]? = some k)
      (acts : k.Acts w.live after) :
      Step w { w with live := after.approach w.live, schedulers := w.schedulers.set i after }
  | quit {w : ScheduledChannel τ} {i : Nat} {k : Scheduler} (found : w.schedulers[i]? = some k)
      (told : k.told = true) (keeps : k.agenda.isOver = false) : Step w (w.quit i k)
  | schedule {w : ScheduledChannel τ} (period : Nat) :
      Step w { w with
        schedulers := w.schedulers ++ [.start w.live.now period]
        pending := w.pending ++ [w.schedulers.length] }
  | settle {w : ScheduledChannel τ} {i : Nat} (comes : i ∈ w.pending) (free : w.replaces = none)
      (vacant : w.slot = none) : Step w { w with pending := w.pending.erase i, slot := some i }
  | replace {w : ScheduledChannel τ} {i previous : Nat} (comes : i ∈ w.pending)
      (free : w.replaces = none)
      (kept : w.slot = some previous) :
      Step w { w.tell previous with
        pending := w.pending.erase i
        slot := some i
        replaces := some (previous, w.live.now + w.grace) }
  /-- Nobody asks what came of an agenda that is replaced. -/
  | replaced {w next : ScheduledChannel τ} {i limit : Nat} {agenda : Except Fault Unit}
      (waits : w.replaces = some (i, limit)) (leaves : w.Leaves i limit agenda next) :
      Step w { next with replaces := none }
  | stop {w : ScheduledChannel τ} : Step w { w with closings := w.closings ++ [.arrives] }
  | drain {w : ScheduledChannel τ} {n : Nat} (found : w.closings[n]? = some .arrives)
      (free : w.replaces = none) (vacant : w.slot = none) : Step w (w.drain n (.ok ()))
  | cancel {w : ScheduledChannel τ} {n i : Nat} (found : w.closings[n]? = some .arrives)
      (free : w.replaces = none) (kept : w.slot = some i) :
      Step w { w.tell i with
        slot := none
        closings := w.closings.set n (.cancels i (w.live.now + w.grace)) }
  | cancelled {w next : ScheduledChannel τ} {n i limit : Nat} {agenda : Except Fault Unit}
      (found : w.closings[n]? = some (.cancels i limit)) (leaves : w.Leaves i limit agenda next) :
      Step w (next.drain n agenda)
  | answer {w : ScheduledChannel τ} {n m t : Nat} {agenda channel : Except Fault Unit}
      {call : StopCall}
      (found : w.closings[n]? = some (.drains agenda m)) (made : w.live.calls[m]? = some call)
      (answered : call.answer = some (t, channel)) :
      Step w { w with
        closings := w.closings.set n (.returned agenda m (Agenda.stopAnswer agenda channel)) }

abbrev Run : ScheduledChannel τ → ScheduledChannel τ → Prop := Relation.ReflTransGen Step

variable {w next : ScheduledChannel τ} {d : LiveChannel τ}

theorem run_channel (run : LiveChannel.Run w.live d) : Run w { w with live := d } := by
  induction run with
  | refl => exact .refl
  | @tail middle _ _ step ih => exact .tail ih (.channel (w := { w with live := middle }) step)

end ScheduledChannel

/-! ## The calls to stop the channel -/

namespace LiveChannel

variable {d next : LiveChannel τ}

/-- A call to stop stays where it is, and keeps its answer. -/
theorem Step.call_at (step : Step d next) {n : Nat} {call : StopCall}
    (found : d.calls[n]? = some call) : ∃ after, next.calls[n]? = some after ∧
      ∀ answer, call.answer = some answer → after.answer = some answer := by
  rcases step.calls_cases with calls | ⟨new, calls⟩ | ⟨i, other, f, here, waits, calls⟩
  · exact ⟨call, calls ▸ found, fun _ => id⟩
  · have known : n < d.calls.length := (List.getElem?_eq_some_iff.mp found).1
    exact ⟨call, by rw [calls, List.getElem?_append_left known, found], fun _ => id⟩
  · rw [calls]
    by_cases same : i = n
    · subst same
      cases here.symm.trans found
      refine ⟨f call, modify_self found, fun answer answered => ?_⟩
      cases waits.symm.trans answered
    · exact ⟨call, (List.getElem?_modify_ne f d.calls same).trans found, fun _ => id⟩

theorem call_at_of_run (run : Run d next) {m : Nat} {call : StopCall}
    (found : d.calls[m]? = some call) : ∃ after, next.calls[m]? = some after ∧
      ∀ answer, call.answer = some answer → after.answer = some answer := by
  induction run with
  | refl => exact ⟨call, found, fun _ => id⟩
  | tail _ step ih =>
    obtain ⟨middle, there, keeps⟩ := ih
    obtain ⟨after, here, keepsToo⟩ := step.call_at there
    exact ⟨after, here, fun answer answered => keepsToo answer (keeps answer answered)⟩

/-- Everybody is gone when all calls to stop have been answered and nobody came since. -/
theorem Staffed.workers_eq_nil (staffed : d.Staffed) (unclaimed : d.channel.unclaimed = [])
    (newcomers : d.newcomers = []) (answered : ∀ call ∈ d.calls, call.answer.isSome = true) :
    d.channel.workers = [] := by
  refine List.eq_nil_iff_forall_not_mem.mpr fun w works => ?_
  rcases staffed.covered w.id (List.mem_map_of_mem works) with free | late | ⟨call, made, waits, _⟩
  · rw [unclaimed] at free
    cases free
  · rw [newcomers] at late
    cases late
  · have isAnswered := answered call made
    rw [waits] at isAnswered
    cases isAnswered

end LiveChannel

/-! ## What stays -/

/-- No scheduler is forgotten, and whoever was told to end stays told. -/
def Scheduler.Stay (schedulers next : List Scheduler) : Prop :=
  ∀ (i : Nat) (k : Scheduler), schedulers[i]? = some k →
    ∃ after : Scheduler, next[i]? = some after ∧ (k.told = true → after.told = true)

namespace Scheduler.Stay

variable {schedulers next : List Scheduler} {i : Nat} {k after : Scheduler}

theorem refl (schedulers : List Scheduler) : Stay schedulers schedulers :=
  fun _ k found => ⟨k, found, id⟩

theorem trans {last : List Scheduler} (first : Stay schedulers next) (second : Stay next last) :
    Stay schedulers last := by
  intro i k found
  obtain ⟨middle, there, told⟩ := first i k found
  obtain ⟨after, here, toldToo⟩ := second i middle there
  exact ⟨after, here, toldToo ∘ told⟩

private theorem append (schedulers more : List Scheduler) :
    Stay schedulers (schedulers ++ more) := by
  intro i k found
  have known : i < schedulers.length := (List.getElem?_eq_some_iff.mp found).1
  exact ⟨k, (List.getElem?_append_left known).trans found, id⟩

theorem set (found : schedulers[i]? = some k) (told : k.told = true → after.told = true) :
    Stay schedulers (schedulers.set i after) := by
  intro other k' there
  by_cases same : i = other
  · subst same
    cases found.symm.trans there
    exact ⟨after, List.getElem?_set_self (List.getElem?_eq_some_iff.mp found).1, told⟩
  · exact ⟨k', (List.getElem?_set_ne same).trans there, id⟩

private theorem tell (schedulers : List Scheduler) (i : Nat) :
    Stay schedulers (schedulers.modify i Scheduler.tell) := by
  intro other k there
  by_cases same : i = other
  · subst same
    exact ⟨k.tell, by rw [List.getElem?_modify_eq, there]; rfl, fun _ => rfl⟩
  · exact ⟨k, (List.getElem?_modify_ne Scheduler.tell schedulers same).trans there, id⟩

theorem lt (stay : Stay schedulers next) (known : i < schedulers.length) : i < next.length := by
  obtain ⟨after, there, _⟩ := stay i _ (List.getElem?_eq_getElem known)
  exact (List.getElem?_eq_some_iff.mp there).1

end Scheduler.Stay

namespace ScheduledChannel

variable {w next : ScheduledChannel τ}

structure Goes (w next : ScheduledChannel τ) : Prop where
  live : LiveChannel.Run w.live next.live
  schedulers : Scheduler.Stay w.schedulers next.schedulers

theorem Goes.trans {last : ScheduledChannel τ} (first : w.Goes next) (second : next.Goes last) :
    w.Goes last where
  live := Relation.ReflTransGen.trans first.live second.live
  schedulers := first.schedulers.trans second.schedulers

theorem goes_quit {i : Nat} {k : Scheduler} (found : w.schedulers[i]? = some k) :
    w.Goes (w.quit i k) where
  live := Scheduler.run_withdraw _ _
  schedulers := .set found id

theorem goes_drain (n : Nat) (agenda : Except Fault Unit) : w.Goes (w.drain n agenda) where
  live := .single .stop
  schedulers := .refl _

theorem Leaves.goes {i limit : Nat} {agenda : Except Fault Unit}
    (leaves : w.Leaves i limit agenda next) : w.Goes next := by
  cases leaves with
  | ended => exact ⟨.refl, .refl _⟩
  | late found => exact goes_quit found

theorem Step.goes (step : Step w next) : w.Goes next := by
  cases step with
  | channel step => exact ⟨.single step, .refl _⟩
  | act found acts =>
    exact ⟨Scheduler.run_approach _ _, .set found fun told => acts.told.trans told⟩
  | quit found => exact goes_quit found
  | schedule => exact ⟨.refl, .append _ _⟩
  | settle => exact ⟨.refl, .refl _⟩
  | replace => exact ⟨.refl, .tell _ _⟩
  | replaced _ leaves => exact ⟨leaves.goes.live, leaves.goes.schedulers⟩
  | stop => exact ⟨.refl, .refl _⟩
  | drain => exact goes_drain _ _
  | cancel => exact ⟨.refl, .tell _ _⟩
  | cancelled _ leaves => exact leaves.goes.trans (goes_drain _ _)
  | answer => exact ⟨.refl, .refl _⟩

/-! ## Calls and schedulers -/

def Told (w : ScheduledChannel τ) (i : Nat) : Prop := ∃ k, w.schedulers[i]? = some k ∧ k.told = true

def Stands (w : ScheduledChannel τ) : Closing → Prop
  | .arrives => True
  | .cancels i _ => w.Told i
  | .drains _ m => ∃ call, w.live.calls[m]? = some call
  | .returned agenda m answer => ∃ call t channel, w.live.calls[m]? = some call ∧
      call.answer = some (t, channel) ∧ answer = Agenda.stopAnswer agenda channel

structure Sound (w : ScheduledChannel τ) : Prop where
  pending : ∀ i ∈ w.pending, i < w.schedulers.length
  slot : ∀ i, w.slot = some i → i < w.schedulers.length
  replaces : ∀ i limit, w.replaces = some (i, limit) → w.Told i
  closings : ∀ c ∈ w.closings, w.Stands c

theorem opening_sound (channel : Channel τ) (grace : Nat) : (opening channel grace).Sound where
  pending := nofun
  slot := nofun
  replaces := nofun
  closings := nofun

private theorem told_tell {i : Nat} (known : i < w.schedulers.length) : (w.tell i).Told i := by
  refine ⟨(w.schedulers[i]).tell, ?_, rfl⟩
  rw [tell, List.getElem?_modify_eq, List.getElem?_eq_getElem known]
  rfl

theorem Told.goes {i : Nat} (told : w.Told i) (goes : w.Goes next) : next.Told i := by
  obtain ⟨k, found, is⟩ := told
  obtain ⟨after, there, keeps⟩ := goes.schedulers i k found
  exact ⟨after, there, keeps is⟩

private theorem Stands.goes {c : Closing} (stands : w.Stands c) (goes : w.Goes next) :
    next.Stands c := by
  cases c with
  | arrives => trivial
  | cancels i limit => exact Told.goes stands goes
  | drains agenda m =>
    obtain ⟨call, found⟩ := stands
    obtain ⟨after, there, _⟩ := LiveChannel.call_at_of_run goes.live found
    exact ⟨after, there⟩
  | returned agenda m answer =>
    obtain ⟨call, t, channel, found, answered, is⟩ := stands
    obtain ⟨after, there, keeps⟩ := LiveChannel.call_at_of_run goes.live found
    exact ⟨after, t, channel, there, keeps _ answered, is⟩

theorem Sound.carry (sound : w.Sound) (goes : w.Goes next)
    (pending : ∀ i ∈ next.pending, i ∈ w.pending ∨ i < next.schedulers.length)
    (slot : ∀ i, next.slot = some i → w.slot = some i ∨ i < next.schedulers.length)
    (replaces : ∀ i limit, next.replaces = some (i, limit) →
      w.replaces = some (i, limit) ∨ next.Told i)
    (closings : ∀ c ∈ next.closings, c ∈ w.closings ∨ next.Stands c) : next.Sound where
  pending i comes := (pending i comes).elim (fun known => goes.schedulers.lt (sound.pending i known)) id
  slot i is := (slot i is).elim (fun known => goes.schedulers.lt (sound.slot i known)) id
  replaces i limit is :=
    (replaces i limit is).elim (fun known => (sound.replaces i limit known).goes goes) id
  closings c made := (closings c made).elim (fun known => (sound.closings c known).goes goes) id

/-- Nobody comes, and no call is made or goes on. -/
theorem Sound.aside (sound : w.Sound) (goes : w.Goes next) (pending : next.pending = w.pending)
    (slot : next.slot = w.slot) (replaces : next.replaces = w.replaces)
    (closings : next.closings = w.closings) : next.Sound := by
  refine sound.carry goes ?_ ?_ ?_ ?_
  · exact fun _ comes => .inl (pending ▸ comes)
  · exact fun _ is => .inl (slot ▸ is)
  · exact fun _ _ is => .inl (replaces ▸ is)
  · exact fun _ made => .inl (closings ▸ made)

private theorem Sound.drain (sound : w.Sound) (n : Nat) (agenda : Except Fault Unit) :
    (w.drain n agenda).Sound := by
  refine sound.carry (goes_drain n agenda) (fun _ => .inl) (fun _ => .inl) (fun _ _ => .inl) ?_
  intro c made
  rcases List.mem_or_eq_of_mem_set made with known | rfl
  · exact .inl known
  · exact .inr ⟨_, List.getElem?_concat_length⟩

private theorem Sound.leaves (sound : w.Sound) {i limit : Nat} {agenda : Except Fault Unit}
    (leaves : w.Leaves i limit agenda next) : next.Sound := by
  have goes := leaves.goes
  cases leaves with
  | ended => exact sound
  | late => exact sound.aside goes rfl rfl rfl rfl

theorem Sound.step (sound : w.Sound) (step : Step w next) : next.Sound := by
  have goes := step.goes
  cases step with
  | channel => exact sound.aside goes rfl rfl rfl rfl
  | act => exact sound.aside goes rfl rfl rfl rfl
  | quit => exact sound.aside goes rfl rfl rfl rfl
  | schedule period =>
    refine sound.carry goes (fun i comes => ?_) (fun _ => .inl) (fun _ _ => .inl) (fun _ => .inl)
    rcases List.mem_append.mp comes with known | new
    · exact .inl known
    · rw [List.mem_singleton.mp new]
      exact .inr (by simp)
  | settle comes free vacant =>
    refine sound.carry goes (fun _ stays => .inl (List.mem_of_mem_erase stays)) ?_
      (fun _ _ => .inl) (fun _ => .inl)
    intro i is
    cases is
    exact .inr (sound.pending _ comes)
  | @replace i previous comes free kept =>
    refine sound.carry goes (fun _ stays => .inl (List.mem_of_mem_erase stays)) ?_ ?_
      (fun _ => .inl)
    · intro i is
      cases is
      exact .inr (goes.schedulers.lt (sound.pending _ comes))
    · intro i limit is
      cases is
      exact .inr (told_tell (sound.slot _ kept))
  | replaced waits leaves =>
    have after := sound.leaves leaves
    exact ⟨after.pending, after.slot, nofun, after.closings⟩
  | stop =>
    refine sound.carry goes (fun _ => .inl) (fun _ => .inl) (fun _ _ => .inl) fun c made => ?_
    rcases List.mem_append.mp made with known | new
    · exact .inl known
    · rw [List.mem_singleton.mp new]
      exact .inr trivial
  | drain => exact sound.drain _ _
  | cancel found free kept =>
    refine sound.carry goes (fun _ => .inl) nofun (fun _ _ => .inl) fun c made => ?_
    rcases List.mem_or_eq_of_mem_set made with known | rfl
    · exact .inl known
    · exact .inr (told_tell (sound.slot _ kept))
  | cancelled found leaves => exact (sound.leaves leaves).drain _ _
  | answer found made answered =>
    refine sound.carry goes (fun _ => .inl) (fun _ => .inl) (fun _ _ => .inl) fun c here => ?_
    rcases List.mem_or_eq_of_mem_set here with known | rfl
    · exact .inl known
    · exact .inr ⟨_, _, _, made, answered, rfl⟩

theorem Sound.run (sound : w.Sound) (run : Run w next) : next.Sound := by
  induction run with
  | refl => exact sound
  | tail _ last ih => exact ih.step last

theorem goes_of_run (run : Run w next) : w.Goes next := by
  induction run with
  | refl => exact ⟨.refl, .refl _⟩
  | tail _ last ih => exact ih.trans last.goes

/-! ## After a call to stop -/

variable {channel : Channel τ} {grace : Nat}

/-- After a call to stop has returned, nothing is accepted but what was let in before, and only
workers begin a job whom no call has told to go. There are none of these if no call to consume was
under way when the channel was first stopped. -/
theorem nothing_after_stop {before later : ScheduledChannel τ} (nobody : channel.workers = [])
    (unclaimed : channel.unclaimed = []) (apart : channel.supply.isBus = false)
    (run : Run (opening channel grace) before) {n m : Nat} {agenda answer : Except Fault Unit}
    (found : before.closings[n]? = some (.returned agenda m answer)) (after : Run before later) :
    (∀ ticket job, later.live.publish ticket job = { later.live with
        channel := later.live.channel.answer ticket (.error .channelClosed) }) ∧
      (∀ queue, later.live.channel.supply = .pool queue → queue.blocked = []) ∧
      (∀ crew, later.live.channel.consume crew = .error .channelClosed) ∧
      (∃ more, later.live.accepted = before.live.accepted ++ more ∧
        (more ++ later.live.publishing).Subperm before.live.publishing) ∧
      (∃ more, later.live.begun = before.live.begun ++ more ∧
        ∀ b ∈ more, before.live.Untold b.1) ∧
      (∀ first, LiveChannel.Run (.opening channel) first → first.calls = [] → first.NoneComes →
        LiveChannel.Run first.stop before.live → later.live.begun = before.live.begun ∧
          ((∀ call ∈ later.live.calls, call.answer.isSome = true) →
            later.live.channel.workers = [])) ∧
      ∃ call t drained, before.live.calls[m]? = some call ∧ call.answer = some (t, drained) ∧
        (∀ fault, drained = .error fault → answer = .error fault) ∧
        (drained = .ok () → answer = agenda) := by
  have sound := (opening_sound channel grace).run run
  obtain ⟨call, t, drained, made, answered, rfl⟩ := sound.closings _ (List.mem_of_getElem? found)
  obtain ⟨claimed, stage⟩ := StopCall.stage_of_answer answered
  have member : call ∈ before.live.calls := List.mem_of_getElem? made
  have worked := (goes_of_run run).live
  have onward := (goes_of_run after).live
  have refusesBefore :=
    (LiveChannel.heeded_of_run apart worked).refuses call member (by rw [stage]; nofun)
  have refuses := LiveChannel.refuses_of_run refusesBefore onward
  have staffed := (LiveChannel.opening_staffed nobody unclaimed).run worked
  refine ⟨LiveChannel.publish_refused refuses, fun queue is => (refuses.queue queue is).2,
      refuses.consume,
    LiveChannel.accepted_of_run refusesBefore onward, LiveChannel.begun_of_run staffed onward, ?_,
    call, t, drained, made, answered, ?_, ?_⟩
  · intro first earlier none noneComes meanwhile
    have halting := (LiveChannel.stop_halting noneComes none
      ((LiveChannel.lasts_of_run earlier).isBus.trans apart)).run meanwhile
    have dismissed : before.live.Dismissed :=
      ⟨refusesBefore, halting.told call member (by rw [stage]; rfl), halting.noneComes⟩
    refine ⟨(dismissed.settled staffed onward).1, fun all => ?_⟩
    obtain ⟨still, there, keeps⟩ := LiveChannel.call_at_of_run onward made
    obtain ⟨_, stageToo⟩ := StopCall.stage_of_answer (keeps _ answered)
    have settled := halting.run onward
    exact (staffed.run onward).workers_eq_nil
      (settled.claimed still (List.mem_of_getElem? there) (by rw [stageToo]; rfl))
      settled.noneComes.newcomers all
  · rintro fault rfl
    rfl
  · rintro rfl
    rfl

/-- A worker has a job, one is in the queue, and a scheduler who waited for a place has just gone.
-/
def lateChannel : LiveChannel Unit where
  channel := {
    supply := .pool ⟨1, [⟨8⟩], [], false⟩
    crewSize := 1
    grace := .ofMillis 50
    closed := false
    hired := 1
    workers := [⟨0, 0, .busy ⟨⟨7⟩, none⟩ none (), false⟩]
    unclaimed := [0]
    turns := [0]
    answers := [(1, .ok ()), (2, .ok ())] }
  now := 30
  calls := []
  accepted := [⟨1, ⟨7⟩⟩, ⟨2, ⟨8⟩⟩]
  handed := [⟨0, ⟨⟨7⟩, none⟩, none⟩]
  publishing := []
  recruits := []
  newcomers := []

/-- A scheduler waits for a place, and has been told to end. Another one has yet to take the slot.
-/
def waitingStop : ScheduledChannel Unit where
  live := { lateChannel with
    channel := { lateChannel.channel with supply := .pool ⟨1, [⟨8⟩], [⟨3, ⟨9⟩⟩], false⟩ } }
  grace := 30
  schedulers := [⟨⟨1000, 1000, .passing (.publishing 9 [] 2)⟩, true, none, 3⟩, .start 0 1000]
  pending := [1]
  slot := none
  replaces := none
  closings := [.cancels 0 30]

theorem run_waitingStop : Run (opening (.pool 1 1 (.ofMillis 50)) 30) waitingStop := by
  have started : Run (opening (.pool 1 1 (.ofMillis 50)) 30 : ScheduledChannel Unit) _ :=
    .tail (.tail (run_channel (LiveChannel.run_consume 0 ⟨rfl, rfl⟩ rfl)) (.schedule 1000))
      (.settle (.head _) rfl rfl)
  have begun : Run (opening (.pool 1 1 (.ofMillis 50)) 30 : ScheduledChannel Unit) _ :=
    .tail (.tail started (@Step.act _ _ 0 _ _ rfl (.tick rfl rfl (by decide))))
      (@Step.act _ _ 0 _ _ rfl (.list rfl (.ok [7, 8, 9]) 1))
  have taken : Run (opening (.pool 1 1 (.ofMillis 50)) 30 : ScheduledChannel Unit) _ :=
    .tail (.tail begun (.channel (.handOver (.head _)))) (.channel
      (@LiveChannel.Step.take _ _ ⟨0, 0, .asking, false⟩ _ _ _ (.head _) rfl rfl rfl rfl none ()))
  have queued : Run (opening (.pool 1 1 (.ofMillis 50)) 30 : ScheduledChannel Unit) _ :=
    .tail (.tail taken (@Step.act _ _ 0 _ _ rfl (.hear rfl rfl 2))) (.channel (.handOver (.head _)))
  have blocked : Run (opening (.pool 1 1 (.ofMillis 50)) 30 : ScheduledChannel Unit) _ :=
    .tail (.tail queued (@Step.act _ _ 0 _ _ rfl (.hear rfl rfl 3))) (.channel (.handOver (.head _)))
  have cancels : Run (opening (.pool 1 1 (.ofMillis 50)) 30 : ScheduledChannel Unit) _ :=
    .tail (.tail (.tail blocked .stop) (@Step.cancel _ _ 0 0 rfl rfl rfl)) (.schedule 1000)
  exact .tail cancels (.channel (@LiveChannel.Step.pass _ _ 30 (by decide)))

def lateStop : ScheduledChannel Unit where
  live := {
    channel := {
      supply := .pool ⟨1, [⟨8⟩], [], true⟩
      crewSize := 1
      grace := .ofMillis 50
      closed := true
      hired := 1
      workers := []
      unclaimed := []
      turns := []
      answers := [(1, .ok ()), (2, .ok ())] }
    now := 80
    calls := [⟨.answered [0] 80 (.error Channel.drainTimeout), 30, 80⟩]
    accepted := [⟨1, ⟨7⟩⟩, ⟨2, ⟨8⟩⟩]
    handed := [⟨0, ⟨⟨7⟩, none⟩, none⟩]
    publishing := []
    recruits := []
    newcomers := [] }
  grace := 30
  schedulers := [⟨⟨1000, 1000, .ended⟩, true, none, 3⟩, .start 0 1000]
  pending := [1]
  slot := none
  replaces := none
  closings := [.returned (.error Agenda.stopTimeout) 0 (.error Channel.drainTimeout)]

theorem run_lateStop :
    Run waitingStop lateStop ∧ LiveChannel.Run lateChannel.stop lateStop.live := by
  have waits : Run waitingStop _ := .tail (.tail (.tail
    (.single (@Step.cancelled _ _ _ 0 0 _ _ rfl (.late rfl rfl (by decide))))
    (.channel (.turnAway (i := 0) rfl rfl))) (.channel (.tell (i := 0) rfl rfl)))
    (.channel (.claim (i := 0) rfl rfl))
  have drained : Run waitingStop _ :=
    .tail (.tail waits (.channel (@LiveChannel.Step.pass _ _ 50 (by decide))))
    (.channel (@LiveChannel.Step.giveUp _ _ 0 _ _ rfl rfl (by decide)))
  have stopped : LiveChannel.Run lateChannel.stop _ := .tail (.tail lateChannel.run_halt_of_stop
    (@LiveChannel.Step.pass _ _ 50 (by decide))) (@LiveChannel.Step.giveUp _ _ 0 _ _ rfl rfl (by decide))
  have returned : Run waitingStop _ := .tail drained (@Step.answer _ _ 0 _ _ _ _ _ rfl rfl rfl)
  exact ⟨returned, stopped⟩

/-- The next scheduler comes with a job, which is refused, and his agenda ends. -/
theorem nothing_after_late_stop : ∃ later : ScheduledChannel Unit, Run lateStop later ∧
    later.live.accepted = lateStop.live.accepted ∧ later.live.channel.workers = [] ∧
    later.live.channel.consume 1 = .error .channelClosed ∧
    (4, .error .channelClosed) ∈ later.live.channel.answers ∧
    later.schedulers.map (·.agenda.isOver) = [true, true] ∧
    ∃ call t drained, lateStop.live.calls[0]? = some call ∧ call.answer = some (t, drained) ∧
      ∀ fault, drained = .error fault → Channel.drainTimeout = fault := by
  have asks : Run lateStop _ := .tail (.single
      (@Step.act _ lateStop 1 _ _ rfl (.tick rfl rfl (by decide))))
    (@Step.act _ _ 1 _ _ rfl (.list rfl (.ok [7]) 4))
  have refused : Run lateStop _ := .tail asks (@Step.act _ _ 1 _ _ rfl (.hear rfl rfl 5))
  have leaves : LiveChannel.Run waitingStop.live lateChannel := .single (.withdraw 3)
  have first : LiveChannel.Run (.opening (.pool 1 1 (.ofMillis 50))) lateChannel :=
    (goes_of_run run_waitingStop).live.trans leaves
  obtain ⟨_, _, consume, ⟨more, accepted, among⟩, _, gone, answered⟩ :=
    nothing_after_stop rfl rfl rfl (run_waitingStop.trans run_lateStop.1) (n := 0) rfl refused
  obtain ⟨call, t, drained, made, is, faults, _⟩ := answered
  have nobody : more = [] := (List.append_eq_nil_iff.mp (List.subperm_nil.mp among)).1
  subst nobody
  obtain ⟨_, empty⟩ := gone lateChannel first rfl ⟨rfl, rfl⟩ run_lateStop.2
  refine ⟨_, refused, accepted, empty (by decide), consume 1, by decide, rfl, call, t, drained,
      made,
    is, fun fault failed => ?_⟩
  exact Except.error.inj (faults fault failed)

/-- A job is in the queue. Somebody was let in to consume, and a new scheduler was let in with a
job. Then everything was stopped. -/
def overtakenStop : ScheduledChannel Unit where
  live := {
    channel := {
      supply := .pool ⟨2, [⟨7⟩], [], true⟩
      crewSize := 1
      grace := .ofMillis 50
      closed := true
      hired := 0
      workers := []
      unclaimed := []
      turns := []
      answers := [(1, .ok ())] }
    now := 0
    calls := [⟨.answered [] 0 (.ok ()), 0, 50⟩]
    accepted := [⟨1, ⟨7⟩⟩]
    handed := []
    publishing := [⟨2, ⟨8⟩⟩]
    recruits := [0]
    newcomers := [] }
  grace := 30
  schedulers := [⟨⟨1000, 1000, .passing (.publishing 8 [] 0)⟩, false, none, 2⟩]
  pending := [0]
  slot := none
  replaces := none
  closings := [.returned (.ok ()) 0 (.ok ())]

theorem run_overtakenStop : Run (opening (.pool 1 2 (.ofMillis 50)) 30) overtakenStop := by
  have queued : Run (opening (.pool 1 2 (.ofMillis 50)) 30 : ScheduledChannel Unit) _ :=
    .tail (run_channel (LiveChannel.run_publish rfl rfl 1 ⟨7⟩)) (.channel (.consume 0 rfl))
  have suspended : Run (opening (.pool 1 2 (.ofMillis 50)) 30 : ScheduledChannel Unit) _ :=
    .tail (.tail (.tail queued (.schedule 1000))
      (@Step.act _ _ 0 _ _ rfl (.tick rfl rfl (by decide))))
      (@Step.act _ _ 0 _ _ rfl (.list rfl (.ok [8]) 2))
  have closed : Run (opening (.pool 1 2 (.ofMillis 50)) 30 : ScheduledChannel Unit) _ :=
    .tail (.tail (.tail suspended .stop) (@Step.drain _ _ 0 rfl rfl rfl))
      (.channel (.turnAway (i := 0) rfl rfl))
  have waits : Run (opening (.pool 1 2 (.ofMillis 50)) 30 : ScheduledChannel Unit) _ :=
    .tail (.tail closed (.channel (.tell (i := 0) rfl rfl))) (.channel (.claim (i := 0) rfl rfl))
  have drained := Relation.ReflTransGen.tail waits (.channel (.drained (i := 0) rfl rfl rfl))
  have returned : Run (opening (.pool 1 2 (.ofMillis 50)) 30 : ScheduledChannel Unit) _ :=
    .tail drained (@Step.answer _ _ 0 _ _ _ _ _ rfl rfl rfl)
  exact returned

/-- The worker begins after everything was stopped, and takes the job. The scheduler's job is
accepted. -/
theorem not_forall_nothing_after_stop :
    (¬∀ (channel : Channel Unit) (grace : Nat) (before later : ScheduledChannel Unit) (n m : Nat)
        (agenda answer : Except Fault Unit), channel.workers = [] → channel.unclaimed = [] →
        channel.supply.isBus = false → Run (opening channel grace) before →
        before.closings[n]? = some (.returned agenda m answer) → Run before later →
        later.live.begun = before.live.begun) ∧
      ¬∀ (channel : Channel Unit) (grace : Nat) (before later : ScheduledChannel Unit) (n m : Nat)
        (agenda answer : Except Fault Unit), channel.workers = [] → channel.unclaimed = [] →
        channel.supply.isBus = false → Run (opening channel grace) before →
        before.closings[n]? = some (.returned agenda m answer) → Run before later →
        later.live.accepted = before.live.accepted := by
  constructor
  · intro claimed
    have taken : Run overtakenStop _ := .tail (.single (.channel (.enlist (.head _)))) (.channel
      (@LiveChannel.Step.take _ _ ⟨0, 0, .asking, false⟩ _ _ _ (.head _) rfl rfl rfl rfl none ()))
    have same := claimed _ 30 _ _ 0 0 _ _ rfl rfl rfl run_overtakenStop rfl taken
    cases same
  · intro claimed
    have handed : Run overtakenStop _ := .single (.channel (.handOver (.head _)))
    have same := claimed _ 30 _ _ 0 0 _ _ rfl rfl rfl run_overtakenStop rfl handed
    cases same

/-! ## Every call can return -/

/-- Whoever was told to end can do so at once. -/
theorem Told.exists_leaves {i : Nat} (told : w.Told i) (limit : Nat) :
    ∃ middle agenda, Run w middle ∧ middle.Leaves i limit agenda middle ∧
      middle.slot = w.slot ∧ middle.replaces = w.replaces ∧ middle.closings = w.closings := by
  obtain ⟨k, found, is⟩ := told
  cases isOver : k.agenda.isOver with
  | true => exact ⟨w, _, .refl, .ended found isOver, rfl, rfl, rfl⟩
  | false =>
    have there : (w.quit i k).schedulers[i]? = some k.quit :=
      List.getElem?_set_self (List.getElem?_eq_some_iff.mp found).1
    exact ⟨_, _, .single (.quit found is isOver), .ended there k.isOver_quit, rfl, rfl, rfl⟩

theorem set_at {cs : List Closing} {n : Nat} {c after : Closing} (found : cs[n]? = some c) :
    (cs.set n after)[n]? = some after :=
  List.getElem?_set_self (List.getElem?_eq_some_iff.mp found).1

/-- A call that waits for a scheduler comes to wait for the channel. -/
theorem Sound.exists_drains_of_cancels (sound : w.Sound) {n i limit : Nat}
    (found : w.closings[n]? = some (.cancels i limit)) :
    ∃ last agenda m, Run w last ∧ last.closings[n]? = some (.drains agenda m) := by
  have told : w.Told i := sound.closings _ (List.mem_of_getElem? found)
  obtain ⟨middle, agenda, run, leaves, _, _, closings⟩ := told.exists_leaves limit
  rw [← closings] at found
  exact ⟨_, agenda, _, .tail run (.cancelled found leaves), set_at found⟩

/-- The scheduler who is replaced ends, and then the slot is free. -/
theorem Sound.exists_drains_of_arrives (sound : w.Sound) {n : Nat}
    (found : w.closings[n]? = some .arrives) :
    ∃ last agenda m, Run w last ∧ last.closings[n]? = some (.drains agenda m) := by
  have freed : ∃ free, Run w free ∧ free.replaces = none ∧ free.closings = w.closings := by
    cases waits : w.replaces with
    | none => exact ⟨w, .refl, waits, rfl⟩
    | some replaced =>
      obtain ⟨i, limit⟩ := replaced
      obtain ⟨middle, agenda, run, leaves, _, held, closings⟩ :=
        (sound.replaces i limit waits).exists_leaves limit
      exact ⟨_, .tail run (.replaced (held.trans waits) leaves), rfl, closings⟩
  obtain ⟨free, run, isFree, closings⟩ := freed
  rw [← closings] at found
  cases slot : free.slot with
  | none => exact ⟨_, _, _, .tail run (.drain found isFree slot), set_at found⟩
  | some i =>
    have step := Step.cancel found isFree slot
    obtain ⟨last, agenda, m, onward, drains⟩ :=
      ((sound.run run).step step).exists_drains_of_cancels (set_at found)
    exact ⟨last, agenda, m, run.trans (.head step onward), drains⟩

/-- The channel answers, at the latest when its grace is over. -/
theorem exists_returned_of_drains (sound : w.Sound) {n m : Nat} {agenda : Except Fault Unit}
    (found : w.closings[n]? = some (.drains agenda m)) :
    ∃ last answer, Run w last ∧ last.closings[n]? = some (.returned agenda m answer) := by
  obtain ⟨call, made⟩ := sound.closings _ (List.mem_of_getElem? found)
  obtain ⟨d, after, onward, there, answered⟩ := LiveChannel.exists_answered made
  obtain ⟨⟨t, drained⟩, is⟩ := Option.isSome_iff_exists.mp answered
  have answer := Step.answer (w := { w with live := d }) found there is
  exact ⟨_, _, .tail (run_channel onward) answer, set_at found⟩

/-- A call to stop can always return, and nobody has to wait for a place in the queue for that. -/
theorem exists_returned (run : Run (opening channel grace) w) {n : Nat} {c : Closing}
    (found : w.closings[n]? = some c) : ∃ last agenda m answer, Run w last ∧
      last.closings[n]? = some (.returned agenda m answer) := by
  have sound := (opening_sound channel grace).run run
  have returns : (∃ last agenda m, Run w last ∧ last.closings[n]? = some (.drains agenda m)) →
      ∃ last agenda m answer, Run w last ∧
        last.closings[n]? = some (.returned agenda m answer) := by
    rintro ⟨middle, agenda, m, onward, drains⟩
    obtain ⟨last, answer, rest, returned⟩ := exists_returned_of_drains (sound.run onward) drains
    exact ⟨last, agenda, m, answer, onward.trans rest, returned⟩
  cases c with
  | arrives => exact returns (sound.exists_drains_of_arrives found)
  | cancels i limit => exact returns (sound.exists_drains_of_cancels found)
  | drains agenda m => exact returns ⟨w, agenda, m, .refl, found⟩
  | returned agenda m answer => exact ⟨w, agenda, m, answer, .refl, found⟩

end ScheduledChannel

end FeedIngest.Delivery
