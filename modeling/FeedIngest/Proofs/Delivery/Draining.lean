import Mathlib.Algebra.GroupWithZero.Nat
import FeedIngest.Proofs.Delivery.Stopping

/-!
# The answer to a call to stop

Any call to stop can have its answer, at the latest when its grace is over. If no call to consume is
under way when the workers of a pool or a broker channel are told to go, the first call that takes
over workers waits for all who are there.

The call waits for workers, and not for handlers. A worker who rests because the broker was out of
order does not hear that he has to go before he has rested, so that the call may be late, and may
even run out of its grace, though no handler runs. A pool has no such workers.

Of several calls to stop that are made at a time only the first to take over workers waits for those
who were there. Another one is answered at once, whatever they have in hand.
-/

set_option autoImplicit false

namespace FeedIngest.Delivery

variable {τ : Type}

/-! ## The end of the last handler -/

/-- When the last handler ended, or that moment if it came later. -/
def lastEnd (since : Nat) (handed : List Handling) : Nat :=
  handed.foldr (fun h latest => h.ended.elim latest fun ended => max ended.1 latest) since

section LastEnd

variable {since now : Nat} {handed : List Handling}

private theorem since_le_lastEnd : since ≤ lastEnd since handed := by
  unfold lastEnd
  induction handed with
  | nil => exact Nat.le_refl _
  | cons h handed ih =>
    rw [List.foldr_cons]
    cases h.ended with
    | none => exact ih
    | some ended => exact Nat.le_trans ih (Nat.le_max_right _ _)

private theorem le_lastEnd {h : Handling} (member : h ∈ handed) {t : Nat}
    {result : Except Fault Unit} (ended : h.ended = some (t, result)) :
    t ≤ lastEnd since handed := by
  unfold lastEnd
  induction member with
  | head =>
    rw [List.foldr_cons, ended]
    exact Nat.le_max_left _ _
  | tail other _ ih =>
    rw [List.foldr_cons]
    cases other.ended with
    | none => exact ih
    | some ended => exact Nat.le_trans ih (Nat.le_max_right _ _)

private theorem lastEnd_le (since_le : since ≤ now)
    (past : ∀ h ∈ handed, ∀ ended ∈ h.ended, ended.1 ≤ now) : lastEnd since handed ≤ now := by
  unfold lastEnd
  induction handed with
  | nil => exact since_le
  | cons h handed ih =>
    have rest := ih fun other member => past other (List.mem_cons_of_mem _ member)
    rw [List.foldr_cons]
    cases ends : h.ended with
    | none => exact rest
    | some ended => exact Nat.max_le.mpr ⟨past h List.mem_cons_self ended ends, rest⟩

end LastEnd

/-- What a call to stop has to answer, and when: that all are done, as soon as the last handler has
ended, or that its grace is over, if one runs on then. A handler may end at that very moment. -/
structure StopCall.Prompt (call : StopCall) (handed : List Handling) (t : Nat)
    (answer : Except Fault Unit) : Prop where
  drained : (∀ h ∈ handed, h.ended.isSome = true) → lastEnd call.began handed < call.limit →
    t = lastEnd call.began handed ∧ answer = .ok ()
  overrun : (∃ h ∈ handed, h.ended = none) → t = call.limit ∧ answer = .error Channel.drainTimeout
  justThen : (∀ h ∈ handed, h.ended.isSome = true) → lastEnd call.began handed = call.limit →
    t = call.limit ∧ (answer = .ok () ∨ answer = .error Channel.drainTimeout)

/-! ## Workers who rest -/

namespace Channel

section Rests

variable {c : Channel τ} {w : Worker τ} {wakes : Nat}

theorem mem_rests_dismiss {id : Nat} : wakes ∈ (c.dismiss id).rests ↔
    ∃ w ∈ c.workers, w.id ≠ id ∧ w.occupation = .resting wakes := by
  simp only [mem_rests, dismiss, List.mem_filter, bne_iff_ne, and_assoc]

theorem mem_rests_occupy (ids : c.ids.Nodup) (works : w ∈ c.workers) {task : Task}
    (busy : w.occupation.task? = some task) {occupation : Occupation τ}
    (awake : ∀ wakes, occupation ≠ .resting wakes) :
    wakes ∈ (c.occupy w.id occupation).rests ↔ wakes ∈ c.rests := by
  simp only [mem_rests, occupy, List.mem_map]
  constructor
  · rintro ⟨_, ⟨other, worked, rfl⟩, rest⟩
    split at rest
    · exact absurd rest (awake wakes)
    · exact ⟨other, worked, rest⟩
  · rintro ⟨other, worked, rest⟩
    refine ⟨other, ⟨other, worked, if_neg fun same => ?_⟩, rest⟩
    rw [← List.inj_on_of_nodup_map ids worked works same, rest] at busy
    cases busy

theorem rests_of_workers {c next : Channel τ} (workers : next.workers = c.workers) :
    next.rests = c.rests := by rw [rests, rests, workers]

end Rests

end Channel

namespace LiveChannel

variable {ready d next : LiveChannel τ} {call : StopCall} {k : Nat}

/-! ## Runs in good order -/

def Past (d : LiveChannel τ) : Prop := ∀ h ∈ d.handed, ∀ ended ∈ h.ended, ended.1 ≤ d.now

/-- A call to stop has no time to lose before it waits, and waits until its grace is over. -/
structure Timed (d : LiveChannel τ) (call : StopCall) : Prop where
  limit : call.limit = call.began + d.channel.grace.ticks
  since : call.began ≤ d.now
  early : call.stage.isEarly = true → call.began = d.now
  inTime : call.answer = none → d.now ≤ call.limit

private theorem Timed.keep (timed : d.Timed call) (grace : next.channel.grace = d.channel.grace)
    (now : next.now = d.now) : next.Timed call where
  limit := grace ▸ timed.limit
  since := now ▸ timed.since
  early := now ▸ timed.early
  inTime := now ▸ timed.inTime

private theorem Timed.reach (timed : d.Timed call) {stage : Stage} (still : call.answer = none)
    (early : stage.isEarly = true → call.stage.isEarly = true) : d.Timed (call.reach stage) where
  limit := timed.limit
  since := timed.since
  early is := timed.early (early is)
  inTime _ := timed.inTime still

theorem Step.now_le (step : Step d next) : d.now ≤ next.now := by
  cases step with
  | pass => exact Nat.le_add_right _ _
  | _ => exact Nat.le_refl _

theorem Past.step (past : d.Past) (staffed : d.Staffed) (step : Step d next) : next.Past := by
  have old : ∀ h ∈ d.handed, ∀ ended ∈ h.ended, ended.1 ≤ next.now := fun h member ended ends =>
    Nat.le_trans (past h member ended ends) step.now_le
  intro h member ended ends
  cases staffed.handing step with
  | keeps _ handed => exact old h (handed ▸ member) ended ends
  | takes w task works stays free busy handed =>
    rw [handed] at member
    rcases List.mem_append.mp member with known | new
    · exact old h known ended ends
    · rw [List.mem_singleton.mp new] at ends
      cases ends
  | ends id task inHand result busy handed =>
    rw [handed] at member
    obtain ⟨before, known, rfl⟩ := List.mem_map.mp member
    unfold Handling.endedBy at ends
    split at ends
    · cases ends
      exact step.now_le
    · exact old before known ended ends
  | givesUp _ _ _ _ handed => exact old h (handed ▸ member) ended ends

theorem Step.timed (step : Step d next) (timed : ∀ call ∈ d.calls, d.Timed call) :
    ∀ call ∈ next.calls, next.Timed call := by
  have grace := step.lasts.grace
  have proceeds : ∀ {i : Nat} {old : StopCall} {stage : Stage}, d.calls[i]? = some old →
      old.answer = none → (stage.isEarly = true → old.stage.isEarly = true) →
      next.now = d.now → ∀ call ∈ d.calls.modify i (StopCall.reach stage), next.Timed call := by
    intro i old stage found still early now call made
    rcases mem_modify found made with known | rfl
    · exact (timed call known).keep grace now
    · exact ((timed old (List.mem_of_getElem? found)).reach still early).keep grace now
  have early : ∀ {old : StopCall} {stage : Stage}, old.stage = stage → stage.isEarly = true →
      old.answer = none ∧ ∀ {after : Stage}, after.isEarly = true → old.stage.isEarly = true :=
    fun is still => ⟨StopCall.answer_of_isEarly (is ▸ still), fun _ => is ▸ still⟩
  cases step with
  | stop =>
    intro call made
    rcases List.mem_append.mp made with known | new
    · exact (timed call known).keep grace rfl
    · rw [List.mem_singleton.mp new]
      exact ⟨congrArg (d.now + ·.ticks) grace.symm, Nat.le_refl _, fun _ => rfl,
        fun _ => Nat.le_add_right _ _⟩
  | turnAway found closed => exact proceeds found (early closed rfl).1 (early closed rfl).2 rfl
  | tell found turned => exact proceeds found (early turned rfl).1 (early turned rfl).2 rfl
  | claim found told => exact proceeds found (early told rfl).1 nofun rfl
  | drained found waits =>
    intro call made
    rcases mem_modify found made with known | rfl
    · exact (timed call known).keep grace rfl
    · have old := timed _ (List.mem_of_getElem? found)
      exact ⟨old.limit, old.since, nofun, nofun⟩
  | giveUp found waits =>
    intro call made
    rcases mem_modify found made with known | rfl
    · exact (timed call known).keep grace rfl
    · have old := timed _ (List.mem_of_getElem? found)
      exact ⟨grace ▸ old.limit, old.since, nofun, nofun⟩
  | @pass span still =>
    intro call made
    have old := timed call made
    have since : call.began ≤ d.now + span := Nat.le_trans old.since (Nat.le_add_right _ _)
    rcases StopCall.lasts_cases (still.calls call made) with
      ⟨workers, waits, _, inTime⟩ | ⟨workers, t, answer, answered⟩
    · refine ⟨old.limit, since, fun early => ?_, fun _ => inTime⟩
      rw [waits] at early
      cases early
    · refine ⟨old.limit, since, fun early => ?_, fun unanswered => ?_⟩
      · rw [answered] at early
        cases early
      · rw [StopCall.answer, answered] at unanswered
        cases unanswered
  | _ => exact fun call made => (timed call made).keep grace rfl

structure Orderly (d : LiveChannel τ) : Prop where
  staffed : d.Staffed
  booked : d.Booked
  past : d.Past
  timed : ∀ call ∈ d.calls, d.Timed call

theorem opening_orderly {channel : Channel τ} (nobody : channel.workers = [])
    (unclaimed : channel.unclaimed = []) : (opening channel).Orderly where
  staffed := opening_staffed nobody unclaimed
  booked := opening_booked nobody
  past := nofun
  timed := nofun

theorem Orderly.step (orderly : d.Orderly) (step : Step d next) : next.Orderly where
  staffed := orderly.staffed.step step
  booked := orderly.booked.step orderly.staffed step
  past := orderly.past.step orderly.staffed step
  timed := step.timed orderly.timed

theorem Orderly.run (orderly : d.Orderly) (run : Run d next) : next.Orderly := by
  induction run with
  | refl => exact orderly
  | tail _ last ih => exact ih.step last

end LiveChannel

/-! ## Every call can have its answer -/

def Stage.left : Stage → Nat
  | .closed => 4
  | .turnedAway => 3
  | .told => 2
  | .waits _ => 1
  | .answered .. => 0

def stepsLeft (calls : List StopCall) : Nat := (calls.map (·.stage.left)).sum

private theorem stepsLeft_modify {calls : List StopCall} {i : Nat} {call : StopCall}
    {f : StopCall → StopCall} (found : calls[i]? = some call)
    (less : (f call).stage.left < call.stage.left) :
    stepsLeft (calls.modify i f) < stepsLeft calls := by
  unfold stepsLeft
  induction calls generalizing i with
  | nil => cases found
  | cons other calls ih =>
    cases i with
    | zero =>
      cases found
      rw [List.modify_zero_cons, List.map_cons, List.map_cons, List.sum_cons, List.sum_cons]
      exact Nat.add_lt_add_right less _
    | succ i =>
      rw [List.modify_succ_cons, List.map_cons, List.map_cons, List.sum_cons, List.sum_cons]
      exact Nat.add_lt_add_left (ih found) _

namespace LiveChannel

variable {ready d next : LiveChannel τ} {call : StopCall} {k : Nat}

def toWait (limit : Nat) (d : LiveChannel τ) : Nat :=
  stepsLeft d.calls + d.channel.workers.length + (limit - d.now)

/-- A call to stop that something has to happen to can get on. -/
theorem Step.of_not_lasts (found : d.calls[k]? = some call)
    (presses : call.lasts d.channel (d.now + 1) = false) : ∃ next f, Step d next ∧
      next.calls = d.calls.modify k f ∧ (∀ call, (f call).limit = call.limit) ∧
      (f call).stage.left < call.stage.left ∧
      next.channel.workers.length ≤ d.channel.workers.length ∧ next.now = d.now := by
  cases stage : call.stage with
  | closed =>
    exact ⟨_, _, .turnAway found stage, rfl, fun _ => rfl, Nat.lt_succ_self 3,
      Nat.le_of_eq (congrArg List.length d.channel.turnAway_delivers.workers), rfl⟩
  | turnedAway =>
    exact ⟨_, _, .tell found stage, rfl, fun _ => rfl, Nat.lt_succ_self 2,
      Nat.le_of_eq (List.length_map _), rfl⟩
  | told =>
    exact ⟨_, _, .claim found stage, rfl, fun _ => rfl, Nat.lt_succ_self 1, Nat.le_refl _, rfl⟩
  | waits workers =>
    by_cases ended : d.channel.haveEnded workers = true
    · exact ⟨_, _, .drained found stage ended, rfl, fun _ => rfl, Nat.zero_lt_one, Nat.le_refl _,
        rfl⟩
    · have late : call.limit ≤ d.now := by
        rw [StopCall.lasts, stage] at presses
        simpa [ended, Nat.lt_succ_iff] using presses
      exact ⟨_, _, .giveUp found stage late, rfl, fun _ => rfl, Nat.zero_lt_one,
        d.channel.length_abort_le workers, rfl⟩
  | answered workers moment answer =>
    rw [StopCall.lasts, stage] at presses
    cases presses

private theorem modify_at {calls : List StopCall} {i : Nat} {f : StopCall → StopCall}
    (found : calls[k]? = some call) (same : ∀ call, (f call).limit = call.limit) :
    ∃ after, (calls.modify i f)[k]? = some after ∧ after.limit = call.limit := by
  by_cases here : i = k
  · exact ⟨f call, here ▸ modify_self (here ▸ found), same call⟩
  · exact ⟨call, (List.getElem?_modify_ne f calls here).trans found, rfl⟩

/-- Whoever has been told to go and is free leaves, and then time passes until the call gives up. -/
theorem exists_advance (found : d.calls[k]? = some call) (waits : call.answer = none) :
    ∃ next after, Step d next ∧ next.calls[k]? = some after ∧ after.limit = call.limit ∧
      next.toWait call.limit < d.toWait call.limit := by
  unfold toWait
  by_cases presses : ∃ other ∈ d.calls, other.lasts d.channel (d.now + 1) = false
  · obtain ⟨other, made, presses⟩ := presses
    obtain ⟨i, here⟩ := List.mem_iff_getElem?.mp made
    obtain ⟨next, f, step, calls, limits, less, workers, now⟩ := Step.of_not_lasts here presses
    obtain ⟨after, there, same⟩ := modify_at found limits
    refine ⟨next, after, step, calls ▸ there, same, ?_⟩
    have fewer := stepsLeft_modify here less
    rw [calls, now]
    omega
  by_cases leaver : ∃ w ∈ d.channel.workers, w.dismissed = true ∧ w.occupation.isFreeAt d.now = true
  · obtain ⟨w, works, told, free⟩ := leaver
    have goes : d.channel.fetchAfter (d.channel.queue.expired d.now) d.now w = (.ends, d.channel) :=
      if_pos told
    have step := Step.look works free (.refl _) (by rw [goes]; rfl)
    rw [goes] at step
    refine ⟨_, call, step, found, rfl, ?_⟩
    have fewer : (d.channel.workers.filter (·.id != w.id)).length < d.channel.workers.length := by
      refine List.length_filter_lt_length_iff_exists.mpr ⟨w, works, ?_⟩
      rw [bne_self_eq_false]
      exact Bool.false_ne_true
    exact Nat.add_lt_add_right (Nat.add_lt_add_left fewer _) _
  · have lasts : ∀ other ∈ d.calls, other.lasts d.channel (d.now + 1) = true := fun other made =>
      Bool.of_not_eq_false fun is => presses ⟨other, made, is⟩
    have still : d.Still 1 := by
      refine ⟨fun w works told => ?_, lasts⟩
      have awake : w.occupation.isFreeAt d.now ≠ true := fun free => leaver ⟨w, works, told, free⟩
      cases is : w.occupation with
      | busy => rfl
      | resting wakes =>
        rw [is] at awake
        exact decide_eq_true (Nat.lt_of_not_le fun passed => awake (decide_eq_true passed))
      | asking => exact absurd (by rw [is]; rfl) awake
      | waiting => exact absurd (by rw [is]; rfl) awake
    refine ⟨_, call, .pass still, found, rfl, ?_⟩
    have inTime : d.now + 1 ≤ call.limit := by
      rcases StopCall.lasts_cases (lasts call (List.mem_of_getElem? found)) with
        ⟨_, _, _, inTime⟩ | ⟨_, _, _, answered⟩
      · exact inTime
      · rw [StopCall.answer, answered] at waits
        cases waits
    show stepsLeft d.calls + d.channel.workers.length + (call.limit - (d.now + 1)) < _
    omega

theorem exists_answered (found : d.calls[k]? = some call) :
    ∃ last after, Run d last ∧ last.calls[k]? = some after ∧ after.answer.isSome = true := by
  induction left : d.toWait call.limit using Nat.strongRecOn generalizing d call with
  | ind left ih =>
    cases waits : call.answer with
    | some _ => exact ⟨d, call, .refl, found, by rw [waits]; rfl⟩
    | none =>
      obtain ⟨next, between, step, there, same, less⟩ := exists_advance found waits
      obtain ⟨last, after, onward, here, answered⟩ := ih _ (left ▸ same.symm ▸ less) there rfl
      exact ⟨last, after, .head step onward, here, answered⟩

/-! ## The call that waits for all -/

structure Awaits (ready : LiveChannel τ) (call : StopCall) (d : LiveChannel τ) : Prop where
  occasion : d.channel.busy = [] → d.now ≤ lastEnd call.began d.handed ∨
    ∃ wakes ∈ ready.channel.rests, d.now ≤ wakes
  rested : ∀ wakes ∈ ready.channel.rests, wakes ≤ d.now ∨ wakes ∈ d.channel.rests

structure Answered (ready : LiveChannel τ) (call : StopCall) (t : Nat) (answer : Except Fault Unit)
    (d : LiveChannel τ) : Prop where
  gone : d.channel.workers = []
  lastEnd_le : lastEnd call.began d.handed ≤ t
  inTime : t ≤ call.limit
  occasion : (∀ h ∈ d.handed, h.ended.isSome = true) → t ≤ lastEnd call.began d.handed ∨
    ∃ wakes ∈ ready.channel.rests, t ≤ wakes
  answers :
    (answer = .ok () ∧ (∀ h ∈ d.handed, h.ended.isSome = true) ∧
      ∀ wakes ∈ ready.channel.rests, wakes ≤ t) ∨
    (answer = .error Channel.drainTimeout ∧ t = call.limit)

/-- A call to stop took over all who were there, and nobody comes. Other calls wait for nobody. -/
structure Draining (ready : LiveChannel τ) (k : Nat) (call : StopCall) (d : LiveChannel τ) :
    Prop where
  dismissed : d.Dismissed
  unclaimed : d.channel.unclaimed = []
  found : d.calls[k]? = some call
  late : call.stage.isEarly = false
  alone : ∀ (i : Nat) (other : StopCall), i ≠ k → d.calls[i]? = some other → other.claimed = []
  began : call.began = ready.now
  rests : ∀ wakes ∈ d.channel.rests, wakes ∈ ready.channel.rests
  awaits : call.answer = none → Awaits ready call d
  answered : ∀ t answer, call.answer = some (t, answer) → Answered ready call t answer d

theorem claim_draining (orderly : ready.Orderly) (dismissed : ready.Dismissed)
    (found : ready.calls[k]? = some call) (told : call.stage = .told)
    (first : ∀ other ∈ ready.calls, other.claimed = []) :
    Draining ready k (call.reach (.waits ready.channel.unclaimed)) (ready.claim k) where
  dismissed := dismissed.step (.claim found told)
  unclaimed := rfl
  found := modify_self found
  late := rfl
  alone i other apart here := by
    rw [claim, List.getElem?_modify_ne _ _ (Ne.symm apart)] at here
    exact first other (List.mem_of_getElem? here)
  began := (orderly.timed call (List.mem_of_getElem? found)).early (by rw [told]; rfl)
  rests _ rest := rest
  awaits _ := {
    occasion := fun _ => by
      have began := (orderly.timed call (List.mem_of_getElem? found)).early (by rw [told]; rfl)
      exact .inl (Nat.le_trans (Nat.le_of_eq began.symm) since_le_lastEnd)
    rested := fun _ => .inr }
  answered := nofun

/-- The call is prompt unless somebody rests after the last handler has ended. -/
theorem Answered.prompt_iff {t : Nat} {answer : Except Fault Unit}
    (answered : Answered ready call t answer d) : call.Prompt d.handed t answer ↔
      ((∀ h ∈ d.handed, h.ended.isSome = true) → lastEnd call.began d.handed < call.limit →
        ∀ wakes ∈ ready.channel.rests, wakes ≤ lastEnd call.began d.handed) := by
  have notBefore := answered.lastEnd_le
  have inTime := answered.inTime
  constructor
  · intro prompt ended early wakes rest
    obtain ⟨same, ok⟩ := prompt.drained ended early
    rcases answered.answers with ⟨_, _, rested⟩ | ⟨error, _⟩
    · exact same ▸ rested wakes rest
    · cases ok.symm.trans error
  · intro free
    constructor
    · intro ended early
      have passed : t ≤ lastEnd call.began d.handed := by
        rcases answered.occasion ended with passed | ⟨wakes, rest, notAfter⟩
        · exact passed
        · exact Nat.le_trans notAfter (free ended early wakes rest)
      rcases answered.answers with ⟨ok, _⟩ | ⟨_, atLimit⟩
      · exact ⟨Nat.le_antisymm passed notBefore, ok⟩
      · omega
    · rintro ⟨h, member, runs⟩
      rcases answered.answers with ⟨_, ended, _⟩ | ⟨error, atLimit⟩
      · have isDone := ended h member
        rw [runs] at isDone
        cases isDone
      · exact ⟨atLimit, error⟩
    · intro ended same
      exact ⟨by omega, answered.answers.imp And.left And.left⟩

section Draining

variable {i : Nat}

theorem Draining.claims (draining : Draining ready k call d) (staffed : d.Staffed) {id : Nat}
    (there : id ∈ d.channel.ids) : call.answer = none ∧ id ∈ call.claimed := by
  rcases staffed.covered id there with free | late | ⟨other, made, waits, claims⟩
  · rw [draining.unclaimed] at free
    cases free
  · rw [draining.dismissed.noneComes.newcomers] at late
    cases late
  · obtain ⟨m, here⟩ := List.mem_iff_getElem?.mp made
    by_cases same : m = k
    · cases (same ▸ here).symm.trans draining.found
      exact ⟨waits, claims⟩
    · rw [draining.alone m other same here] at claims
      cases claims

/-- What does not concern the call, other than that handlers end and workers leave who do not rest
any more. -/
theorem Draining.carry (draining : Draining ready k call d) (step : Step d next)
    (unclaimed : next.channel.unclaimed = []) (found : next.calls[k]? = some call)
    (alone : ∀ (i : Nat) (other : StopCall), i ≠ k → next.calls[i]? = some other → other.claimed = [])
    (now : next.now = d.now) (rests : ∀ wakes ∈ next.channel.rests, wakes ∈ d.channel.rests)
    (rested : ∀ wakes ∈ d.channel.rests, wakes ≤ d.now ∨ wakes ∈ next.channel.rests)
    (occasion : next.channel.busy = [] → d.channel.busy = [] ∧ next.handed = d.handed ∨
      d.now ≤ lastEnd call.began next.handed)
    (gone : d.channel.workers = [] → next.channel.workers = [] ∧ next.handed = d.handed) :
    Draining ready k call next where
  dismissed := draining.dismissed.step step
  unclaimed := unclaimed
  found := found
  late := draining.late
  alone := alone
  began := draining.began
  rests wakes rest := draining.rests wakes (rests wakes rest)
  awaits waits := by
    have awaits := draining.awaits waits
    constructor
    · intro idle
      rw [now]
      rcases occasion idle with ⟨idleBefore, handed⟩ | ended
      · rw [handed]
        exact awaits.occasion idleBefore
      · exact .inl ended
    · intro wakes rest
      rw [now]
      rcases awaits.rested wakes rest with passed | still
      · exact .inl passed
      · exact rested wakes still
  answered t answer is := by
    have answered := draining.answered t answer is
    obtain ⟨goneToo, handed⟩ := gone answered.gone
    constructor
    · exact goneToo
    · exact handed ▸ answered.lastEnd_le
    · exact answered.inTime
    · exact handed ▸ answered.occasion
    · exact handed ▸ answered.answers

/-- Neither workers nor handlers are concerned. -/
theorem Draining.aside (draining : Draining ready k call d) (step : Step d next)
    (workers : next.channel.workers = d.channel.workers) (handed : next.handed = d.handed)
    (unclaimed : next.channel.unclaimed = []) (found : next.calls[k]? = some call)
    (alone : ∀ (i : Nat) (other : StopCall), i ≠ k → next.calls[i]? = some other → other.claimed = [])
    (now : next.now = d.now) : Draining ready k call next := by
  have rests : next.channel.rests = d.channel.rests := Channel.rests_of_workers workers
  refine draining.carry step unclaimed found alone now ?_ ?_ ?_ ?_
  · exact fun wakes rest => rests ▸ rest
  · exact fun wakes rest => .inr (rests ▸ rest)
  · intro idle
    rw [Channel.busy, workers] at idle
    exact .inl ⟨idle, handed⟩
  · exact fun nobody => ⟨workers.trans nobody, handed⟩

private theorem Draining.leave (draining : Draining ready k call d) (staffed : d.Staffed)
    {w : Worker τ} (works : w ∈ d.channel.workers) (free : w.occupation.isFreeAt d.now = true)
    (step : Step d { d with channel := d.channel.dismiss w.id }) :
    Draining ready k call { d with channel := d.channel.dismiss w.id } := by
  refine draining.carry step draining.unclaimed draining.found draining.alone rfl ?_ ?_ ?_ ?_
  · intro wakes rest
    obtain ⟨other, worked, _, rests⟩ := Channel.mem_rests_dismiss.mp rest
    exact Channel.mem_rests.mpr ⟨other, worked, rests⟩
  · intro wakes rest
    obtain ⟨other, worked, rests⟩ := Channel.mem_rests.mp rest
    by_cases same : other.id = w.id
    · rw [← List.inj_on_of_nodup_map staffed.ids worked works same, rests] at free
      exact .inl (of_decide_eq_true free)
    · exact .inr (Channel.mem_rests_dismiss.mpr ⟨other, worked, same, rests⟩)
  · intro idle
    refine .inl ⟨List.eq_nil_iff_forall_not_mem.mpr ?_, rfl⟩
    rintro ⟨id, task⟩ busy
    have differs : id ≠ w.id := by
      rintro rfl
      exact Channel.not_mem_busy staffed.ids works (Occupation.task?_of_isFreeAt free) busy
    have still := Channel.mem_busy_dismiss.mpr ⟨differs, busy⟩
    rw [idle] at still
    cases still
  · exact fun nobody => absurd nobody (List.ne_nil_of_mem works)

private theorem Draining.goOn (draining : Draining ready k call d) (staffed : d.Staffed)
    {w : Worker τ} {task : Task} (works : w ∈ d.channel.workers)
    (busy : w.occupation.task? = some task)
    (wakes : Option Nat) (stage : τ) : Draining ready k call
      { d with channel := d.channel.occupy w.id (.busy task wakes stage) } := by
  have same : ∀ moment, moment ∈ (d.channel.occupy w.id (.busy task wakes stage)).rests ↔
      moment ∈ d.channel.rests := fun _ => Channel.mem_rests_occupy staffed.ids works busy nofun
  refine draining.carry (.goOn works busy wakes stage) draining.unclaimed draining.found
    draining.alone rfl ?_ ?_ ?_ ?_
  · exact fun moment => (same moment).mp
  · exact fun moment rest => .inr ((same moment).mpr rest)
  · intro idle
    have inHand : (w.id, task) ∈ (d.channel.occupy w.id (.busy task wakes stage)).busy :=
      (Channel.mem_busy_occupy works).mpr (.inr ⟨rfl, rfl⟩)
    rw [idle] at inHand
    cases inHand
  · exact fun nobody => absurd nobody (List.ne_nil_of_mem works)

private theorem Draining.finish (draining : Draining ready k call d) (orderly : d.Orderly)
    {w : Worker τ} {task : Task} (works : w ∈ d.channel.workers)
    (busy : w.occupation.task? = some task)
    (result : Except Fault Unit) : Draining ready k call (d.finish w.id task result) := by
  have moved := d.channel.finish_delivers w.id task result
  have rests : (d.channel.finish w.id task result).rests = (d.channel.occupy w.id .asking).rests :=
    Channel.rests_of_workers moved.workers
  have same : ∀ moment, moment ∈ (d.channel.occupy w.id .asking).rests ↔
      moment ∈ d.channel.rests := fun _ =>
    Channel.mem_rests_occupy orderly.staffed.ids works busy nofun
  refine draining.carry (.finish works busy result)
    (moved.keeps.unclaimed.trans draining.unclaimed) draining.found draining.alone rfl ?_ ?_ ?_ ?_
  · exact fun moment rest => (same moment).mp (rests ▸ rest)
  · intro moment rest
    refine .inr ?_
    rw [LiveChannel.finish, rests]
    exact (same moment).mpr rest
  · intro _
    have inHand := orderly.booked.inHand w.id task (Channel.mem_busy.mpr ⟨w, works, rfl, busy⟩)
    have ended : (Handling.endedBy w.id d.now result ⟨w.id, task, none⟩).ended =
        some (d.now, result) := by rw [Handling.endedBy, if_pos ⟨rfl, rfl⟩]
    exact .inr (le_lastEnd (List.mem_map_of_mem inHand) ended)
  · exact fun nobody => absurd nobody (List.ne_nil_of_mem works)

/-- Another call gets on, and waits for nobody then. -/
theorem Draining.modify (draining : Draining ready k call d) (apart : i ≠ k)
    {f : StopCall → StopCall} (free : ∀ other, d.calls[i]? = some other → (f other).claimed = []) :
    (d.calls.modify i f)[k]? = some call ∧
      ∀ (m : Nat) (other : StopCall), m ≠ k → (d.calls.modify i f)[m]? = some other →
        other.claimed = [] := by
  refine ⟨(List.getElem?_modify_ne f d.calls apart).trans draining.found, ?_⟩
  intro m other differs here
  by_cases same : i = m
  · subst same
    rw [List.getElem?_modify_eq] at here
    obtain ⟨old, there, rfl⟩ := Option.map_eq_some_iff.mp here
    exact free old there
  · rw [List.getElem?_modify_ne f d.calls same] at here
    exact draining.alone m other differs here

private theorem Draining.not_cutOff (draining : Draining ready k call d)
    (waits : call.answer = none) {id : Nat} : ¬d.CutOff id := by
  rintro ⟨other, made, ⟨t, answer⟩, claims⟩
  obtain ⟨m, here⟩ := List.mem_iff_getElem?.mp made
  by_cases same : m = k
  · cases (same ▸ here).symm.trans draining.found
    cases waits.symm.trans answer
  · rw [draining.alone m other same here] at claims
    cases claims

theorem Draining.reply (draining : Draining ready k call d) (orderly : d.Orderly)
    (waits : call.answer = none) {channel : Channel τ} {answer : Except Fault Unit}
    (step : Step d ({ d with channel }.reply k answer)) (unclaimed : channel.unclaimed = [])
    (gone : channel.workers = [])
    (idle : (∀ h ∈ d.handed, h.ended.isSome = true) → d.channel.busy = [])
    (answers : (answer = .ok () ∧ (∀ h ∈ d.handed, h.ended.isSome = true) ∧
        ∀ wakes ∈ ready.channel.rests, wakes ≤ d.now) ∨
      (answer = .error Channel.drainTimeout ∧ d.now = call.limit)) :
    Draining ready k (call.answered d.now answer) ({ d with channel }.reply k answer) where
  dismissed := draining.dismissed.step step
  unclaimed := unclaimed
  found := modify_self draining.found
  late := rfl
  alone i other apart here := by
    rw [LiveChannel.reply, List.getElem?_modify_ne _ _ (Ne.symm apart)] at here
    exact draining.alone i other apart here
  began := draining.began
  rests wakes rest := by
    obtain ⟨w, works, _⟩ := Channel.mem_rests.mp rest
    rw [show (LiveChannel.reply k answer { d with channel }).channel.workers = [] from gone] at works
    cases works
  awaits := nofun
  answered t result is := by
    cases is
    have timed := orderly.timed call (List.mem_of_getElem? draining.found)
    constructor
    · exact gone
    · exact lastEnd_le timed.since orderly.past
    · exact timed.inTime waits
    · exact fun ended => (draining.awaits waits).occasion (idle ended)
    · exact answers

private theorem Draining.drain (draining : Draining ready k call d) (orderly : d.Orderly)
    {workers : List Nat} (waits : call.stage = .waits workers)
    (ended : d.channel.haveEnded workers = true) :
    Draining ready k (call.answered d.now (.ok ())) (d.reply k (.ok ())) := by
  have unanswered := StopCall.answer_of_waits waits
  have nobody : d.channel.ids = [] := List.eq_nil_iff_forall_not_mem.mpr fun id there => by
    have claims := (draining.claims orderly.staffed there).2
    rw [StopCall.claimed_of_waits waits] at claims
    exact Channel.haveEnded_iff.mp ended id claims there
  have gone : d.channel.workers = [] := List.map_eq_nil_iff.mp nobody
  have idle : d.channel.busy = [] := by
    rw [Channel.busy, gone]
    rfl
  refine draining.reply orderly unanswered (.drained draining.found waits ended) draining.unclaimed
    gone (fun _ => idle) (.inl ⟨rfl, ?_, ?_⟩)
  · intro h member
    cases runs : h.ended with
    | some _ => rfl
    | none =>
      rcases orderly.booked.running h member runs with busy | cut
      · rw [idle] at busy
        cases busy
      · exact absurd cut (draining.not_cutOff unanswered)
  · intro wakes rest
    rcases (draining.awaits unanswered).rested wakes rest with passed | still
    · exact passed
    · obtain ⟨w, works, _⟩ := Channel.mem_rests.mp still
      rw [gone] at works
      cases works

private theorem Draining.giveUp (draining : Draining ready k call d) (orderly : d.Orderly)
    {workers : List Nat} (waits : call.stage = .waits workers) (late : call.limit ≤ d.now) :
    Draining ready k (call.answered d.now (.error Channel.drainTimeout))
      ({ d with channel := d.channel.abort workers }.reply k (.error Channel.drainTimeout)) := by
  have unanswered := StopCall.answer_of_waits waits
  have nobody : (d.channel.abort workers).ids = [] :=
    List.eq_nil_iff_forall_not_mem.mpr fun id stays => by
      obtain ⟨there, unclaimed⟩ := Channel.mem_ids_abort.mp stays
      have claims := (draining.claims orderly.staffed there).2
      rw [StopCall.claimed_of_waits waits] at claims
      exact unclaimed claims
  have inTime := (orderly.timed call (List.mem_of_getElem? draining.found)).inTime unanswered
  refine draining.reply orderly unanswered (.giveUp draining.found waits late)
    ((Channel.keeps_abort _ _).unclaimed.trans draining.unclaimed) (List.map_eq_nil_iff.mp nobody) ?_
    (.inr ⟨rfl, Nat.le_antisymm inTime late⟩)
  intro ended
  refine List.eq_nil_iff_forall_not_mem.mpr ?_
  rintro ⟨id, task⟩ busy
  cases ended _ (orderly.booked.inHand id task busy)

private theorem Draining.pass (draining : Draining ready k call d) {span : Nat}
    (still : d.Still span) :
    Draining ready k call { d with now := d.now + span } where
  dismissed := draining.dismissed.step (.pass still)
  unclaimed := draining.unclaimed
  found := draining.found
  late := draining.late
  alone := draining.alone
  began := draining.began
  rests := draining.rests
  awaits waits := by
    constructor
    · intro idle
      have somebody : d.channel.workers ≠ [] := by
        intro nobody
        rcases StopCall.lasts_cases (still.calls call (List.mem_of_getElem? draining.found)) with
          ⟨workers, _, there, _⟩ | ⟨_, _, _, answered⟩
        · have ended : d.channel.haveEnded workers = true :=
            Channel.haveEnded_iff.mpr fun id _ => by
            rw [Channel.ids, nobody]
            exact List.not_mem_nil
          cases there.symm.trans ended
        · rw [StopCall.answer, answered] at waits
          cases waits
      obtain ⟨w, works⟩ := List.exists_mem_of_ne_nil _ somebody
      have told := draining.dismissed.told w works
      rcases Occupation.lasts_iff.mp (still.workers w works told) with busy | ⟨wakes, is, notAfter⟩
      · obtain ⟨task, has⟩ := Option.isSome_iff_exists.mp busy
        have inHand := Channel.mem_busy.mpr ⟨w, works, rfl, has⟩
        rw [show d.channel.busy = [] from idle] at inHand
        cases inHand
      · exact .inr ⟨wakes, draining.rests wakes (Channel.mem_rests.mpr ⟨w, works, is⟩), notAfter⟩
    · intro wakes rest
      exact ((draining.awaits waits).rested wakes rest).imp_left fun passed =>
        Nat.le_trans passed (Nat.le_add_right _ _)
  answered t answer is := by
    have answered := draining.answered t answer is
    exact ⟨answered.gone, answered.lastEnd_le, answered.inTime, answered.occasion, answered.answers⟩

theorem Draining.step (draining : Draining ready k call d) (orderly : d.Orderly)
    (step : Step d next) : ∃ after, Draining ready k after next := by
  -- Other calls to stop wait for nobody, so that what they are answered changes nothing for this one.
  have apart : ∀ {i : Nat} {other : StopCall}, d.calls[i]? = some other →
      other.stage.isEarly = true → i ≠ k := by
    rintro i other found early rfl
    cases draining.found.symm.trans found
    cases early.symm.trans draining.late
  cases draining.dismissed.step_cases step with
  | aside workers keeps handed calls now =>
    refine ⟨call, draining.aside step workers handed (keeps.unclaimed.trans draining.unclaimed) ?_ ?_
      now⟩
    · rcases calls with same | ⟨new, _, more⟩
      · exact same ▸ draining.found
      · have known : k < d.calls.length := (List.getElem?_eq_some_iff.mp draining.found).1
        rw [more, List.getElem?_append_left known]
        exact draining.found
    · intro i other differs here
      rcases calls with same | ⟨new, early, more⟩
      · exact draining.alone i other differs (same ▸ here)
      · rw [more] at here
        rcases Nat.lt_or_ge i d.calls.length with old | later
        · exact draining.alone i other differs (List.getElem?_append_left old ▸ here)
        · rw [List.getElem?_append_right later] at here
          exact List.mem_singleton.mp (List.mem_of_getElem? here) ▸ StopCall.claimed_of_isEarly early
  | leaves w works free is =>
    subst is
    exact ⟨call, draining.leave orderly.staffed works free step⟩
  | goesOn w task works busy wakes stage is =>
    subst is
    exact ⟨call, draining.goOn orderly.staffed works busy wakes stage⟩
  | ends w task works busy result is =>
    subst is
    exact ⟨call, draining.finish orderly works busy result⟩
  | proceeds i other found early stage still workers keeps handed calls now =>
    obtain ⟨here, alone⟩ := draining.modify (f := StopCall.reach stage) (apart found early)
      fun _ _ => StopCall.claimed_of_isEarly still
    exact ⟨call, draining.aside step workers handed (keeps.unclaimed.trans draining.unclaimed)
      (calls ▸ here) (calls ▸ alone) now⟩
  | claims i other found told is =>
    subst is
    obtain ⟨here, alone⟩ := draining.modify (f := StopCall.reach (.waits d.channel.unclaimed))
      (apart found (by rw [told]; rfl)) fun _ _ => draining.unclaimed
    exact ⟨call, draining.aside step rfl rfl rfl here alone rfl⟩
  | drained i other workers found waits ended is =>
    subst is
    by_cases same : i = k
    · subst same
      cases draining.found.symm.trans found
      exact ⟨_, draining.drain orderly waits ended⟩
    · obtain ⟨here, alone⟩ := draining.modify (f := StopCall.answered d.now (.ok ())) same
        fun old there => draining.alone i old same there
      exact ⟨call, draining.aside step rfl rfl draining.unclaimed here alone rfl⟩
  | givesUp i other workers found waits late is =>
    subst is
    by_cases same : i = k
    · subst same
      cases draining.found.symm.trans found
      exact ⟨_, draining.giveUp orderly waits late⟩
    · obtain ⟨here, alone⟩ := draining.modify (f := StopCall.answered d.now (.error Channel.drainTimeout))
        same fun old there => draining.alone i old same there
      have nobody : workers = [] :=
        (StopCall.claimed_of_waits waits).symm.trans (draining.alone i other same found)
      subst nobody
      exact ⟨call, draining.aside step rfl rfl draining.unclaimed here alone rfl⟩
  | passes span still is =>
    subst is
    exact ⟨call, draining.pass still⟩

theorem Draining.run (draining : Draining ready k call d) (orderly : d.Orderly) (run : Run d next) :
    ∃ after, Draining ready k after next := by
  induction run with
  | refl => exact ⟨call, draining⟩
  | tail before last ih =>
    obtain ⟨after, draining⟩ := ih
    exact draining.step (orderly.run before) last

end Draining

section Runs

variable {channel : Channel τ} {before middle later : LiveChannel τ}

private theorem refused_of_turnAway {queue : JobQueue} (is : d.channel.supply = .pool queue)
    {p : Publisher} (blocked : p ∈ queue.blocked) (i : Nat) :
    (p.ticket, .error .channelClosed) ∈ (d.turnAway i).channel.answers := by
  unfold LiveChannel.turnAway Channel.turnAway
  rw [is]
  refine List.mem_append_right _ (List.mem_map_of_mem ?_)
  exact List.mem_map_of_mem blocked

/-- After a call to stop a pool or a broker channel only those jobs are accepted who had been let in
before, and only workers begin a handler who come later. If none come, everybody is gone when the
call has its answer. -/
theorem stop_is_final (nobody : channel.workers = []) (unclaimed : channel.unclaimed = [])
    (apart : channel.supply.isBus = false) (run : Run (opening channel) before) {i : Nat}
    {closes tells : StopCall} (found : before.calls[i]? = some closes)
    (closed : closes.stage = .closed) (turned : Run (before.turnAway i) middle)
    (foundToo : middle.calls[i]? = some tells) (turnedAway : tells.stage = .turnedAway)
    (after : Run (middle.tell i) later) :
    (∀ queue, before.channel.supply = .pool queue → ∀ p ∈ queue.blocked,
        (p.ticket, .error .channelClosed) ∈ (before.turnAway i).channel.answers) ∧
      (∀ ticket job, later.publish ticket job =
        { later with channel := later.channel.answer ticket (.error .channelClosed) }) ∧
      (∀ crew, later.channel.consume crew = .error .channelClosed) ∧
      (∀ queue, later.channel.supply = .pool queue → queue.blocked = []) ∧
      (∃ more, later.accepted = before.accepted ++ more ∧
        (more ++ later.publishing).Subperm before.publishing) ∧
      (∃ more, later.begun = middle.begun ++ more ∧ ∀ b ∈ more, middle.channel.hired ≤ b.1) ∧
      (∀ (k : Nat) (call : StopCall), later.calls[k]? = some call →
        (call.answer = none → later.now ≤ call.limit) ∧
          ∃ last answered, Run later last ∧ last.calls[k]? = some answered ∧
            answered.answer.isSome = true) ∧
      (middle.NoneComes → later.begun = middle.begun ∧ middle.channel.Remains later.channel ∧
        (middle.channel.supply.kind = .pool → ∃ more, later.accepted = middle.accepted ++ more ∧
          later.channel.stock = middle.channel.stock ++ more.map (·.job)) ∧
        ∀ (k : Nat) (claims : StopCall), later.calls[k]? = some claims → claims.stage = .told →
          (∀ other ∈ later.calls, other.claimed = []) → ∀ last, Run (later.claim k) last →
          ∃ call, last.calls[k]? = some call ∧ call.began = later.now ∧
            call.limit = later.now + later.channel.grace.ticks ∧
            ∀ t answer, call.answer = some (t, answer) → last.channel.workers = [] ∧
              (call.Prompt last.handed t answer ↔
                ((∀ h ∈ last.handed, h.ended.isSome = true) →
                  lastEnd call.began last.handed < call.limit →
                  ∀ wakes ∈ later.channel.rests, wakes ≤ lastEnd call.began last.handed))) := by
  have orderly := (opening_orderly nobody unclaimed).run run
  have closing := (heeded_of_run apart run).closed (List.ne_nil_of_mem (List.mem_of_getElem? found))
  have turns : (before.turnAway i).channel.Refuses :=
    Channel.turnAway_refuses closing ((lasts_of_run run).isBus.trans apart)
  have tellsToo : Step middle (middle.tell i) := .tell foundToo turnedAway
  have onward : Run (before.turnAway i) later := turned.trans (.head tellsToo after)
  have refuses := refuses_of_run turns onward
  have through := accepted_of_run turns onward
  have middleOrderly := (orderly.step (.turnAway found closed)).run turned
  have toldOrderly := middleOrderly.step tellsToo
  have laterOrderly := toldOrderly.run after
  refine ⟨fun queue is p blocked => refused_of_turnAway is blocked i, publish_refused refuses,
    refuses.consume, fun queue is => (refuses.queue queue is).2, through, ?_,
    fun k call here => ⟨(laterOrderly.timed call (List.mem_of_getElem? here)).inTime,
      exists_answered here⟩, ?_⟩
  · obtain ⟨more, begun, untold⟩ := begun_of_run toldOrderly.staffed after
    refine ⟨more, begun, fun b member => ?_⟩
    rcases untold b member with new | ⟨w, works, _, stays⟩
    · exact new
    · obtain ⟨_, _, rfl⟩ := List.mem_map.mp works
      cases stays
  · intro noneComes
    have dismissed : (middle.tell i).Dismissed := by
      refine ⟨refuses_step (refuses_of_run turns turned) tellsToo, fun w works => ?_,
        noneComes.recruits, noneComes.newcomers⟩
      obtain ⟨_, _, rfl⟩ := List.mem_map.mp works
      rfl
    obtain ⟨begun, remains⟩ := dismissed.settled toldOrderly.staffed after
    have before : middle.channel.Remains (middle.tell i).channel := .of_supply rfl
    refine ⟨begun, before.trans remains, fun pool => dismissed.stock pool after,
      fun k claims here told first last ends => ?_⟩
    have claimsToo : Step later (later.claim k) := .claim here told
    obtain ⟨call, draining⟩ := (claim_draining laterOrderly (dismissed.run after) here told first).run
      (laterOrderly.step claimsToo) ends
    have lastOrderly := (laterOrderly.step claimsToo).run ends
    have timed := lastOrderly.timed call (List.mem_of_getElem? draining.found)
    have grace := (lasts_of_run (.head claimsToo ends)).grace
    refine ⟨call, draining.found, draining.began, ?_, fun t answer is => ?_⟩
    · rw [timed.limit, draining.began, grace]
    · have answered := draining.answered t answer is
      exact ⟨answered.gone, answered.prompt_iff⟩

end Runs

/-- A worker has a job, one is in the queue, and a publisher waits. -/
def atWork : LiveChannel Unit where
  channel := {
    supply := .pool ⟨1, [⟨8⟩], [⟨3, ⟨9⟩⟩], false⟩
    crewSize := 1
    grace := .ofMillis 50
    closed := false
    hired := 1
    workers := [⟨0, 0, .busy ⟨⟨7⟩, none⟩ none (), false⟩]
    unclaimed := [0]
    turns := [0]
    answers := [(1, .ok ()), (2, .ok ())] }
  now := 10
  calls := []
  accepted := [⟨1, ⟨7⟩⟩, ⟨2, ⟨8⟩⟩]
  handed := [⟨0, ⟨⟨7⟩, none⟩, none⟩]
  publishing := []
  recruits := []
  newcomers := []

theorem run_atWork : Run (opening (.pool 1 1 (.ofMillis 50))) atWork := by
  have taken : Run (opening (.pool 1 1 (.ofMillis 50)) : LiveChannel Unit) _ :=
    .tail (.trans (run_consume 0 ⟨rfl, rfl⟩ rfl) (run_publish rfl rfl 1 ⟨7⟩))
      (@Step.take _ _ ⟨0, 0, .asking, false⟩ _ _ _ (.head _) rfl rfl rfl rfl none ())
  have blocked := (taken.trans (run_publish rfl rfl 2 ⟨8⟩)).trans (run_publish rfl rfl 3 ⟨9⟩)
  exact .tail blocked (@Step.pass _ _ 10 (by decide))

/-- The worker is done ten milliseconds later, and the call has its answer at once. The job in the
queue stays there. -/
theorem stop_is_final_at_work : ∃ later : LiveChannel Unit, Run atWork.halt later ∧
    later.accepted = atWork.accepted ∧
    (3, .error .channelClosed) ∈ (atWork.stop.turnAway 0).channel.answers ∧
    later.handed = [⟨0, ⟨⟨7⟩, none⟩, some (20, .ok ())⟩] ∧
    later.channel.stock = [⟨8⟩] ∧
    ∃ call, later.calls[0]? = some call ∧ call.answer = some (20, .ok ()) ∧
      call.Prompt later.handed 20 (.ok ()) := by
  have ended : Run atWork.halt _ := .tail (.single (@Step.pass _ atWork.halt 10 (by decide)))
    (@Step.finish _ _ ⟨0, 0, .busy ⟨⟨7⟩, none⟩ none (), true⟩ _ (.head _) rfl (.ok ()))
  have left : Run atWork.halt _ := .tail ended
    (@Step.look _ _ ⟨0, 0, .asking, true⟩ [] (.head _) rfl (.refl _) rfl)
  have answered : Run atWork.halt _ := .tail left (@Step.drained _ _ 0 _ _ rfl rfl rfl)
  have stopped : Run (opening (.pool 1 1 (.ofMillis 50))) atWork.stop := .tail run_atWork .stop
  obtain ⟨refused, _, _, _, _, _, _, alone⟩ :=
    stop_is_final rfl rfl rfl stopped (i := 0) rfl rfl .refl rfl rfl .refl
  obtain ⟨_, _, _, settles⟩ := alone ⟨rfl, rfl⟩
  obtain ⟨call, here, _, _, prompt⟩ := settles 0 _ rfl rfl (by decide) _ answered
  obtain ⟨_, _, _, _, ⟨more, accepted, among⟩, _, _, aloneToo⟩ :=
    stop_is_final rfl rfl rfl stopped (i := 0) rfl rfl .refl rfl rfl
      (.head (.claim (i := 0) rfl rfl) answered)
  obtain ⟨_, _, stock, _⟩ := aloneToo ⟨rfl, rfl⟩
  obtain ⟨late, acceptedLate, stays⟩ := stock rfl
  have nobody : more = [] := (List.append_eq_nil_iff.mp (List.subperm_nil.mp among)).1
  have none : late = [] := List.append_cancel_left
    (acceptedLate.symm.trans (accepted.trans (by rw [nobody]; rfl)))
  subst nobody none
  cases here
  exact ⟨_, answered, accepted, refused _ rfl _ (.head _), rfl, stays, _, rfl, rfl,
    (prompt 20 _ rfl).2.mpr fun _ _ => nofun⟩

/-- The broker is out of order when the only worker looks for a message, so that he rests. -/
def disturbed : Channel Unit :=
  .broker 300000 { Outages.none with receive := [some .payload] } 1 3 (.ofMillis 50)

def atRest : LiveChannel Unit where
  channel := {
    supply := .broker (.empty 300000) 3 .none
    crewSize := 1
    grace := .ofMillis 50
    closed := false
    hired := 1
    workers := [⟨0, 0, .resting 200, false⟩]
    unclaimed := [0]
    turns := [0]
    answers := [] }
  now := 10
  calls := []
  accepted := []
  handed := []
  publishing := []
  recruits := []
  newcomers := []

theorem run_atRest : Run (opening disturbed) atRest :=
  .tail (.tail (run_consume 0 ⟨rfl, rfl⟩ rfl)
    (@Step.look _ _ ⟨0, 0, .asking, false⟩ [] (.head _) rfl (.refl _) rfl))
    (@Step.pass _ _ 10 (by decide))

/-- No handler runs, and the call runs out of its grace. -/
theorem not_forall_stop_prompt :
    ¬∀ (channel : Channel Unit) (before later : LiveChannel Unit) (call : StopCall) (t : Nat)
      (answer : Except Fault Unit), channel.workers = [] → channel.unclaimed = [] →
      channel.supply.isBus = false → Run (opening channel) before → before.calls = [] →
      before.NoneComes → Run before.halt later → later.calls[0]? = some call →
      call.answer = some (t, answer) → call.Prompt later.handed t answer := by
  intro claimed
  have late : Run atRest.halt _ := .tail (.single (@Step.pass _ atRest.halt 50 (by decide)))
    (@Step.giveUp _ _ 0 _ _ rfl rfl (by decide))
  have prompt := claimed disturbed atRest _ _ 60 (.error Channel.drainTimeout) rfl rfl rfl
    run_atRest rfl ⟨rfl, rfl⟩ late rfl rfl
  obtain ⟨_, ok⟩ := prompt.drained nofun (by decide)
  cases ok

section Runs

variable {channel : Channel τ} {last : LiveChannel τ}

/-- Nobody begins to rest in a pool. -/
theorem Step.rests_subset (step : Step d next) (pool : d.channel.supply.kind = .pool) :
    ∀ wakes ∈ next.channel.rests, wakes ∈ d.channel.rests := by
  have same : next.channel.workers = d.channel.workers →
      ∀ wakes ∈ next.channel.rests, wakes ∈ d.channel.rests := fun workers wakes rest =>
    Channel.rests_of_workers workers ▸ rest
  have occupied : ∀ {channel : Channel τ} {id : Nat} {occupation : Occupation τ},
      channel.workers = d.channel.workers → (∀ wakes, occupation ≠ .resting wakes) →
      ∀ wakes ∈ (channel.occupy id occupation).rests, wakes ∈ d.channel.rests := by
    intro channel id occupation workers awake wakes rest
    obtain ⟨w, works, is⟩ := Channel.mem_rests.mp rest
    obtain ⟨old, worked, rfl⟩ := List.mem_map.mp works
    split at is
    · exact absurd is (awake wakes)
    · exact Channel.mem_rests.mpr ⟨old, workers ▸ worked, is⟩
  have left :
      ∀ (id wakes : Nat), wakes ∈ (d.channel.dismiss id).rests → wakes ∈ d.channel.rests := by
    intro id wakes rest
    obtain ⟨w, works, _, is⟩ := Channel.mem_rests_dismiss.mp rest
    exact Channel.mem_rests.mpr ⟨w, works, is⟩
  cases step with
  | approach => exact same rfl
  | refuse => exact same rfl
  | handOver => exact same (d.channel.handOver_delivers _ _).workers
  | withdraw ticket => exact same (d.channel.withdraw_delivers ticket).workers
  | @wake _ _ _ p => exact same (d.channel.withdraw_delivers p.ticket).workers
  | enter => exact same (d.channel.enter_delivers _).workers
  | sendRaw sends => exact same (d.channel.sendRaw?_delivers sends).workers
  | closeBroker => exact same d.channel.closeBroker_delivers.workers
  | consume => exact same rfl
  | enlist =>
    intro wakes rest
    obtain ⟨w, works, is⟩ := Channel.mem_rests.mp rest
    rcases List.mem_append.mp works with old | new
    · exact Channel.mem_rests.mpr ⟨w, old, is⟩
    · rw [List.mem_singleton.mp new] at is
      cases is
  | register => exact same rfl
  | @look w order works free ended nothing =>
    obtain ⟨queue, is⟩ := Supply.exists_of_kind pool
    cases stays : w.dismissed with
    | true =>
      have leaves : d.channel.fetchAfter order d.now w = (.ends, d.channel) := if_pos stays
      rw [leaves]
      exact left w.id
    | false =>
      obtain ⟨_, found⟩ := Channel.fetchAfter_nothing is stays nothing
      rw [found]
      split
      · exact left w.id
      · exact occupied rfl nofun
  | take => exact occupied rfl nofun
  | begin works free ended apart =>
    obtain ⟨queue, is⟩ := Supply.exists_of_kind pool
    exact absurd is (apart queue)
  | goOn => exact occupied rfl nofun
  | @finish w task works busy result =>
    have moved := Channel.rests_of_workers (d.channel.finish_delivers w.id task result).workers
    have asks : ∀ wakes ∈ (d.channel.occupy w.id .asking).rests, wakes ∈ d.channel.rests :=
      occupied rfl nofun
    exact fun wakes rest => asks wakes (moved ▸ rest)
  | abandon => exact same d.channel.workers_abandon
  | stop => exact same d.channel.workers_close
  | turnAway => exact same d.channel.turnAway_delivers.workers
  | tell =>
    intro wakes rest
    obtain ⟨w, works, is⟩ := Channel.mem_rests.mp rest
    obtain ⟨old, worked, rfl⟩ := List.mem_map.mp works
    exact Channel.mem_rests.mpr ⟨old, worked, is⟩
  | claim => exact same rfl
  | drained => exact same rfl
  | giveUp =>
    intro wakes rest
    obtain ⟨w, works, is⟩ := Channel.mem_rests.mp rest
    exact Channel.mem_rests.mpr ⟨w, Channel.workers_abort _ _ works, is⟩
  | pass => exact same rfl

private theorem pool_rests {workers capacity : Nat} {grace : Time.Span}
    (run : Run (opening (.pool workers capacity grace)) d) : d.channel.rests = [] := by
  refine List.eq_nil_iff_forall_not_mem.mpr ?_
  induction run with
  | refl => exact fun _ => List.not_mem_nil
  | tail before step ih =>
    have pool := (lasts_of_run before).kind
    exact fun wakes rest => ih wakes (step.rests_subset pool wakes rest)

/-- Nobody rests in a pool, so that the call is prompt. -/
theorem pool_stop_prompt {workers capacity : Nat} {grace : Time.Span}
    (run : Run (opening (.pool workers capacity grace)) ready) (dismissed : ready.Dismissed)
    (found : ready.calls[k]? = some call) (told : call.stage = .told)
    (first : ∀ other ∈ ready.calls, other.claimed = []) (after : Run (ready.claim k) last) :
    ∃ call, last.calls[k]? = some call ∧
      ∀ t answer, call.answer = some (t, answer) → call.Prompt last.handed t answer := by
  have orderly : ready.Orderly := (opening_orderly rfl rfl).run run
  obtain ⟨call, draining⟩ := (claim_draining orderly dismissed found told first).run
    (orderly.step (.claim found told)) after
  refine ⟨call, draining.found, fun t answer is => ?_⟩
  refine (draining.answered t answer is).prompt_iff.mpr fun _ _ wakes rest => ?_
  rw [pool_rests run] at rest
  cases rest

/-! ## Several calls at a time -/

structure Halting (d : LiveChannel τ) : Prop where
  noneComes : d.NoneComes
  closed : d.channel.closed = true
  told : ∀ call ∈ d.calls, call.stage.hasTold = true → ∀ w ∈ d.channel.workers, w.dismissed = true
  claimed : ∀ call ∈ d.calls, call.stage.isEarly = false → d.channel.unclaimed = []

theorem stop_halting (noneComes : ready.NoneComes) (first : ready.calls = [])
    (apart : ready.channel.supply.isBus = false) : ready.stop.Halting := by
  have closes : ∀ call ∈ ready.stop.calls, call.stage = .closed := by
    intro call made
    rw [LiveChannel.stop, first] at made
    rw [List.mem_singleton.mp made]
  refine ⟨⟨noneComes.recruits, noneComes.newcomers⟩, Channel.closed_close apart, ?_, ?_⟩
  · intro call made told
    rw [closes call made] at told
    cases told
  · intro call made late
    rw [closes call made] at late
    cases late

/-- Whoever has told the workers to go had done so before, or does so now. -/
theorem Step.hasTold (step : Step d next) (made : call ∈ next.calls)
    (told : call.stage.hasTold = true) : (∃ old ∈ d.calls, old.stage.hasTold = true) ∨
      ∀ w ∈ next.channel.workers, w.dismissed = true := by
  have modified : ∀ {i : Nat} {old : StopCall} {f : StopCall → StopCall}, d.calls[i]? = some old →
      call ∈ d.calls.modify i f → ((f old).stage.hasTold = true → old.stage.hasTold = true) →
      ∃ old ∈ d.calls, old.stage.hasTold = true := by
    intro i old f found made same
    rcases mem_modify found made with known | rfl
    · exact ⟨call, known, told⟩
    · exact ⟨old, List.mem_of_getElem? found, same told⟩
  cases step with
  | stop =>
    rcases List.mem_append.mp made with known | new
    · exact .inl ⟨call, known, told⟩
    · rw [List.mem_singleton.mp new] at told
      cases told
  | turnAway found => exact .inl (modified found made nofun)
  | tell =>
    refine .inr fun w works => ?_
    obtain ⟨_, _, rfl⟩ := List.mem_map.mp works
    rfl
  | claim found is => exact .inl (modified found made fun _ => by rw [is]; rfl)
  | drained found is => exact .inl (modified found made fun _ => by rw [is]; rfl)
  | giveUp found is => exact .inl (modified found made fun _ => by rw [is]; rfl)
  | _ => exact .inl ⟨call, made, told⟩

theorem Halting.step (halting : d.Halting) (step : Step d next) : next.Halting := by
  obtain ⟨noneComes, closed, told, claimed⟩ := halting
  refine ⟨noneComes.step closed step, step.lasts.closed closed, ?_, ?_⟩
  · intro call made is w works
    rcases step.hasTold made is with ⟨old, known, was⟩ | all
    · rcases step.worker_cases works with gone | ⟨comes, _⟩ | ⟨before, worked, _, same⟩
      · exact gone
      · exact absurd noneComes.recruits comes
      · exact same ▸ told old known was before worked
    · exact all w works
  · intro call made late
    have answers : ∀ {c : Channel τ} {i : Nat} {old : StopCall} {workers : List Nat}
        {answer : Except Fault Unit}, d.calls[i]? = some old → old.stage = .waits workers →
        call ∈ ({ d with channel := c }.reply i answer).calls → d.channel.unclaimed = [] := by
      intro c i old workers answer found waits made
      rcases mem_modify found made with known | rfl
      · exact claimed call known late
      · exact claimed old (List.mem_of_getElem? found) (by rw [waits]; rfl)
    cases step.staffing with
    | keeps keeps _ madeOf =>
      rcases madeOf call made with known | early
      · exact keeps.unclaimed.trans (claimed call known late)
      · cases early.symm.trans late
    | enlists crew comes =>
      rw [noneComes.recruits] at comes
      cases comes
    | registers id new =>
      rw [noneComes.newcomers] at new
      cases new
    | claims i other found told is =>
      rw [is]
      rfl
    | drained i other workers found waits ended is =>
      subst is
      exact answers found waits made
    | givesUp i other workers found waits _ is =>
      subst is
      exact (Channel.keeps_abort _ _).unclaimed.trans (answers found waits made)

theorem Halting.run (halting : d.Halting) (run : Run d next) : next.Halting := by
  induction run with
  | refl => exact halting
  | tail _ last ih => exact ih.step last

end Runs

section Runs

variable {channel : Channel τ} {i : Nat}

/-- When a call to stop finds that all are gone whom it waits for, nobody has a task but workers for
whom another call waits, or whom no call has taken over. -/
theorem busy_of_ok (nobody : channel.workers = []) (unclaimed : channel.unclaimed = [])
    (run : Run (opening channel) d) {workers : List Nat} (found : d.calls[i]? = some call)
    (waits : call.stage = .waits workers) (ended : d.channel.haveEnded workers = true) :
    (∀ id task, (id, task) ∈ d.channel.busy → id ∈ d.channel.unclaimed ∨ id ∈ d.newcomers ∨
        ∃ (k : Nat) (other : StopCall), k ≠ i ∧ d.calls[k]? = some other ∧ other.answer = none ∧
          id ∈ other.claimed) ∧
      (d.channel.unclaimed = [] → d.newcomers = [] →
        (∀ (k : Nat) (other : StopCall), k ≠ i → d.calls[k]? = some other →
          other.answer.isSome = true) →
        d.channel.busy = [] ∧ ∀ h ∈ d.handed, h.ended = none → d.CutOff h.worker) ∧
      ∀ first, Run (opening channel) first → first.calls = [] → first.NoneComes →
        Run first.stop d → channel.supply.isBus = false →
        d.channel.unclaimed = [] ∧ d.newcomers = [] := by
  have orderly := (opening_orderly nobody unclaimed).run run
  have shared : ∀ id task, (id, task) ∈ d.channel.busy → id ∈ d.channel.unclaimed ∨
      id ∈ d.newcomers ∨ ∃ (k : Nat) (other : StopCall), k ≠ i ∧ d.calls[k]? = some other ∧
        other.answer = none ∧ id ∈ other.claimed := by
    intro id task busy
    obtain ⟨w, works, rfl, _⟩ := Channel.mem_busy.mp busy
    have there : w.id ∈ d.channel.ids := List.mem_map_of_mem works
    rcases orderly.staffed.covered w.id there with free | late | ⟨other, made, waitsToo, claims⟩
    · exact .inl free
    · exact .inr (.inl late)
    · obtain ⟨k, here⟩ := List.mem_iff_getElem?.mp made
      refine .inr (.inr ⟨k, other, ?_, here, waitsToo, claims⟩)
      rintro rfl
      cases here.symm.trans found
      rw [StopCall.claimed_of_waits waits] at claims
      exact Channel.haveEnded_iff.mp ended w.id claims there
  refine ⟨shared, ?_, ?_⟩
  · intro claimed settled alone
    have idle : d.channel.busy = [] := by
      refine List.eq_nil_iff_forall_not_mem.mpr ?_
      rintro ⟨id, task⟩ busy
      rcases shared id task busy with free | late | ⟨k, other, apart, here, waitsToo, _⟩
      · rw [claimed] at free
        cases free
      · rw [settled] at late
        cases late
      · have answered := alone k other apart here
        rw [waitsToo] at answered
        cases answered
    refine ⟨idle, fun h member runs => ?_⟩
    rcases orderly.booked.running h member runs with busy | cut
    · rw [idle] at busy
      cases busy
    · exact cut
  · intro first earlier none noneComes after apart
    have halting :=
      (stop_halting noneComes none ((lasts_of_run earlier).isBus.trans apart)).run after
    exact ⟨halting.claimed call (List.mem_of_getElem? found) (by rw [waits]; rfl),
      halting.noneComes.newcomers⟩

/-- Two calls to stop are made while a worker has a job. The second one may answer at once, and the
first one waits for him. -/
theorem busy_of_ok_overlapping :
    (0, ⟨⟨7⟩, none⟩) ∈ atWork.halt.halt.channel.busy ∧
      ∃ (k : Nat) (other : StopCall), k ≠ 1 ∧ atWork.halt.halt.calls[k]? = some other ∧
        other.answer = none ∧ 0 ∈ other.claimed := by
  have run : Run (opening (.pool 1 1 (.ofMillis 50))) atWork.halt.halt :=
    (run_atWork.trans (run_halt _)).trans (run_halt _)
  obtain ⟨shared, _, taken⟩ := busy_of_ok rfl rfl run (i := 1) rfl rfl rfl
  have inHand : (0, ⟨⟨7⟩, none⟩) ∈ atWork.halt.halt.channel.busy := .head _
  have after : Run atWork.stop atWork.halt.halt := (run_halt_of_stop _).trans (run_halt _)
  obtain ⟨unclaimed, newcomers⟩ := taken atWork run_atWork rfl ⟨rfl, rfl⟩ after rfl
  rcases shared 0 _ inHand with free | late | claimed
  · rw [unclaimed] at free
    cases free
  · rw [newcomers] at late
    cases late
  · exact ⟨inHand, claimed⟩

/-- The second call answers that all are done while the worker has his job. -/
theorem not_forall_ok_idle :
    ¬∀ (channel : Channel Unit) (d : LiveChannel Unit) (i : Nat) (call : StopCall) (workers : List Nat),
      channel.workers = [] → channel.unclaimed = [] → Run (opening channel) d →
      d.calls[i]? = some call → call.stage = .waits workers →
      d.channel.haveEnded workers = true → d.channel.busy = [] := by
  intro claimed
  have idle := claimed (.pool 1 1 (.ofMillis 50)) atWork.halt.halt 1 _ [] rfl rfl
    ((run_atWork.trans (run_halt _)).trans (run_halt _)) rfl rfl rfl
  cases idle

end Runs

end LiveChannel

end FeedIngest.Delivery
