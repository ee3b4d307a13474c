import FeedIngest.Proofs.Ingest.Partition

/-!
# Runs alone

A run alone goes on whenever it wakes, and nobody comes in between. It is then a chain of turns: it
hears of its document when it waits for it, and takes a stage otherwise. It waits four times at
most, for its document and for each of three changes.
-/

set_option autoImplicit false

namespace FeedIngest.Ingest

open Catalog (Access Article Feed)
open Time (Timestamp)

variable {σ : Type}

namespace Run

/-- One turn of a run that gets `fetch` for its document, at one of some dates. -/
inductive Turn (c : Access σ) (fetch : Except Fault FeedFetch) (dates : Timestamp → Prop) :
    Run × σ → Run × σ → Prop where
  | hear {r : Run} {s : σ} : Turn c fetch dates (r, s) (r.hear fetch, s)
  | step {r : Run} {s : σ} {now : Timestamp} : dates now →
      Turn c fetch dates (r, s) (r.step c now s)

abbrev Turns (c : Access σ) (fetch : Except Fault FeedFetch) (dates : Timestamp → Prop) :
    Run × σ → Run × σ → Prop :=
  Relation.ReflTransGen (Turn c fetch dates)

section Steps

variable {c : Access σ} {fetch : Except Fault FeedFetch} {dates : Timestamp → Prop} {r next : Run}
  {s : σ}

theorem result?_of_distance (arrived : r.distance = 0) : r.rests c s = true ∧ r.result?.isSome := by
  obtain ⟨feedId, stage⟩ := r
  cases stage <;> simp_all [distance, stagesLeft, rests, result?]

private theorem stagesLeft_eq (heard : r.distance ≤ 7) : r.stagesLeft = r.distance := by
  obtain ⟨feedId, stage⟩ := r
  cases stage <;> simp_all [distance, stagesLeft]

/-- A run that has heard of its document goes on until it rests. -/
theorem steps_turns (fetch : Except Fault FeedFetch) {now : Timestamp} (dated : dates now)
    {limit : Nat} (s : σ) (enough : r.distance ≤ limit) (heard : r.distance ≤ 7) :
    Turns c fetch dates (r, s) (r.steps c now limit s) ∧
      (r.steps c now limit s).1.rests c (r.steps c now limit s).2 = true ∧
      (r.steps c now limit s).1.distance ≤ r.distance := by
  induction limit generalizing r s with
  | zero => exact ⟨.refl, (result?_of_distance (Nat.le_zero.mp enough)).1, Nat.le_refl _⟩
  | succ limit ih =>
    unfold steps
    split
    · next rests => exact ⟨.refl, rests, Nat.le_refl _⟩
    · next goes =>
      have waits : ∀ feed, r.stage ≠ .fetching feed := by
        intro feed fetching
        simp [rests, fetching] at goes
      have unfinished : r.result? = none := by
        unfold rests at goes
        unfold result?
        split
        · next finished => simp [finished] at goes
        · rfl
      have nearer := step_distance c now s waits unfinished
      have within : (r.step c now s).1.distance ≤ limit := by omega
      obtain ⟨turns, rests, less⟩ := ih (r.step c now s).2 within (by omega)
      exact ⟨.head (.step dated) turns, rests, Nat.le_trans less (Nat.le_of_lt nearer)⟩

private theorem proceed_turns (fetch : Except Fault FeedFetch) {now : Timestamp}
    (dated : dates now) (s : σ) (heard : r.distance ≤ 7) :
    Turns c fetch dates (r, s) (r.proceed c now s) ∧
      (r.proceed c now s).1.rests c (r.proceed c now s).2 = true ∧
      (r.proceed c now s).1.distance ≤ r.distance :=
  steps_turns fetch dated s (Nat.le_of_eq (stagesLeft_eq heard).symm) heard

/-! ## Waiting -/

/-- How often a run may have to wait yet. A run waits at these distances from its end. -/
def waitsLeft (r : Run) : Nat := [1, 3, 6, 8].countP (· ≤ r.distance)

private theorem waitsLeft_le (nearer : next.distance ≤ r.distance) :
    next.waitsLeft ≤ r.waitsLeft := by
  refine List.countP_mono_left fun place _ within => ?_
  exact decide_eq_true (Nat.le_trans (of_decide_eq_true within) nearer)

theorem waitsLeft_lt (rests : r.rests c s = true) (unfinished : r.result? = none)
    (nearer : next.distance < r.distance) : next.waitsLeft < r.waitsLeft := by
  have among : r.distance ∈ [1, 3, 6, 8] := by
    obtain ⟨feedId, stage⟩ := r
    cases stage <;> simp_all [distance, stagesLeft, Run.rests, result?]
  simp only [List.mem_cons, List.not_mem_nil, or_false] at among
  unfold waitsLeft
  rcases among with here | here | here | here
  all_goals
    rw [here] at nearer ⊢
    simp only [List.countP_cons, List.countP_nil, decide_eq_true_eq]
    grind

private theorem waitsLeft_pos (rests : r.rests c s = true) (unfinished : r.result? = none) :
    0 < r.waitsLeft := by
  have away : r.distance ≠ 0 := by
    intro arrived
    have ended := (result?_of_distance (c := c) (s := s) arrived).2
    rw [unfinished] at ended
    cases ended
  have nearer : distance ⟨r.feedId, .finished (.ok [])⟩ < r.distance := Nat.pos_of_ne_zero away
  exact Nat.lt_of_le_of_lt (Nat.zero_le _) (waitsLeft_lt rests unfinished nearer)

end Steps

end Run

/-! ## Legs -/

namespace Service

def await (v : Service σ) : List Nat → Leg → σ → Leg × σ
  | moment :: later, .waits _ errand, s =>
    let (leg, s) := v.goOn moment errand s
    await v later leg s
  | _, leg, s => (leg, s)

/-- A run alone, and what has come of it when it has gone on at all these moments. -/
def ingest (v : Service σ) (now : Nat) (moments : List Nat) (feedId : Int) (s : σ) :
    Option (Except Fault (List Article)) × σ :=
  let (leg, s) := v.begin now feedId s
  let (leg, s) := v.await moments leg s
  (leg.result?, s)

def Dates (v : Service σ) (moments : List Nat) (date : Timestamp) : Prop :=
  ∃ moment ∈ moments, date = v.date moment

/-- The document of a feed comes, and is `fetch`; to get it changes nothing. -/
def Answers (v : Service σ) (feedId : Int) (s : σ) (fetch : Except Fault FeedFetch) : Prop :=
  ∀ feed, v.access.feed feedId s = (.ok feed, s) → ∀ now, ∃ delay,
    v.source now feed.url feed.validators s = ((some delay, fetch), s)

end Service

section Legs

variable {v : Service σ} {fetch : Except Fault FeedFetch} {dates : Timestamp → Prop}
  {origin : Run × σ} {moment : Option Nat} {errand : Errand} {r : Run} {s : σ} {left : Nat}

/-- A leg stands where a run came to by its turns, and the run may have to wait `left` times. -/
inductive Leg.Stands (c : Access σ) (fetch : Except Fault FeedFetch) (dates : Timestamp → Prop)
    (origin : Run × σ) : Leg → σ → Nat → Prop where
  | finished {r : Run} {s : σ} {result : Except Fault (List Article)} {left : Nat} :
      Run.Turns c fetch dates origin (r, s) → r.result? = some result →
      Stands c fetch dates origin (.finished result) s left
  | hearing {r : Run} {s : σ} {feed : Feed} {moment : Option Nat} {left : Nat} :
      Run.Turns c fetch dates origin (r, s) → r.stage = .fetching feed → r.waitsLeft ≤ left →
      Stands c fetch dates origin (.waits moment ⟨r, some fetch⟩) s left
  | settling {r : Run} {s : σ} {moment : Option Nat} {left : Nat} :
      Run.Turns c fetch dates origin (r, s) → r.result? = none → r.rests c s = true →
      r.distance ≤ 7 → r.waitsLeft ≤ left →
      Stands c fetch dates origin (.waits moment ⟨r, none⟩) s left

namespace Leg.Stands

/-- A run goes on until it rests, and pauses or is over. -/
theorem proceed {now : Nat} (dated : dates (v.date now))
    (turns : Run.Turns v.access fetch dates origin (r, s)) (heard : r.distance ≤ 7)
    (waits : r.waitsLeft ≤ left) :
    Stands v.access fetch dates origin
      (v.pause now (r.proceed v.access (v.date now) s).1 (r.proceed v.access (v.date now) s).2)
      (r.proceed v.access (v.date now) s).2 left := by
  obtain ⟨more, rests, nearer⟩ := Run.proceed_turns fetch dated s heard
  unfold Service.pause
  split
  · next result ended => exact .finished (turns.trans more) ended
  · next unfinished =>
    exact .settling (turns.trans more) unfinished rests (Nat.le_trans nearer heard)
      (Nat.le_trans (Run.waitsLeft_le nearer) waits)

theorem goOn_hearing {now : Nat} (dated : dates (v.date now)) {feed : Feed}
    (turns : Run.Turns v.access fetch dates origin (r, s)) (fetching : r.stage = .fetching feed)
    (waits : r.waitsLeft ≤ left + 1) :
    Stands v.access fetch dates origin (v.goOn now ⟨r, some fetch⟩ s).1
      (v.goOn now ⟨r, some fetch⟩ s).2
      left := by
  have far : r.distance = 8 := by simp only [Run.distance, fetching]
  have rests : r.rests v.access s = true := by simp only [Run.rests, fetching]
  have unfinished : r.result? = none := by simp only [Run.result?, fetching]
  have heard : (r.hear fetch).distance ≤ 7 := by
    unfold Run.hear
    rw [fetching]
    cases fetch with
    | error fault => exact Nat.zero_le _
    | ok fetch => cases fetch <;> simp [Run.goTo, Run.distance, Run.stagesLeft]
  have less : (r.hear fetch).waitsLeft < r.waitsLeft := by
    apply Run.waitsLeft_lt rests unfinished
    omega
  have turned : Run.Turns v.access fetch dates origin (r.hear fetch, s) := turns.tail .hear
  exact proceed dated turned heard (Nat.le_of_lt_succ (Nat.lt_of_lt_of_le less waits))

private theorem goOn_settling {now : Nat} (dated : dates (v.date now))
    (turns : Run.Turns v.access fetch dates origin (r, s)) (unfinished : r.result? = none)
    (rests : r.rests v.access s = true) (heard : r.distance ≤ 7)
    (waits : r.waitsLeft ≤ left + 1) :
    Stands v.access fetch dates origin (v.goOn now ⟨r, none⟩ s).1
      (v.goOn now ⟨r, none⟩ s).2 left := by
  have settles : ∀ feed, r.stage ≠ .fetching feed := by
    intro feed fetching
    simp [Run.distance, fetching] at heard
  have nearer := Run.step_distance v.access (v.date now) s settles unfinished
  have less := Run.waitsLeft_lt rests unfinished nearer
  have turned : Run.Turns v.access fetch dates origin (r.step v.access (v.date now) s) :=
    turns.tail (.step dated)
  exact proceed dated turned (Nat.le_trans (Nat.le_of_lt nearer) heard)
    (Nat.le_of_lt_succ (Nat.lt_of_lt_of_le less waits))

private theorem goOn {now : Nat} (dated : dates (v.date now))
    (stands : Stands v.access fetch dates origin (.waits moment errand) s (left + 1)) :
    Stands v.access fetch dates origin (v.goOn now errand s).1 (v.goOn now errand s).2 left := by
  cases stands with
  | hearing turns fetching waits => exact goOn_hearing dated turns fetching waits
  | settling turns unfinished rests heard waits =>
    exact goOn_settling dated turns unfinished rests heard waits

private theorem not_waits : ¬Stands v.access fetch dates origin (.waits moment errand) s 0 := by
  intro stands
  cases stands with
  | @hearing r s feed _ _ turns fetching waits =>
    simp [Run.waitsLeft, Run.distance, fetching] at waits
  | settling turns unfinished rests heard waits =>
    exact absurd (Run.waitsLeft_pos rests unfinished) (Nat.not_lt.mpr waits)

theorem mono {leg : Leg} {more : Nat} (stands : Stands v.access fetch dates origin leg s left)
    (less : left ≤ more) : Stands v.access fetch dates origin leg s more := by
  cases stands with
  | finished turns ended => exact .finished turns ended
  | hearing turns fetching waits => exact .hearing turns fetching (Nat.le_trans waits less)
  | settling turns unfinished rests heard waits =>
    exact .settling turns unfinished rests heard (Nat.le_trans waits less)

private theorem await {leg : Leg} {moments : List Nat}
    (dated : ∀ moment ∈ moments, dates (v.date moment))
    (stands : Stands v.access fetch dates origin leg s (moments.length + left)) :
    Stands v.access fetch dates origin (v.await moments leg s).1
      (v.await moments leg s).2 left := by
  induction moments generalizing leg s with
  | nil =>
    rw [List.length_nil, Nat.zero_add] at stands
    cases leg <;> exact stands
  | cons moment later ih =>
    cases leg with
    | finished result =>
      cases stands with
      | finished turns ended => exact .finished turns ended
    | waits _ errand =>
      rw [List.length_cons, Nat.add_right_comm] at stands
      obtain ⟨here, others⟩ := List.forall_mem_cons.mp dated
      exact ih others (stands.goOn here)

/-- What has come of a leg is what has come of its run. -/
theorem exists_run {leg : Leg} (stands : Stands v.access fetch dates origin leg s left) :
    ∃ r, Run.Turns v.access fetch dates origin (r, s) ∧ r.result? = leg.result? := by
  cases stands with
  | finished turns ended => exact ⟨_, turns, ended⟩
  | hearing turns fetching waits =>
    exact ⟨_, turns, by simp only [Run.result?, fetching, Leg.result?]⟩
  | settling turns unfinished rests heard waits => exact ⟨_, turns, unfinished⟩

end Leg.Stands

end Legs

namespace Service

variable {v : Service σ} {fetch : Except Fault FeedFetch} {dates : Timestamp → Prop} {feedId : Int}
  {s : σ}

private theorem begin_stands {now : Nat} (dated : dates (v.date now))
    (told : ∃ answer, v.access.feed feedId s = (answer, s)) (answers : v.Answers feedId s fetch) :
    Leg.Stands v.access fetch dates (.start feedId, s) (v.begin now feedId s).1
      (v.begin now feedId s).2 4 := by
  obtain ⟨answer, told⟩ := told
  have turn : Run.Turns v.access fetch dates (.start feedId, s)
      ((Run.start feedId).step v.access (v.date now) s) := .single (.step dated)
  have loaded : (Run.start feedId).proceed v.access (v.date now) s =
      (Run.start feedId).step v.access (v.date now) s := rfl
  unfold begin
  rw [loaded]
  cases answer with
  | error fault =>
    have refused : (Run.start feedId).step v.access (v.date now) s =
        (⟨feedId, .finished (.error fault)⟩, s) := by
      simp only [Run.step, Run.start, told, Run.goTo]
    rw [refused] at turn ⊢
    exact .finished turn rfl
  | ok feed =>
    have fetching : (Run.start feedId).step v.access (v.date now) s =
        (⟨feedId, .fetching feed⟩, s) := by
      simp only [Run.step, Run.start, told, Run.goTo]
    rw [fetching] at turn ⊢
    obtain ⟨delay, answered⟩ := answers feed told now
    simp only [answered]
    split
    · exact (Leg.Stands.goOn_hearing dated turn rfl (Nat.le_refl 4)).mono (Nat.le_succ 3)
    · exact .hearing turn rfl (Nat.le_refl 4)

/-- What comes of a run alone comes of its turns, and the run is over when it has gone on four
times. -/
theorem ingest_turns {now : Nat} {moments : List Nat}
    (dated : ∀ moment ∈ now :: moments, dates (v.date moment))
    (told : ∃ answer, v.access.feed feedId s = (answer, s)) (answers : v.Answers feedId s fetch) :
    (∃ r, Run.Turns v.access fetch dates (.start feedId, s) (r, (v.ingest now moments feedId s).2) ∧
      r.result? = (v.ingest now moments feedId s).1) ∧
    (4 ≤ moments.length → (v.ingest now moments feedId s).1.isSome) := by
  obtain ⟨first, later⟩ := List.forall_mem_cons.mp dated
  have begins := begin_stands first told answers
  have stands : Leg.Stands v.access fetch dates (.start feedId, s)
      (v.await moments (v.begin now feedId s).1 (v.begin now feedId s).2).1
      (v.ingest now moments feedId s).2 4 := .await later (begins.mono (Nat.le_add_left _ _))
  refine ⟨stands.exists_run, fun enough => ?_⟩
  have stands : Leg.Stands v.access fetch dates (.start feedId, s)
      (v.await moments (v.begin now feedId s).1 (v.begin now feedId s).2).1
      (v.ingest now moments feedId s).2 0 := .await later (begins.mono enough)
  unfold ingest
  cases leg : (v.await moments (v.begin now feedId s).1 (v.begin now feedId s).2).1 with
  | finished result => simp only [leg, Leg.result?, Option.isSome_some]
  | waits moment errand =>
    rw [leg] at stands
    exact absurd stands Leg.Stands.not_waits

end Service

end FeedIngest.Ingest
