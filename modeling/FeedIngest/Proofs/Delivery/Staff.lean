import Mathlib.Data.List.Basic
import Mathlib.Data.List.Nodup
import FeedIngest.Proofs.Delivery.Channel

/-!
# The staff of a channel

Most steps of a channel leave its staff alone: they only move jobs, and call or tell somebody. The
others occupy a worker, send some away, or hire a crew.
-/

set_option autoImplicit false

namespace FeedIngest.Delivery

variable {τ : Type}

/-! ## Steps that leave the staff alone -/

inductive Supply.Kind where
  | pool
  | bus
  | broker

def Supply.kind : Supply → Kind
  | .pool _ => .pool
  | .bus .. => .bus
  | .broker .. => .broker

theorem Supply.exists_of_kind {supply : Supply} (is : supply.kind = .pool) :
    ∃ queue, supply = .pool queue := by
  cases supply with
  | pool queue => exact ⟨queue, rfl⟩
  | bus => cases is
  | broker => cases is

def Supply.isBus (supply : Supply) : Bool := supply.kind matches .bus

namespace Channel

def Delivers (c next : Channel τ) : Prop :=
  ∃ supply turns answers, supply.kind = c.supply.kind ∧ next = { c with supply, turns, answers }

theorem Delivers.refl (c : Channel τ) : c.Delivers c := ⟨_, _, _, rfl, rfl⟩

theorem Delivers.of_supply {c : Channel τ} {supply : Supply} {turns : List Nat}
    {answers : List (Nat × Except Fault Unit)} (is : supply.kind = c.supply.kind) :
    c.Delivers { c with supply, turns, answers } := ⟨_, _, _, is, rfl⟩

theorem Delivers.trans {c next last : Channel τ} (first : c.Delivers next)
    (second : next.Delivers last) : c.Delivers last := by
  obtain ⟨_, _, _, is, rfl⟩ := first
  obtain ⟨_, _, _, isToo, rfl⟩ := second
  exact ⟨_, _, _, isToo.trans is, rfl⟩

section Delivers

variable (c : Channel τ)

theorem handOver_delivers (ticket : Nat) (job : Job) : c.Delivers (c.handOver ticket job) := by
  unfold handOver
  split
  · next queue is =>
    have pool : ∀ after, (Supply.pool after).kind = c.supply.kind := fun _ => by rw [is]; rfl
    split <;> exact .of_supply (pool _)
  · next ring places is =>
    split
    · exact .of_supply rfl
    · exact .of_supply (by rw [is]; rfl)
  · next b maxRedeliveries outages is =>
    have broker : ∀ after later, (Supply.broker after maxRedeliveries later).kind =
        c.supply.kind := fun _ _ => by rw [is]; rfl
    split
    · exact .of_supply (broker _ _)
    · split <;> exact .of_supply (broker _ _)

theorem turnAway_delivers : c.Delivers c.turnAway := by
  unfold turnAway
  split
  · next queue is => exact .of_supply (by rw [is]; rfl)
  · exact .refl c

theorem withdraw_delivers (ticket : Nat) : c.Delivers (c.withdraw ticket) := by
  unfold withdraw
  split
  · next queue is => exact .of_supply (by rw [is]; rfl)
  · exact .refl c

theorem enter_delivers (p : Publisher) : c.Delivers (c.enter p) := by
  unfold enter
  split
  · next queue is => exact .of_supply (by rw [is]; rfl)
  · exact .refl c

private theorem letIn_delivers : c.Delivers c.letIn := by
  unfold letIn
  cases c.promised.head? with
  | none => exact .refl c
  | some p => exact enter_delivers c p

theorem closeBroker_delivers : c.Delivers c.closeBroker := by
  unfold closeBroker
  split
  · next b maxRedeliveries outages is => exact .of_supply (by rw [is]; rfl)
  · exact .refl c

theorem acknowledge_delivers (receipt : String) : c.Delivers (c.acknowledge receipt) := by
  unfold acknowledge
  split
  · next b maxRedeliveries outages is =>
    split <;> exact .of_supply (by rw [is]; rfl)
  · exact .refl c

private theorem giveBack_delivers (receipt : String) : c.Delivers (c.giveBack receipt) := by
  unfold giveBack
  split
  · next b maxRedeliveries outages is =>
    split <;> exact .of_supply (by rw [is]; rfl)
  · exact .refl c

private theorem conclude_delivers (task : Task) (result : Except Fault Unit) :
    c.Delivers (c.conclude task result) := by
  unfold conclude
  split
  · split
    · exact acknowledge_delivers c _
    · exact giveBack_delivers c _
  · exact .refl c

theorem finish_delivers (id : Nat) (task : Task) (result : Except Fault Unit) :
    (c.occupy id .asking).Delivers (c.finish id task result) :=
  (conclude_delivers (c.occupy id .asking) task result).trans (.of_supply rfl)

private theorem lookAtBrokerAfter_delivers {b : Broker} {maxRedeliveries : Nat} {outages : Outages}
    (is : c.supply = .broker b maxRedeliveries outages) (order : List Lease) (now id : Nat)
    (found : Broker) (later : Outages) :
    c.Delivers (c.lookAtBrokerAfter order now id found maxRedeliveries later).2 := by
  have moved : c.Delivers { c with
      supply := .broker (found.lookAfter order now id).2 maxRedeliveries later } :=
    .of_supply (by rw [is]; rfl)
  unfold lookAtBrokerAfter
  dsimp only
  split
  · exact moved
  · exact moved
  · split
    · exact moved
    · exact moved.trans (acknowledge_delivers _ _)

theorem fetchAfter_delivers (order : List Lease) (now : Nat) (w : Worker τ) :
    c.Delivers (c.fetchAfter order now w).2 := by
  unfold fetchAfter
  split
  · exact .refl c
  · split
    · next queue is =>
      split
      · exact .refl c
      · next rest _ =>
        have taken : c.Delivers { c with supply := .pool rest } := .of_supply (by rw [is]; rfl)
        exact taken.trans (letIn_delivers _)
    · next ring places is =>
      split
      · exact .refl c
      · exact .of_supply (by rw [is]; rfl)
    · next b maxRedeliveries outages is =>
      split
      · exact lookAtBrokerAfter_delivers c is ..
      · split
        · exact .of_supply (by rw [is]; rfl)
        · exact lookAtBrokerAfter_delivers c is ..

theorem sendRaw?_delivers {next : Channel τ} {payload : List UInt8}
    (sends : c.sendRaw? payload = some next) : c.Delivers next := by
  unfold sendRaw? at sends
  split at sends
  · next b maxRedeliveries outages is =>
    obtain ⟨_, _, rfl⟩ := Option.map_eq_some_iff.mp sends
    exact .of_supply (by rw [is]; rfl)
  · cases sends

end Delivers

/-! ## Who is there, and who is busy -/

def ids (c : Channel τ) : List Nat := c.workers.map (·.id)

def busy (c : Channel τ) : List (Nat × Task) :=
  c.workers.filterMap fun w => w.occupation.task?.map (w.id, ·)

section Busy

variable {c next : Channel τ} {w : Worker τ} {id : Nat} {task : Task}

theorem mem_busy : (id, task) ∈ c.busy ↔
    ∃ w ∈ c.workers, w.id = id ∧ w.occupation.task? = some task := by
  simp only [busy, List.mem_filterMap, Option.map_eq_some_iff, Prod.mk.injEq]
  constructor
  · rintro ⟨w, works, _, has, rfl, rfl⟩
    exact ⟨w, works, rfl, has⟩
  · rintro ⟨w, works, rfl, has⟩
    exact ⟨w, works, task, has, rfl, rfl⟩

theorem busy_ids_sublist (c : Channel τ) : (c.busy.map (·.1)).Sublist c.ids := by
  unfold busy ids
  induction c.workers with
  | nil => exact .refl _
  | cons w workers ih =>
    rw [List.filterMap_cons]
    cases w.occupation.task? with
    | none => exact ih.cons _
    | some task => exact ih.cons_cons _

theorem mem_busy_occupy (works : w ∈ c.workers) {occupation : Occupation τ} :
    (id, task) ∈ (c.occupy w.id occupation).busy ↔
      id ≠ w.id ∧ (id, task) ∈ c.busy ∨ id = w.id ∧ occupation.task? = some task := by
  simp only [mem_busy, occupy, List.mem_map]
  constructor
  · rintro ⟨_, ⟨other, worked, rfl⟩, rfl, has⟩
    by_cases same : other.id = w.id
    · rw [if_pos same] at has ⊢
      exact .inr ⟨same, has⟩
    · rw [if_neg same] at has ⊢
      exact .inl ⟨same, other, worked, rfl, has⟩
  · rintro (⟨differs, other, worked, rfl, has⟩ | ⟨rfl, has⟩)
    · exact ⟨other, ⟨other, worked, if_neg differs⟩, rfl, has⟩
    · exact ⟨_, ⟨w, works, if_pos rfl⟩, rfl, has⟩

theorem not_mem_busy (ids : c.ids.Nodup) (works : w ∈ c.workers)
    (free : w.occupation.task? = none) : (w.id, task) ∉ c.busy := by
  intro member
  obtain ⟨other, worked, same, has⟩ := mem_busy.mp member
  have equal := List.inj_on_of_nodup_map ids worked works same
  rw [equal, free] at has
  cases has

theorem busy_unique (ids : c.ids.Nodup) (works : w ∈ c.workers)
    (busy : w.occupation.task? = some task) {other : Task} (member : (w.id, other) ∈ c.busy) :
    other = task := by
  obtain ⟨worker, worked, same, has⟩ := mem_busy.mp member
  have equal := List.inj_on_of_nodup_map ids worked works same
  rw [equal, busy] at has
  exact (Option.some.inj has).symm

theorem mem_busy_dismiss {leaver : Nat} : (id, task) ∈ (c.dismiss leaver).busy ↔
    id ≠ leaver ∧ (id, task) ∈ c.busy := by
  simp only [mem_busy, dismiss, List.mem_filter, bne_iff_ne, ne_eq]
  constructor
  · rintro ⟨w, ⟨works, stays⟩, rfl, has⟩
    exact ⟨stays, w, works, rfl, has⟩
  · rintro ⟨differs, w, works, rfl, has⟩
    exact ⟨w, ⟨works, differs⟩, rfl, has⟩

theorem Delivers.workers (moved : c.Delivers next) : next.workers = c.workers := by
  obtain ⟨_, _, _, _, rfl⟩ := moved
  rfl

theorem Delivers.busy (moved : c.Delivers next) : next.busy = c.busy := by
  unfold Channel.busy
  rw [moved.workers]

theorem ids_occupy (c : Channel τ) (id : Nat) (occupation : Occupation τ) :
    (c.occupy id occupation).ids = c.ids := occupy_ids c id occupation

theorem ids_dismiss (c : Channel τ) (id : Nat) : (c.dismiss id).ids.Sublist c.ids :=
  List.filter_sublist.map _

theorem mem_ids_dismiss {leaver : Nat} :
    id ∈ (c.dismiss leaver).ids ↔ id ∈ c.ids ∧ id ≠ leaver := by
  simp only [ids, dismiss, List.mem_map, List.mem_filter, bne_iff_ne, ne_eq]
  constructor
  · rintro ⟨w, ⟨works, stays⟩, rfl⟩
    exact ⟨⟨w, works, rfl⟩, stays⟩
  · rintro ⟨⟨w, works, rfl⟩, differs⟩
    exact ⟨w, ⟨works, differs⟩, rfl⟩

theorem mem_ids_abort {leavers : List Nat} :
    id ∈ (c.abort leavers).ids ↔ id ∈ c.ids ∧ id ∉ leavers := by
  unfold abort
  induction leavers generalizing c with
  | nil => simp
  | cons leaver leavers ih =>
    rw [List.foldl_cons, ih, mem_ids_dismiss, List.mem_cons, not_or, and_assoc]

theorem workers_abort (c : Channel τ) (leavers : List Nat) :
    (c.abort leavers).workers ⊆ c.workers := by
  unfold abort
  induction leavers generalizing c with
  | nil => exact List.Subset.refl _
  | cons leaver leavers ih => exact List.Subset.trans (ih _) (List.filter_subset_self _)

theorem length_abort_le (c : Channel τ) (leavers : List Nat) :
    (c.abort leavers).workers.length ≤ c.workers.length := by
  unfold abort
  induction leavers generalizing c with
  | nil => exact Nat.le_refl _
  | cons leaver leavers ih => exact Nat.le_trans (ih _) (List.length_filter_le _ _)

theorem mem_busy_abort {leavers : List Nat} :
    (id, task) ∈ (c.abort leavers).busy ↔ id ∉ leavers ∧ (id, task) ∈ c.busy := by
  unfold abort
  induction leavers generalizing c with
  | nil => simp
  | cons leaver leavers ih =>
    rw [List.foldl_cons, ih, mem_busy_dismiss, List.mem_cons, not_or]
    exact ⟨fun ⟨later, first, has⟩ => ⟨⟨first, later⟩, has⟩, fun ⟨⟨first, later⟩, has⟩ => ⟨later,
        first, has⟩⟩

theorem haveEnded_iff {claimed : List Nat} :
    c.haveEnded claimed = true ↔ ∀ id ∈ claimed, id ∉ c.ids := by
  simp only [haveEnded, List.all_eq_true, isAlive, worker?, ids, Bool.not_eq_true',
    Option.isSome_eq_false_iff, Option.isNone_iff_eq_none, List.find?_eq_none, List.mem_map,
    not_exists, not_and, beq_iff_eq]

end Busy

structure Lasts (c next : Channel τ) : Prop where
  kind : next.supply.kind = c.supply.kind
  crewSize : next.crewSize = c.crewSize
  grace : next.grace = c.grace
  closed : c.closed = true → next.closed = true

theorem Lasts.isBus {c next : Channel τ} (lasts : c.Lasts next) :
    next.supply.isBus = c.supply.isBus := by rw [Supply.isBus, lasts.kind, Supply.isBus]

theorem Lasts.refl (c : Channel τ) : c.Lasts c := ⟨rfl, rfl, rfl, id⟩

theorem Lasts.trans {c next last : Channel τ} (first : c.Lasts next) (second : next.Lasts last) :
    c.Lasts last where
  kind := second.kind.trans first.kind
  crewSize := second.crewSize.trans first.crewSize
  grace := second.grace.trans first.grace
  closed closed := second.closed (first.closed closed)

structure Keeps (c next : Channel τ) : Prop extends c.Lasts next where
  ids : next.ids.Sublist c.ids
  unclaimed : next.unclaimed = c.unclaimed
  hired : next.hired = c.hired

section Keeps

variable {c next : Channel τ}

theorem Keeps.refl (c : Channel τ) : c.Keeps c := ⟨.refl c, .refl _, rfl, rfl⟩

theorem Keeps.trans {last : Channel τ} (first : c.Keeps next) (second : next.Keeps last) :
    c.Keeps last where
  toLasts := first.toLasts.trans second.toLasts
  ids := second.ids.trans first.ids
  unclaimed := second.unclaimed.trans first.unclaimed
  hired := second.hired.trans first.hired

theorem Delivers.keeps (moved : c.Delivers next) : c.Keeps next := by
  obtain ⟨_, _, _, kind, rfl⟩ := moved
  exact ⟨⟨kind, rfl, rfl, id⟩, .refl _, rfl, rfl⟩

theorem keeps_occupy (c : Channel τ) (id : Nat) (occupation : Occupation τ) :
    c.Keeps (c.occupy id occupation) :=
  ⟨⟨rfl, rfl, rfl, fun closed => closed⟩, by rw [ids_occupy], rfl, rfl⟩

theorem keeps_dismiss (c : Channel τ) (id : Nat) : c.Keeps (c.dismiss id) := by
  refine ⟨⟨?_, rfl, rfl, fun closed => closed⟩, ids_dismiss c id, rfl, rfl⟩
  unfold dismiss
  cases c.supply <;> rfl

theorem keeps_abort (c : Channel τ) (ids : List Nat) : c.Keeps (c.abort ids) := by
  induction ids generalizing c with
  | nil => exact .refl c
  | cons id ids ih => exact (keeps_dismiss c id).trans (ih _)

theorem workers_abandon (c : Channel τ) : c.abandon.workers = c.workers := by
  unfold abandon
  split <;> rfl

theorem keeps_abandon (c : Channel τ) : c.Keeps c.abandon := by
  unfold abandon
  split
  · next queue is => exact ⟨⟨by rw [is]; rfl, rfl, rfl, fun _ => rfl⟩, .refl _, rfl, rfl⟩
  · exact .refl c

/-- A worker who found no task goes, or stays without one. -/
theorem heed_cases (c : Channel τ) (id : Nat) {fetch : Fetch} (nothing : fetch.task? = none) :
    c.heed id fetch = c.dismiss id ∨ ∃ occupation : Occupation τ, occupation.task? = none ∧
      (c.occupy id occupation).Delivers (c.heed id fetch) := by
  cases fetch with
  | task => cases nothing
  | ends => exact .inl rfl
  | waits => exact .inr ⟨.waiting, rfl, .refl _⟩
  | rests wakes => exact .inr ⟨.resting wakes, rfl, .refl _⟩
  | again => exact .inr ⟨.asking, rfl, .of_supply rfl⟩

theorem keeps_heed (c : Channel τ) (id : Nat) {fetch : Fetch} (nothing : fetch.task? = none) :
    c.Keeps (c.heed id fetch) := by
  rcases heed_cases c id nothing with same | ⟨occupation, _, moved⟩
  · rw [same]
    exact keeps_dismiss c id
  · exact (keeps_occupy c id occupation).trans moved.keeps

theorem busy_heed {w : Worker τ} (ids : c.ids.Nodup) (works : w ∈ c.workers)
    (free : w.occupation.task? = none) {fetch : Fetch} (nothing : fetch.task? = none)
    (b : Nat × Task) : b ∈ (c.heed w.id fetch).busy ↔ b ∈ c.busy := by
  obtain ⟨id, task⟩ := b
  have others : (id, task) ∈ c.busy → id ≠ w.id := by
    intro member same
    exact not_mem_busy ids works free (same ▸ member)
  rcases heed_cases c w.id nothing with same | ⟨occupation, idle, moved⟩
  · rw [same, mem_busy_dismiss]
    exact and_iff_right_of_imp others
  · rw [moved.busy, mem_busy_occupy works]
    constructor
    · rintro (⟨_, member⟩ | ⟨_, has⟩)
      · exact member
      · rw [idle] at has
        cases has
    · intro member
      exact .inl ⟨others member, member⟩

theorem workers_close (c : Channel τ) : c.close.workers = c.workers := by
  unfold close
  split <;> rfl

theorem keeps_close (c : Channel τ) : c.Keeps c.close := by
  unfold close
  split
  · exact .refl c
  · exact ⟨⟨rfl, rfl, rfl, fun _ => rfl⟩, .refl _, rfl, rfl⟩

private theorem ids_tell (c : Channel τ) : c.tell.ids = c.ids := by
  unfold ids tell
  rw [List.map_map]
  rfl

theorem keeps_tell (c : Channel τ) : c.Keeps c.tell :=
  ⟨⟨rfl, rfl, rfl, id⟩, by rw [ids_tell], rfl, rfl⟩

theorem busy_tell (c : Channel τ) : c.tell.busy = c.busy := by
  unfold busy tell
  rw [List.filterMap_map]
  rfl

theorem busy_close (c : Channel τ) : c.close.busy = c.busy := by rw [busy, workers_close, busy]

theorem ids_enlist (c : Channel τ) (crew : Nat) : (c.enlist crew).ids = c.ids ++ [c.hired] :=
  List.map_append

theorem busy_enlist (c : Channel τ) (crew : Nat) : (c.enlist crew).busy = c.busy := by
  unfold busy enlist
  rw [List.filterMap_append]
  exact List.append_nil _

theorem enlist_lasts (c : Channel τ) (crew : Nat) : c.Lasts (c.enlist crew) := by
  refine ⟨?_, rfl, rfl, id⟩
  unfold enlist
  cases c.supply <;> rfl

end Keeps

end Channel

end FeedIngest.Delivery
