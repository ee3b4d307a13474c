import FeedIngest.Proofs.Delivery.Pool

/-!
# Subscribers of a bus

Jobs are published to a bus. Subscribers come at any time, and each of them hears the jobs one by
one, at his own pace: between two of them he has one in hand for as long as its handler takes, and
it ends well or badly. The ring keeps a bounded number of jobs, so that a slow subscriber goes on
with the oldest one it still keeps. What he hears depends on when he came and when he listened, and
on nobody else.
-/

set_option autoImplicit false

namespace FeedIngest.Delivery

variable {τ : Type}

/-! ## Rings and their readers -/

namespace Ring

/-- The places a reader gets to who begins at one and looks when that many jobs had been published:
each time the next one, unless that is not kept any more. -/
def places (capacity : Nat) : Nat → List Nat → List Nat
  | _, [] => []
  | place, seen :: later =>
    max place (seen - capacity) :: places capacity (max place (seen - capacity) + 1) later

def placeAfter (capacity place : Nat) (seen : List Nat) : Nat :=
  seen.foldl (fun place seen => max place (seen - capacity) + 1) place

structure Keeps (r : Ring) (jobs : List Job) : Prop where
  published : r.published = jobs.length
  kept : r.kept = jobs.drop (jobs.length - r.capacity)

section Places

variable {capacity place p : Nat} {seen : List Nat}

private theorem places_concat (capacity place : Nat) (seen : List Nat) (last : Nat) :
    places capacity place (seen ++ [last]) = places capacity place seen ++
      [max (placeAfter capacity place seen) (last - capacity)] := by
  induction seen generalizing place with
  | nil => rfl
  | cons first seen ih => exact congrArg (_ :: ·) (ih _)

private theorem placeAfter_concat (capacity place : Nat) (seen : List Nat) (last : Nat) :
    placeAfter capacity place (seen ++ [last]) =
      max (placeAfter capacity place seen) (last - capacity) + 1 :=
  List.foldl_append

private theorem length_places (capacity place : Nat) (seen : List Nat) :
    (places capacity place seen).length = seen.length := by
  induction seen generalizing place with
  | nil => rfl
  | cons first seen ih => exact congrArg (· + 1) (ih _)

theorem le_of_mem_places (member : p ∈ places capacity place seen) : place ≤ p := by
  induction seen generalizing place with
  | nil => cases member
  | cons first seen ih =>
    rcases List.mem_cons.mp member with rfl | later
    · exact Nat.le_max_left _ _
    · have := ih later
      omega

private theorem pairwise_places (capacity place : Nat) (seen : List Nat) :
    (places capacity place seen).Pairwise (· < ·) := by
  induction seen generalizing place with
  | nil => exact .nil
  | cons first seen ih =>
    exact .cons (fun p member => le_of_mem_places member) (ih _)

/-- A reader who passes a place without getting to it looked when that many jobs had been published
after it. He looks later and later. -/
theorem missed_place {q : Nat} (ordered : seen.Pairwise (· ≤ ·)) (after : place ≤ q)
    (missed : q ∉ places capacity place seen) :
    ∀ r ∈ (places capacity place seen).zip seen, q < r.1 → q + capacity < r.2 := by
  induction seen generalizing place with
  | nil => exact fun r member => nomatch member
  | cons first seen ih =>
    obtain ⟨follows, ordered⟩ := List.pairwise_cons.mp ordered
    obtain ⟨here, missedLater⟩ := not_or.mp (List.mem_cons.not.mp missed)
    intro r member passed
    -- Either he passes the place with the first look, or it is still ahead of him.
    by_cases reached : max place (first - capacity) + 1 ≤ q
    · rcases List.mem_cons.mp member with rfl | later
      · exact absurd passed (by omega)
      · exact ih ordered reached missedLater r later passed
    · have skipped : q + capacity < first := by omega
      rcases List.mem_cons.mp member with rfl | later
      · exact skipped
      · exact Nat.lt_of_lt_of_le skipped (follows r.2 (List.of_mem_zip later).2)

/-- Who reads a log at places that go up reads a subsequence of it. -/
theorem sublist_of_places {α : Type} {log heard : List α} {places : List Nat} {start : Nat}
    (upwards : places.Pairwise (· < ·)) (after : ∀ p ∈ places, start ≤ p)
    (reads : places.map (log[·]?) = heard.map some) : heard.Sublist (log.drop start) := by
  induction places generalizing start heard with
  | nil =>
    rw [List.map_eq_nil_iff.mp reads.symm]
    exact List.nil_sublist _
  | cons p places ih =>
    obtain ⟨follow, upwards⟩ := List.pairwise_cons.mp upwards
    cases heard with
    | nil => cases reads
    | cons first heard =>
      obtain ⟨here, later⟩ := List.cons.inj reads
      obtain ⟨inside, rfl⟩ := List.getElem?_eq_some_iff.mp here
      have rest : (log[p] :: heard).Sublist (log.drop p) := by
        rw [← List.getElem_cons_drop inside]
        exact (ih upwards follow later).cons_cons _
      exact rest.trans (List.drop_sublist_drop_left log (after p List.mem_cons_self))

end Places

section Keeps

variable {r : Ring} {jobs : List Job}

private theorem keeps_empty (capacity : Nat) : (empty capacity).Keeps [] :=
  ⟨rfl, List.drop_nil.symm⟩

private theorem Keeps.publish (keeps : r.Keeps jobs) (job : Job) :
    (r.publish job).Keeps (jobs ++ [job]) where
  published := by simp [Ring.publish, keeps.published]
  kept := by
    have kept : r.kept ++ [job] = (jobs ++ [job]).drop (jobs.length - r.capacity) := by
      rw [keeps.kept, List.drop_append_of_le_length (Nat.sub_le _ _)]
    unfold Ring.publish
    dsimp only
    rw [kept, List.drop_drop, List.length_drop, List.length_append, List.length_singleton]
    congr 1
    omega

private theorem Keeps.read? (keeps : r.Keeps jobs) (place : Nat) :
    r.read? place = (jobs[max place (jobs.length - r.capacity)]?).map fun job =>
      (job, max place (jobs.length - r.capacity) + 1) := by
  have oldest : r.oldest = jobs.length - r.capacity := by
    rw [Ring.oldest, keeps.published, keeps.kept, List.length_drop]
    omega
  unfold Ring.read?
  dsimp only
  rw [oldest, keeps.kept, List.getElem?_drop, Nat.add_sub_cancel' (Nat.le_max_right _ _)]

end Keeps

end Ring

/-! ## The steps of a bus -/

namespace Channel

def staff (c : Channel τ) : List (Nat × Bool) := c.workers.map fun w => (w.id, w.dismissed)

section Staff

variable {c next : Channel τ}

theorem ids_eq_staff (c : Channel τ) : c.ids = c.staff.map (·.1) := by
  rw [staff, List.map_map]
  rfl

private theorem staff_occupy (c : Channel τ) (id : Nat) (occupation : Occupation τ) :
    (c.occupy id occupation).staff = c.staff := by
  unfold staff occupy
  rw [List.map_map]
  refine List.map_congr_left fun w _ => ?_
  by_cases here : w.id = id <;> simp [here]

private theorem Delivers.staff (moved : c.Delivers next) : next.staff = c.staff := by
  unfold Channel.staff
  rw [moved.workers]

private theorem staff_enlist (c : Channel τ) (crew : Nat) :
    (c.enlist crew).staff = c.staff ++ [(c.hired, false)] := List.map_append

end Staff

section Bus

variable {c : Channel τ} {ring : Ring} {places : List (Nat × Nat)} (is : c.supply = .bus ring places)
include is

private theorem handOver_bus (ticket : Nat) (job : Job) : c.handOver ticket job =
    if c.workers.isEmpty then c.answer ticket (.ok ())
    else ({ c with supply := .bus (ring.publish job) places }.answer ticket (.ok ())).call
      c.waiting := by
  unfold handOver
  rw [is]

theorem fetchAfter_bus {w : Worker τ} (stays : w.dismissed = false) (order : List Lease)
    (now : Nat) : c.fetchAfter order now w =
      (ring.read? ((places.lookup w.id).getD 0)).elim (.waits, c) fun (job, place) =>
        (.task ⟨job, none⟩, { c with
          supply := .bus ring (places.map fun p => if p.1 = w.id then (w.id, place) else p) }) := by
  unfold fetchAfter
  rw [is, stays, if_neg Bool.false_ne_true]
  dsimp only
  cases ring.read? ((places.lookup w.id).getD 0) <;> rfl

private theorem fetchAfter_bus_fst {w : Worker τ} (stays : w.dismissed = false) (order : List Lease)
    (now : Nat) : (c.fetchAfter order now w).1 =
      (ring.read? ((places.lookup w.id).getD 0)).elim .waits fun read => .task ⟨read.1, none⟩ := by
  rw [fetchAfter_bus is stays]
  cases ring.read? ((places.lookup w.id).getD 0) <;> rfl

private theorem conclude_bus (task : Task) (result : Except Fault Unit) :
    c.conclude task result = c := by
  unfold conclude
  rw [is]

private theorem abandon_bus : c.abandon = c := by
  unfold abandon
  rw [is]

end Bus

end Channel

namespace LiveChannel

variable {d next : LiveChannel τ} {ring : Ring} {places : List (Nat × Nat)}

def hands (d : LiveChannel τ) : List (Nat × Job) := d.handed.map fun h => (h.worker, h.task.job)

inductive BusStep (ring : Ring) (places : List (Nat × Nat)) (d next : LiveChannel τ) : Prop
  /-- Nothing is published, and nobody comes or listens. -/
  | quiet (supply : next.channel.supply = .bus ring places)
      (staff : next.channel.staff = d.channel.staff) (accepted : next.accepted = d.accepted)
      (hands : next.hands = d.hands)
  /-- A job is published, and nobody is there. -/
  | unheard (p : Publisher) (nobody : d.channel.staff = [])
      (supply : next.channel.supply = .bus ring places)
      (staff : next.channel.staff = d.channel.staff) (accepted : next.accepted = d.accepted ++ [p])
      (hands : next.hands = d.hands)
  | publishes (p : Publisher) (somebody : d.channel.staff ≠ [])
      (supply : next.channel.supply = .bus (ring.publish p.job) places)
      (staff : next.channel.staff = d.channel.staff) (accepted : next.accepted = d.accepted ++ [p])
      (hands : next.hands = d.hands)
  | joins (supply : next.channel.supply =
        .bus ring (places ++ [(d.channel.hired, ring.published)]))
      (staff : next.channel.staff = d.channel.staff ++ [(d.channel.hired, false)])
      (accepted : next.accepted = d.accepted) (hands : next.hands = d.hands)
  | hears (id : Nat) (there : (id, false) ∈ d.channel.staff) (job : Job) (place : Nat)
      (reads : ring.read? ((places.lookup id).getD 0) = some (job, place))
      (supply : next.channel.supply =
        .bus ring (places.map fun p => if p.1 = id then (id, place) else p))
      (staff : next.channel.staff = d.channel.staff) (accepted : next.accepted = d.accepted)
      (hands : next.hands = d.hands ++ [(id, job)])

private theorem handOver_busStep (is : d.channel.supply = .bus ring places) (p : Publisher) :
    BusStep ring places d (d.handOver p) := by
  have told := Channel.handOver_bus is p.ticket p.job
  have staff : (d.handOver p).channel.staff = d.channel.staff :=
    (d.channel.handOver_delivers p.ticket p.job).staff
  have accepted : (d.handOver p).accepted = d.accepted ++ [p] := by
    have answers : (d.channel.handOver p.ticket p.job).answers =
        d.channel.answers ++ [(p.ticket, .ok ())] := by
      rw [told]
      split <;> rfl
    exact if_pos answers
  cases nobody : d.channel.workers.isEmpty with
  | true =>
    rw [nobody] at told
    have empty : d.channel.staff = [] := by
      rw [Channel.staff, List.isEmpty_iff.mp nobody, List.map_nil]
    refine .unheard p empty ?_ staff accepted rfl
    rw [handOver, hear, told]
    exact is
  | false =>
    rw [nobody] at told
    have somebody : d.channel.staff ≠ [] := by
      rw [Channel.staff]
      simpa using nobody
    refine .publishes p somebody ?_ staff accepted rfl
    rw [handOver, hear, told]
    rfl

theorem Step.busStep (step : Step d next) (is : d.channel.supply = .bus ring places)
    (stay : ∀ w ∈ d.channel.workers, w.dismissed = false) (unstopped : next.calls = []) :
    BusStep ring places d next := by
  have none : ∀ {i : Nat} {call : StopCall}, d.calls = [] → d.calls[i]? ≠ some call := by
    intro i call empty found
    rw [empty] at found
    cases found
  cases step with
  | approach => exact .quiet is rfl rfl rfl
  | refuse => exact .quiet is rfl rfl rfl
  | handOver => exact handOver_busStep is _
  | withdraw ticket =>
    have same : d.channel.withdraw ticket = d.channel := by rw [Channel.withdraw, is]
    rw [LiveChannel.withdraw, same]
    exact .quiet is rfl rfl rfl
  | wake found closed isPool => cases is.symm.trans isPool
  | enter promised =>
    rw [Channel.promised, is] at promised
    cases promised
  | sendRaw sends =>
    rw [Channel.sendRaw?, is] at sends
    cases sends
  | closeBroker =>
    have same : d.channel.closeBroker = d.channel := by rw [Channel.closeBroker, is]
    rw [same]
    exact .quiet is rfl rfl rfl
  | consume => exact .quiet is rfl rfl rfl
  | @enlist crew comes =>
    refine .joins ?_ (d.channel.staff_enlist crew) rfl rfl
    rw [LiveChannel.enlist, Channel.enlist, is]
  | register => exact .quiet is rfl rfl rfl
  | @look w order works free ended nothing =>
    have found := Channel.fetchAfter_bus is (stay w works) order d.now
    rw [found] at nothing ⊢
    cases reads : ring.read? ((places.lookup w.id).getD 0) with
    | none => exact .quiet is (Channel.staff_occupy _ _ _) rfl rfl
    | some read =>
      rw [reads] at nothing
      cases nothing
  | take works free stays isToo =>
    rw [is] at isToo
    cases isToo
  | @begin w order task works free ended apart found wakes stage =>
    have finds := Channel.fetchAfter_bus is (stay w works) order d.now
    rw [finds] at found ⊢
    cases reads : ring.read? ((places.lookup w.id).getD 0) with
    | none =>
      rw [reads] at found
      cases found
    | some read =>
      rw [reads] at found
      cases found
      refine .hears w.id ?_ read.1 read.2 reads rfl (Channel.staff_occupy _ _ _) rfl ?_
      · exact List.mem_map.mpr ⟨w, works, by rw [stay w works]⟩
      · exact List.map_append
  | goOn => exact .quiet is (Channel.staff_occupy _ _ _) rfl rfl
  | @finish w task works busy result =>
    have concluded := Channel.conclude_bus (c := d.channel.occupy w.id .asking) is task result
    refine .quiet ?_ ?_ rfl ?_
    · rw [LiveChannel.finish, Channel.finish, concluded]
      exact is
    · rw [LiveChannel.finish, Channel.finish, concluded]
      exact Channel.staff_occupy _ _ _
    · rw [hands, LiveChannel.finish, List.map_map]
      refine List.map_congr_left fun h _ => ?_
      obtain ⟨worker, task⟩ := Handling.endedBy_worker w.id d.now result h
      exact Prod.ext worker (congrArg Task.job task)
  | abandon =>
    rw [Channel.abandon_bus is]
    exact .quiet is rfl rfl rfl
  | stop => exact absurd unstopped (by simp [LiveChannel.stop])
  | turnAway found closed =>
    exact absurd found (none (Step.calls_eq_nil (.turnAway found closed) unstopped))
  | tell found turnedAway =>
    exact absurd found (none (Step.calls_eq_nil (.tell found turnedAway) unstopped))
  | claim found told => exact absurd found (none (Step.calls_eq_nil (.claim found told) unstopped))
  | drained found waits ended =>
    exact absurd found (none (Step.calls_eq_nil (.drained found waits ended) unstopped))
  | giveUp found waits late =>
    exact absurd found (none (Step.calls_eq_nil (.giveUp found waits late) unstopped))
  | pass still => exact .quiet is rfl rfl rfl

end LiveChannel

/-! ## The book of a bus -/

structure Hearing where
  worker : Nat
  job : Job
  seen : Nat

structure Broadcast (τ : Type) where
  live : LiveChannel τ
  /-- Who came, and how many jobs had been published before. -/
  joined : List (Nat × Nat)
  heard : List Hearing

namespace Broadcast

/-- How many jobs the ring of a bus holds: as many as asked for, but at least one, and rounded up to
a power of two. -/
def room (capacity : Nat) : Nat := (max capacity 1).nextPowerOfTwo

def opening (capacity : Nat) : Broadcast τ := ⟨.opening (.bus capacity), [], []⟩

def jobs (b : Broadcast τ) : List Job := b.live.accepted.map (·.job)

def heardBy (b : Broadcast τ) (id : Nat) : List Hearing := b.heard.filter (·.worker == id)

/-- Whoever is new at the channel is booked, and whatever was handed out. -/
def follow (b : Broadcast τ) (next : LiveChannel τ) : Broadcast τ where
  live := next
  joined := b.joined ++ (next.channel.ids.filter fun id => id ∉ b.live.channel.ids).map fun id =>
    (id, next.accepted.length)
  heard := b.heard ++ (next.hands.drop b.live.hands.length).map fun (worker, job) =>
    ⟨worker, job, next.accepted.length⟩

inductive Step (b : Broadcast τ) : Broadcast τ → Prop
  | follow {next : LiveChannel τ} (step : LiveChannel.Step b.live next) : Step b (b.follow next)

def Run : Broadcast τ → Broadcast τ → Prop := Relation.ReflTransGen Step

variable {b after : Broadcast τ}

theorem Run.live (run : Run b after) : LiveChannel.Run b.live after.live := by
  induction run with
  | refl => exact .refl
  | tail _ last ih =>
    cases last with
    | follow step => exact ih.tail step

/-- The book of a bus can be kept through every run. -/
theorem exists_of_run (b : Broadcast τ) {next : LiveChannel τ} (run : LiveChannel.Run b.live next) :
    ∃ after, Run b after ∧ after.live = next := by
  induction run with
  | refl => exact ⟨b, .refl, rfl⟩
  | tail _ step ih =>
    obtain ⟨middle, run, rfl⟩ := ih
    exact ⟨_, run.tail (.follow step), rfl⟩

/-- Somebody came when `start` jobs had been published and has heard those of `mine`, and that is
his place in the ring. The ring has nothing of the first `offset` jobs, which were published before
anybody came. -/
structure Subscribed (capacity offset : Nat) (jobs : List Job) (mine : List Hearing)
    (place start : Nat) : Prop where
  here : offset + place = Ring.placeAfter (room capacity) start (mine.map (·.seen))
  came : offset ≤ start ∧ start ≤ jobs.length
  reads : (Ring.places (room capacity) start (mine.map (·.seen))).map (jobs[·]?) =
    mine.map (some ·.job)
  ahead : ∀ r ∈ (Ring.places (room capacity) start (mine.map (·.seen))).zip mine, r.1 < r.2.seen

structure Tuned (capacity offset : Nat) (ring : Ring) (places : List (Nat × Nat))
    (b : Broadcast τ) : Prop where
  supply : b.live.channel.supply = .bus ring places
  holds : ring.capacity = room capacity
  keeps : ring.Keeps (b.jobs.drop offset)
  before : offset ≤ b.jobs.length
  idle : places = [] → offset = b.jobs.length
  staff : b.live.channel.staff = places.map fun p => (p.1, false)
  joined : b.joined.map (·.1) = places.map (·.1)
  hands : b.live.hands = b.heard.map fun h => (h.worker, h.job)
  known : ∀ h ∈ b.heard, h.worker ∈ places.map (·.1)
  ordered : (b.heard.map (·.seen)).Pairwise (· ≤ ·)
  seen : ∀ h ∈ b.heard, h.seen ≤ b.jobs.length
  subscribed : ∀ s ∈ b.joined, ∃ place, places.lookup s.1 = some place ∧
    Subscribed capacity offset b.jobs (b.heardBy s.1) place s.2

section Follow

variable {next : LiveChannel τ}

theorem jobs_follow (accepted : next.accepted = b.live.accepted) :
    (b.follow next).jobs = b.jobs :=
  congrArg (List.map Publisher.job) accepted

theorem joined_follow (staff : next.channel.staff = b.live.channel.staff) :
    (b.follow next).joined = b.joined := by
  have nobody : (next.channel.ids.filter fun id => id ∉ b.live.channel.ids) = [] := by
    rw [Channel.ids_eq_staff next.channel, staff, ← Channel.ids_eq_staff]
    simp
  rw [follow, nobody, List.map_nil, List.append_nil]

private theorem joined_follow_concat {id : Nat} {dismissed : Bool} (new : id ∉ b.live.channel.ids)
    (staff : next.channel.staff = b.live.channel.staff ++ [(id, dismissed)]) :
    (b.follow next).joined = b.joined ++ [(id, next.accepted.length)] := by
  have one : (next.channel.ids.filter fun id => id ∉ b.live.channel.ids) = [id] := by
    rw [Channel.ids_eq_staff next.channel, staff, List.map_append, ← Channel.ids_eq_staff]
    simp [new]
  rw [follow, one, List.map_singleton]

theorem heard_follow (hands : next.hands = b.live.hands) : (b.follow next).heard = b.heard := by
  rw [follow, hands, List.drop_length, List.map_nil, List.append_nil]

theorem heardBy_follow (hands : next.hands = b.live.hands) :
    (b.follow next).heardBy = b.heardBy := by
  funext id
  rw [heardBy, heardBy, heard_follow hands]

private theorem heard_follow_concat {id : Nat} {job : Job}
    (hands : next.hands = b.live.hands ++ [(id, job)]) :
    (b.follow next).heard = b.heard ++ [⟨id, job, next.accepted.length⟩] := by
  rw [follow, hands, List.drop_left]
  rfl

end Follow

section Subscribed

variable {capacity offset place start : Nat} {jobs : List Job} {mine : List Hearing}

/-- What was read stays where it is when more is published. -/
theorem Subscribed.append (subscribed : Subscribed capacity offset jobs mine place start)
    (more : List Job) : Subscribed capacity offset (jobs ++ more) mine place start where
  here := subscribed.here
  came := ⟨subscribed.came.1, by
    rw [List.length_append]
    exact Nat.le_add_right_of_le subscribed.came.2⟩
  reads := by
    refine Eq.trans (List.map_congr_left fun p member => ?_) subscribed.reads
    have read : jobs[p]? ∈ mine.map (some ·.job) := by
      rw [← subscribed.reads]
      exact List.mem_map_of_mem member
    obtain ⟨h, _, some⟩ := List.mem_map.mp read
    obtain ⟨inside, _⟩ := List.getElem?_eq_some_iff.mp some.symm
    exact List.getElem?_append_left inside
  ahead := subscribed.ahead

private theorem Subscribed.hear (subscribed : Subscribed capacity offset jobs mine place start)
    {job : Job} (id : Nat)
    (read : jobs[max (offset + place) (jobs.length - room capacity)]? = some job) :
    Subscribed capacity offset jobs (mine ++ [⟨id, job, jobs.length⟩])
      (max (offset + place) (jobs.length - room capacity) + 1 - offset) start := by
  have places : Ring.places (room capacity) start
      ((mine ++ [Hearing.mk id job jobs.length]).map (·.seen)) =
        Ring.places (room capacity) start (mine.map (·.seen)) ++
          [max (offset + place) (jobs.length - room capacity)] := by
    rw [List.map_append, List.map_singleton, Ring.places_concat, ← subscribed.here]
  constructor
  · rw [List.map_append, List.map_singleton, Ring.placeAfter_concat, ← subscribed.here]
    dsimp only
    omega
  · exact subscribed.came
  · rw [places, List.map_append, List.map_append, subscribed.reads, List.map_singleton, read]
    rfl
  · intro r member
    rw [places, List.zip_append (by rw [Ring.length_places, List.length_map])] at member
    rcases List.mem_append.mp member with old | new
    · exact subscribed.ahead r old
    · rw [List.mem_singleton.mp new]
      exact (List.getElem?_eq_some_iff.mp read).1

private theorem subscribed_new (before : offset ≤ jobs.length) :
    Subscribed capacity offset jobs [] (jobs.length - offset) jobs.length where
  here := Nat.add_sub_cancel' before
  came := ⟨before, Nat.le_refl _⟩
  reads := rfl
  ahead _ member := nomatch member

/-- The place of one reader has changed. -/
theorem lookup_moved (places : List (Nat × Nat)) (id place other : Nat) :
    (places.map fun p => if p.1 = id then (id, place) else p).lookup other =
      (places.lookup other).map fun old => if other = id then place else old := by
  induction places with
  | nil => rfl
  | cons p places ih =>
    obtain ⟨first, old⟩ := p
    rw [List.map_cons]
    by_cases same : other = first
    · subst same
      by_cases here : other = id <;> simp [here]
    · have passes : ∀ (q : Nat) (rest : List (Nat × Nat)),
          ((first, q) :: rest).lookup other = rest.lookup other := by
        intro q rest
        rw [List.lookup_cons, beq_false_of_ne same]
      by_cases here : first = id
      · subst here
        rw [if_pos rfl, passes, passes, ih]
      · rw [if_neg here, passes, passes, ih]

end Subscribed

section Steps

variable {capacity offset : Nat} {ring : Ring} {places : List (Nat × Nat)} {next : LiveChannel τ}

theorem opening_tuned (capacity : Nat) :
    Tuned capacity 0 (.empty capacity) [] (opening capacity : Broadcast τ) where
  supply := rfl
  holds := rfl
  keeps := Ring.keeps_empty capacity
  before := Nat.le_refl 0
  idle _ := rfl
  staff := rfl
  joined := rfl
  hands := rfl
  known _ member := nomatch member
  ordered := .nil
  seen _ member := nomatch member
  subscribed _ member := nomatch member

theorem Tuned.stay (tuned : Tuned capacity offset ring places b) :
    ∀ w ∈ b.live.channel.workers, w.dismissed = false := by
  intro w works
  have member : (w.id, w.dismissed) ∈ b.live.channel.staff := List.mem_map_of_mem works
  rw [tuned.staff] at member
  obtain ⟨p, _, same⟩ := List.mem_map.mp member
  exact (congrArg Prod.snd same).symm

theorem Tuned.ids (tuned : Tuned capacity offset ring places b) :
    b.live.channel.ids = places.map (·.1) := by
  rw [Channel.ids_eq_staff, tuned.staff, List.map_map]
  rfl

theorem Tuned.exists_start (tuned : Tuned capacity offset ring places b) {id : Nat}
    (there : id ∈ places.map (·.1)) : ∃ start, (id, start) ∈ b.joined := by
  rw [← tuned.joined] at there
  obtain ⟨⟨_, start⟩, member, rfl⟩ := List.mem_map.mp there
  exact ⟨start, member⟩

/-- What a reader finds at his place of the ring, in terms of all jobs that were published. -/
theorem Tuned.read? (tuned : Tuned capacity offset ring places b) (place : Nat) :
    ring.read? place =
      (b.jobs[max (offset + place) (b.jobs.length - Broadcast.room capacity)]?).map fun job =>
        (job, max (offset + place) (b.jobs.length - Broadcast.room capacity) + 1 - offset) := by
  have before := tuned.before
  rw [tuned.keeps.read?, tuned.holds, List.length_drop, List.getElem?_drop]
  have same : offset + max place (b.jobs.length - offset - Broadcast.room capacity) =
      max (offset + place) (b.jobs.length - Broadcast.room capacity) := by omega
  rw [same]
  congr 1
  funext job
  exact Prod.ext rfl (by dsimp only; omega)

/-- Nobody comes or listens, and maybe jobs are published. -/
theorem Tuned.publish (tuned : Tuned capacity offset ring places b) (later : Nat) {newer : Ring}
    (more : List Job) (supply : next.channel.supply = .bus newer places)
    (staff : next.channel.staff = b.live.channel.staff)
    (published : next.accepted.map (·.job) = b.jobs ++ more) (hands : next.hands = b.live.hands)
    (holds : newer.capacity = ring.capacity) (keeps : newer.Keeps ((b.jobs ++ more).drop later))
    (before : later ≤ (b.jobs ++ more).length)
    (idle : places = [] → later = (b.jobs ++ more).length) (same : places = [] ∨ later = offset) :
    Tuned capacity later newer places (b.follow next) := by
  have jobs : (b.follow next).jobs = b.jobs ++ more := published
  have heard := heard_follow hands
  have joined := joined_follow staff
  constructor
  case supply => exact supply
  case holds => exact holds.trans tuned.holds
  case keeps => exact jobs ▸ keeps
  case before => exact jobs ▸ before
  case idle => exact jobs ▸ idle
  case staff => exact staff.trans tuned.staff
  case joined => exact joined ▸ tuned.joined
  case hands => exact heard ▸ hands.trans tuned.hands
  case known => exact heard ▸ tuned.known
  case ordered => exact heard ▸ tuned.ordered
  case seen =>
    rw [heard, jobs, List.length_append]
    exact fun h member => Nat.le_add_right_of_le (tuned.seen h member)
  case subscribed =>
    rw [joined, jobs, heardBy_follow hands]
    intro s member
    obtain ⟨place, here, subscribed⟩ := tuned.subscribed s member
    refine ⟨place, here, ?_⟩
    -- What is published while nobody is there moves the offset, but then nobody has a place.
    rcases same with nobody | rfl
    · rw [nobody] at here
      cases here
    · exact subscribed.append more

/-- Somebody comes, and his place is after all that was published. -/
theorem Tuned.join (tuned : Tuned capacity offset ring places b) {id : Nat}
    (new : id ∉ b.live.channel.ids)
    (supply : next.channel.supply = .bus ring (places ++ [(id, ring.published)]))
    (staff : next.channel.staff = b.live.channel.staff ++ [(id, false)])
    (accepted : next.accepted = b.live.accepted) (hands : next.hands = b.live.hands) :
    Tuned capacity offset ring (places ++ [(id, ring.published)]) (b.follow next) := by
  have jobs := jobs_follow accepted
  have heard := heard_follow hands
  have joined : (b.follow next).joined = b.joined ++ [(id, b.jobs.length)] := by
    rw [joined_follow_concat new staff, accepted, Broadcast.jobs, List.length_map]
  have published : ring.published = b.jobs.length - offset := by
    rw [tuned.keeps.published, List.length_drop]
  constructor
  case supply => exact supply
  case holds => exact tuned.holds
  case keeps => exact jobs ▸ tuned.keeps
  case before => exact jobs ▸ tuned.before
  case idle => exact fun nobody => absurd nobody (by simp)
  case staff =>
    refine staff.trans ?_
    rw [tuned.staff, List.map_append]
    rfl
  case joined =>
    rw [joined, List.map_append, List.map_append, tuned.joined]
    rfl
  case hands => exact heard ▸ hands.trans tuned.hands
  case known =>
    rw [heard, List.map_append]
    exact fun h member => List.mem_append_left _ (tuned.known h member)
  case ordered => exact heard ▸ tuned.ordered
  case seen => exact heard ▸ jobs ▸ tuned.seen
  case subscribed =>
    rw [joined, jobs, heardBy_follow hands]
    rw [tuned.ids] at new
    intro s member
    rw [List.lookup_append]
    rcases List.mem_append.mp member with old | comes
    · obtain ⟨place, here, subscribed⟩ := tuned.subscribed s old
      exact ⟨place, by rw [here, Option.some_or], subscribed⟩
    · obtain rfl := List.mem_singleton.mp comes
      -- Nobody had this number before, so that nothing was heard under it.
      have nothing : b.heardBy id = [] := by
        refine List.filter_eq_nil_iff.mpr fun h member same => new ?_
        exact beq_iff_eq.mp same ▸ tuned.known h member
      have noPlace : places.lookup id = none := by
        refine List.lookup_eq_none_iff.mpr fun p member => bne_iff_ne.mpr fun same => new ?_
        exact List.mem_map.mpr ⟨p, member, same.symm⟩
      refine ⟨ring.published, by rw [noPlace]; simp, ?_⟩
      rw [nothing, published]
      exact subscribed_new tuned.before

/-- Somebody listens. -/
theorem Tuned.hear (tuned : Tuned capacity offset ring places b) {id place : Nat} {job : Job}
    (there : (id, false) ∈ b.live.channel.staff)
    (reads : ring.read? ((places.lookup id).getD 0) = some (job, place))
    (supply : next.channel.supply =
      .bus ring (places.map fun p => if p.1 = id then (id, place) else p))
    (staff : next.channel.staff = b.live.channel.staff)
    (accepted : next.accepted = b.live.accepted)
    (hands : next.hands = b.live.hands ++ [(id, job)]) :
    Tuned capacity offset ring (places.map fun p => if p.1 = id then (id, place) else p)
      (b.follow next) := by
  have jobs := jobs_follow accepted
  have heard : (b.follow next).heard = b.heard ++ [⟨id, job, b.jobs.length⟩] := by
    rw [heard_follow_concat hands, accepted, Broadcast.jobs, List.length_map]
  have joined := joined_follow staff
  have readers : (places.map fun p => if p.1 = id then (id, place) else p).map (·.1) =
      places.map (·.1) := by
    rw [List.map_map]
    refine List.map_congr_left fun p _ => ?_
    by_cases here : p.1 = id <;> simp [here]
  constructor
  case supply => exact supply
  case holds => exact tuned.holds
  case keeps => exact jobs ▸ tuned.keeps
  case before => exact jobs ▸ tuned.before
  case idle => exact fun nobody => jobs ▸ tuned.idle (List.map_eq_nil_iff.mp nobody)
  case staff =>
    have same := congrArg (List.map fun id : Nat => (id, false)) readers.symm
    rw [List.map_map, List.map_map (l := places.map _)] at same
    exact staff.trans (tuned.staff.trans same)
  case joined => rw [joined, readers, tuned.joined]
  case hands =>
    rw [heard, List.map_append, ← tuned.hands]
    exact hands
  case known =>
    rw [heard, readers]
    intro h member
    rcases List.mem_append.mp member with old | new
    · exact tuned.known h old
    · rw [List.mem_singleton.mp new, ← tuned.ids, Channel.ids_eq_staff]
      exact List.mem_map_of_mem there
  case ordered =>
    rw [heard, List.map_append]
    refine List.pairwise_append.mpr ⟨tuned.ordered, List.pairwise_singleton _ _, ?_⟩
    intro seen earlier last isLast
    obtain ⟨h, member, rfl⟩ := List.mem_map.mp earlier
    rw [List.mem_singleton.mp isLast]
    exact tuned.seen h member
  case seen =>
    rw [heard, jobs]
    intro h member
    rcases List.mem_append.mp member with old | new
    · exact tuned.seen h old
    · exact Nat.le_of_eq (congrArg Hearing.seen (List.mem_singleton.mp new))
  case subscribed =>
    rw [joined, jobs]
    intro s member
    obtain ⟨old, here, subscribed⟩ := tuned.subscribed s member
    rw [lookup_moved, here, heardBy, heard, List.filter_append]
    by_cases same : s.1 = id
    · -- His next place in the ring is the one that the law of `Ring.places` says.
      rw [same] at here
      rw [here, tuned.read?] at reads
      obtain ⟨read, found, rest⟩ := Option.map_eq_some_iff.mp reads
      cases rest
      refine ⟨_, by rw [same, Option.map_some, if_pos rfl], ?_⟩
      simpa [same, heardBy] using subscribed.hear id found
    · refine ⟨old, by rw [Option.map_some, if_neg same], ?_⟩
      have others : [Hearing.mk id job b.jobs.length].filter (·.worker == s.1) = [] := by
        simpa using Ne.symm same
      rw [others, List.append_nil]
      exact subscribed

theorem Tuned.step (tuned : Tuned capacity offset ring places b) (staffed : b.live.Staffed)
    (step : LiveChannel.Step b.live next) (unstopped : next.calls = []) :
    ∃ later newer readers, Tuned capacity later newer readers (b.follow next) := by
  cases step.busStep tuned.supply tuned.stay unstopped with
  | quiet supply staff accepted hands =>
    have published := (jobs_follow accepted).trans (List.append_nil b.jobs).symm
    refine ⟨_, _, _, tuned.publish _ [] supply staff published hands rfl ?_ ?_ ?_ (.inr rfl)⟩
    · exact (List.append_nil _).symm ▸ tuned.keeps
    · exact (List.append_nil _).symm ▸ tuned.before
    · exact (List.append_nil _).symm ▸ tuned.idle
  | unheard p nobody supply staff accepted hands =>
    have published : next.accepted.map (·.job) = b.jobs ++ [p.job] := by
      rw [accepted, List.map_append]
      rfl
    have empty : places = [] := by
      rw [tuned.staff] at nobody
      exact List.map_eq_nil_iff.mp nobody
    refine ⟨_, _, _, tuned.publish (b.jobs ++ [p.job]).length [p.job] supply staff published
      hands rfl ?_ (Nat.le_refl _) (fun _ => rfl) (.inl empty)⟩
    have keeps := tuned.keeps
    rw [tuned.idle empty, List.drop_length] at keeps
    rwa [List.drop_length]
  | publishes p somebody supply staff accepted hands =>
    have published : next.accepted.map (·.job) = b.jobs ++ [p.job] := by
      rw [accepted, List.map_append]
      rfl
    have before := tuned.before
    refine ⟨_, _, _, tuned.publish _ [p.job] supply staff published hands rfl ?_ ?_ ?_
      (.inr rfl)⟩
    · rw [List.drop_append_of_le_length before]
      exact tuned.keeps.publish p.job
    · rw [List.length_append]
      exact Nat.le_add_right_of_le before
    · intro empty
      rw [tuned.staff, empty] at somebody
      exact absurd rfl somebody
  | joins supply staff accepted hands =>
    have new : b.live.channel.hired ∉ b.live.channel.ids := fun there =>
      Nat.lt_irrefl _ (staffed.hired _ (.inl there))
    exact ⟨_, _, _, tuned.join new supply staff accepted hands⟩
  | hears id there job place reads supply staff accepted hands =>
    exact ⟨_, _, _, tuned.hear there reads supply staff accepted hands⟩

end Steps

theorem tuned_of_run {capacity : Nat} (run : Run (opening capacity) b)
    (unstopped : b.live.calls = []) :
    ∃ offset ring places, Tuned capacity offset ring places b := by
  have opened : (opening capacity : Broadcast τ).live.Staffed := LiveChannel.opening_staffed rfl rfl
  induction run with
  | refl => exact ⟨_, _, _, opening_tuned capacity⟩
  | tail before last ih =>
    cases last with
    | follow step =>
      obtain ⟨_, _, _, tuned⟩ := ih (step.calls_eq_nil unstopped)
      exact tuned.step (opened.run (Run.live before)) step unstopped

/-- Each subscriber is handed jobs that were published after he came, in their order and each at
most once, and misses one only if the ring did not keep it any more when he got there. -/
theorem heard_of_run {capacity : Nat} (run : Run (opening capacity) b)
    (unstopped : b.live.calls = []) :
    b.live.handed.map (fun h => (h.worker, h.task.job)) =
      b.heard.map (fun h => (h.worker, h.job)) ∧
    (∀ h ∈ b.heard, ∃ start, (h.worker, start) ∈ b.joined) ∧
    (b.joined.map (·.1)).Nodup ∧
    ∀ id start, (id, start) ∈ b.joined → ∃ places,
      places = Ring.places (room capacity) start ((b.heardBy id).map (·.seen)) ∧
      start ≤ b.jobs.length ∧
      places.map (b.jobs[·]?) = (b.heardBy id).map (some ·.job) ∧
      places.Pairwise (· < ·) ∧ (∀ p ∈ places, start ≤ p) ∧
      ((b.heardBy id).map (·.job)).Sublist (b.jobs.drop start) ∧
      (∀ r ∈ places.zip (b.heardBy id), r.1 < r.2.seen ∧ r.2.seen ≤ b.jobs.length) ∧
      (∀ q, start ≤ q → q ∉ places → ∀ r ∈ places.zip (b.heardBy id), q < r.1 →
        q + room capacity < r.2.seen) ∧
      ∃ w ∈ b.live.channel.workers, w.id = id ∧ ∀ order now,
        (b.live.channel.fetchAfter order now w).1 =
          (b.jobs[max (Ring.placeAfter (room capacity) start ((b.heardBy id).map (·.seen)))
            (b.jobs.length - room capacity)]?).elim .waits fun job => .task ⟨job, none⟩ := by
  have opened : (opening capacity : Broadcast τ).live.Staffed := LiveChannel.opening_staffed rfl rfl
  have staffed := opened.run run.live
  obtain ⟨offset, ring, readers, tuned⟩ := tuned_of_run run unstopped
  refine ⟨tuned.hands, fun h member => tuned.exists_start (tuned.known h member), ?_, ?_⟩
  · rw [tuned.joined, ← tuned.ids]
    exact staffed.ids
  intro id start member
  obtain ⟨place, here, subscribed⟩ := tuned.subscribed (id, start) member
  have upwards := Ring.pairwise_places (room capacity) start ((b.heardBy id).map (·.seen))
  have after : ∀ p ∈ Ring.places (room capacity) start ((b.heardBy id).map (·.seen)), start ≤ p :=
    fun p => Ring.le_of_mem_places
  have ordered : ((b.heardBy id).map (·.seen)).Pairwise (· ≤ ·) :=
    tuned.ordered.sublist (List.filter_sublist.map _)
  refine ⟨_, rfl, subscribed.came.2, subscribed.reads, upwards, after, ?_, ?_, ?_, ?_⟩
  · refine Ring.sublist_of_places upwards after ?_
    rw [subscribed.reads, List.map_map]
    rfl
  · intro r among
    exact ⟨subscribed.ahead r among,
      tuned.seen r.2 (List.mem_filter.mp (List.of_mem_zip among).2).1⟩
  · intro q later missed r among
    refine Ring.missed_place ordered later missed (r.1, r.2.seen) ?_
    rw [List.zip_map_right]
    exact List.mem_map.mpr ⟨r, among, rfl⟩
  · have there : id ∈ b.live.channel.ids := by
      rw [tuned.ids, ← tuned.joined]
      exact List.mem_map_of_mem member
    obtain ⟨w, works, rfl⟩ := List.mem_map.mp there
    refine ⟨w, works, rfl, fun order now => ?_⟩
    rw [Channel.fetchAfter_bus_fst tuned.supply (tuned.stay w works), here, Option.getD_some,
      tuned.read?, subscribed.here, Option.elim_map]
    rfl

/-! ## A slow subscriber and a fast one -/

/-- Somebody is let in with a job and hands it over at once. -/
def publish (ticket : Nat) (job : Job) (b : Broadcast τ) : Broadcast τ :=
  let admitted := { b.live with publishing := b.live.publishing ++ [⟨ticket, job⟩] }
  (b.follow admitted).follow (admitted.handOver ⟨ticket, job⟩)

private theorem Run.publish (run : Run b after) (admitted : after.live.channel.admits = true)
    (ticket : Nat) (job : Job) : Run b (after.publish ticket job) :=
  (run.tail (.follow (.approach ticket job admitted))).tail
    (.follow (.handOver (List.mem_append_right _ (.head _))))

/-- Somebody is let in to consume and starts a worker at once. -/
def subscribe (crew : Nat) (b : Broadcast τ) : Broadcast τ :=
  let enlisted := (b.live.consume crew).enlist crew
  ((b.follow (b.live.consume crew)).follow enlisted).follow
    (enlisted.register b.live.channel.hired)

private theorem Run.subscribe (run : Run b after) (admitted : after.live.channel.closed = false)
    (crew : Nat) (comes : crew ∈ (after.live.consume crew).recruits) :
    Run b (after.subscribe crew) :=
  ((run.tail (.follow (.consume crew admitted))).tail (.follow (.enlist comes))).tail
    (.follow (.register (List.mem_append_right _ (.head _))))

/-- A subscriber who is free listens. -/
theorem Run.listen (run : Run b after) (w : Worker τ) {ring : Ring} {places : List (Nat × Nat)}
    {task : Task} (works : w ∈ after.live.channel.workers)
    (free : w.occupation.isFreeAt after.live.now = true)
    (is : after.live.channel.supply = .bus ring places)
    (found : (after.live.channel.fetchAfter [] after.live.now w).1 = .task task) (stage : τ) :
    Run b (after.follow (after.live.takeUp
      (after.live.channel.fetchAfter [] after.live.now w).2 w.id task none stage)) := by
  refine run.tail (.follow (.begin works free ?_ ?_ found none stage))
  · rw [Channel.queue, is]
    exact .refl _
  · intro queue isToo
    rw [is] at isToo
    cases isToo

/-- He ends what he has in hand. -/
theorem Run.finish (run : Run b after) (w : Worker τ) {task : Task}
    (works : w ∈ after.live.channel.workers) (busy : w.occupation.task? = some task)
    (result : Except Fault Unit) : Run b (after.follow (after.live.finish w.id task result)) :=
  run.tail (.follow (.finish works busy result))

theorem room_one : room 1 = 1 := by decide +kernel

def narrow : Broadcast Unit :=
  ⟨.opening (.idle (.bus ⟨1, 0, []⟩ []) 1 Channel.usualGrace), [], []⟩

theorem run_narrow : Run (opening 1) narrow := by
  have one : (max 1 1).nextPowerOfTwo = 1 := room_one
  rw [opening, Channel.bus, Ring.empty, one]
  exact .refl

/-- The fast one has heard three jobs, the first of which failed, and the slow one two. Another job
was published before they came. -/
theorem exists_laggard : ∃ b : Broadcast Unit, Run (opening 1) b ∧ b.live.calls = [] ∧
    b.jobs = [⟨1⟩, ⟨2⟩, ⟨3⟩, ⟨4⟩] ∧ b.joined = [(0, 1), (1, 1)] ∧
    b.heard = [⟨0, ⟨2⟩, 2⟩, ⟨1, ⟨2⟩, 2⟩, ⟨0, ⟨3⟩, 3⟩, ⟨0, ⟨4⟩, 4⟩, ⟨1, ⟨4⟩, 4⟩] ∧
    b.live.handed.head? = some ⟨0, ⟨⟨2⟩, none⟩, some (0, .error .payload)⟩ := by
  have came :=
    Run.subscribe (Run.subscribe (Run.publish run_narrow rfl 1 ⟨1⟩) rfl 0 (.head _)) rfl 1
    (.head _)
  have both := Run.listen (Run.listen (Run.publish came rfl 2 ⟨2⟩)
    ⟨0, 0, .asking, false⟩ (.head _) rfl rfl rfl ())
    ⟨1, 1, .asking, false⟩ (.tail _ (.head _)) rfl rfl rfl ()
  have failed := Run.finish both ⟨0, 0, .busy ⟨⟨2⟩, none⟩ none (), false⟩ (.head _) rfl
    (.error .payload)
  have second := Run.listen (Run.publish failed rfl 3 ⟨3⟩)
    ⟨0, 0, .asking, false⟩ (.head _) rfl rfl rfl ()
  have done := Run.finish second ⟨0, 0, .busy ⟨⟨3⟩, none⟩ none (), false⟩ (.head _) rfl (.ok ())
  have third := Run.listen (Run.publish done rfl 4 ⟨4⟩)
    ⟨0, 0, .asking, false⟩ (.head _) rfl rfl rfl ()
  have late := Run.finish third ⟨1, 1, .busy ⟨⟨2⟩, none⟩ none (), false⟩ (.tail _ (.head _)) rfl
    (.ok ())
  have run := Run.listen late ⟨1, 1, .asking, false⟩ (.tail _ (.head _)) rfl rfl rfl ()
  exact ⟨_, run, rfl, rfl, rfl, rfl, rfl⟩

/-- Of two subscribers one is slow with his first job, and misses the second one. The other one
hears all, though his first job fails. Nobody hears what was published before. -/
theorem laggard_misses_one : ∃ b : Broadcast Unit, Run (opening 1) b ∧ b.live.calls = [] ∧
    b.jobs = [⟨1⟩, ⟨2⟩, ⟨3⟩, ⟨4⟩] ∧ b.joined = [(0, 1), (1, 1)] ∧
    b.live.handed.head? = some ⟨0, ⟨⟨2⟩, none⟩, some (0, .error .payload)⟩ ∧
    (b.heardBy 0).map (·.job) = [⟨2⟩, ⟨3⟩, ⟨4⟩] ∧ (b.heardBy 1).map (·.job) = [⟨2⟩, ⟨4⟩] ∧
    ((b.heardBy 1).map (·.job)).Sublist (b.jobs.drop 1) ∧
    Ring.places (room 1) 1 ((b.heardBy 1).map (·.seen)) = [1, 3] ∧
    ∀ r ∈ [1, 3].zip (b.heardBy 1), 2 < r.1 → 2 + room 1 < r.2.seen := by
  obtain ⟨b, run, unstopped, jobs, joined, heard, failed⟩ := exists_laggard
  obtain ⟨_, _, _, hears⟩ := heard_of_run run unstopped
  have came : (1, 1) ∈ b.joined := by
    rw [joined]
    exact .tail _ (.head _)
  obtain ⟨places, is, _, _, _, _, subsequence, _, misses, _⟩ := hears 1 1 came
  have two : places = [1, 3] := by
    rw [is, room_one, heardBy, heard]
    rfl
  subst two
  refine ⟨b, run, unstopped, jobs, joined, failed, ?_, ?_, subsequence, is.symm,
    misses 2 (by decide) (by decide)⟩
  · rw [heardBy, heard]
    rfl
  · rw [heardBy, heard]
    rfl

end Broadcast

end FeedIngest.Delivery
