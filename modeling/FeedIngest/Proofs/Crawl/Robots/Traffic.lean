import Mathlib.Data.List.Nodup
import Mathlib.Logic.Relation
import FeedIngest.Crawl.Robots.Desk
import FeedIngest.Proofs.Crawl.Robots.Cache

/-!
# One fetch of an origin at a time

The robots desk with a record of each fetch and of all who ask. Callers ask and leave, fetches end
and time passes in any order. Every decision that a caller gets is traced to the fetch it is from,
and the moment at which that ended tells how far the decision may be trusted.
-/

set_option autoImplicit false

namespace FeedIngest.Crawl

open Time (Span)

/-- A fetch of the rules of an origin: what it brings, and when it was over. -/
structure FetchRecord where
  number : Nat
  origin : String
  begun : Nat
  answer : Except Fault RobotsRules
  ended : Option Nat

namespace FetchRecord

/-- What the cache has of an origin whose last record this is. -/
def slot (g : FetchRecord) : RobotsSlot :=
  match g.ended with
  | none => .fetching
  | some moment => .ready (RobotsCache.decide moment g.origin g.answer)

def isUnderWay (g : FetchRecord) : Bool := g.ended.isNone

def conclude (now : Nat) (origin : String) (g : FetchRecord) : FetchRecord :=
  if g.isUnderWay && g.origin == origin then { g with ended := some now } else g

end FetchRecord

/-- Somebody asks, and the number of the record his decision is from or will be from. -/
structure Visit where
  caller : RobotsCaller
  asked : Nat
  record : Option Nat

structure Reply where
  visit : Visit
  decision : RobotsDecision

/-- The desk at a moment, with all records so far, the newest first, those who wait, and all
replies. -/
structure RobotsTraffic (σ : Type) where
  desk : RobotsDesk σ
  now : Nat
  records : List FetchRecord
  waiting : List Visit
  replies : List Reply

namespace RobotsTraffic

variable {σ : Type}

def opening (ttl : Span) (source : σ) (now : Nat) : RobotsTraffic σ :=
  ⟨.start ttl source, now, [], [], []⟩

def record? (t : RobotsTraffic σ) (origin : String) : Option FetchRecord :=
  t.records.find? (·.origin == origin)

def visit (t : RobotsTraffic σ) (caller : RobotsCaller) : Visit :=
  ⟨caller, t.now, (t.record? caller.origin).map (·.number)⟩

def newRecord (t : RobotsTraffic σ) (origin : String) (answer : Except Fault RobotsRules) :
    FetchRecord :=
  ⟨t.records.length, origin, t.now, answer, none⟩

def beginRecord (t : RobotsTraffic σ) (origin : String) (answer : Except Fault RobotsRules) :
    RobotsTraffic σ :=
  { t with records := t.newRecord origin answer :: t.records }

def look (fetch : RobotsSource σ) (caller : RobotsCaller) (t : RobotsTraffic σ) : RobotsTraffic σ :=
  let desk := t.desk.look fetch t.now caller
  match (t.desk.cache.lookup t.now caller.origin).1 with
  | .fresh decision => { t with desk, replies := t.replies ++ [⟨t.visit caller, decision⟩] }
  | .joins => { t with desk, waiting := t.waiting ++ [t.visit caller] }
  | .begins =>
    let t := t.beginRecord caller.origin (fetch caller.origin t.desk.source).1.2
    { t with desk, waiting := t.waiting ++ [t.visit caller] }

def finish (fetch : RobotsFetch) (t : RobotsTraffic σ) : RobotsTraffic σ :=
  { t with
    desk := t.desk.finish t.now fetch
    records := t.records.map (FetchRecord.conclude t.now fetch.origin)
    waiting := t.waiting.filter (·.caller.origin != fetch.origin)
    replies := t.replies ++ (t.waiting.filter (·.caller.origin == fetch.origin)).map
      fun visit => ⟨visit, RobotsCache.decide t.now fetch.origin fetch.answer⟩ }

def leave (caller : Nat) (t : RobotsTraffic σ) : RobotsTraffic σ :=
  { t with desk := t.desk.leave caller, waiting := t.waiting.filter (·.caller.id != caller) }

inductive Step : RobotsTraffic σ → RobotsTraffic σ → Prop where
  | look {t : RobotsTraffic σ} (fetch : RobotsSource σ) (caller : RobotsCaller) :
    Step t (t.look fetch caller)
  | finish {t : RobotsTraffic σ} {fetch : RobotsFetch} (underWay : fetch ∈ t.desk.fetches) :
    Step t (t.finish fetch)
  | leave {t : RobotsTraffic σ} (caller : Nat) : Step t (t.leave caller)
  | pass {t : RobotsTraffic σ} (span : Nat) : Step t { t with now := t.now + span }
  /-- The answers on the desk are taken away. -/
  | clear {t : RobotsTraffic σ} : Step t { t with desk := { t.desk with answered := [] } }
  /-- The world changes that rules are fetched from. -/
  | stir {t : RobotsTraffic σ} (source : σ) : Step t { t with desk := { t.desk with source } }

def Run : RobotsTraffic σ → RobotsTraffic σ → Prop := Relation.ReflTransGen Step

end RobotsTraffic

/-! ## Replies -/

/-- The decision of a reply is that of a record that had ended by the time of the reply, at or
after the moment of the question or so shortly before it that it was still trusted. -/
def Reply.Backed (ttl : Span) (records : List FetchRecord) (r : Reply) : Prop :=
  ∃ g ∈ records, ∃ moment, g.ended = some moment ∧
    r.visit.record = some g.number ∧ g.origin = r.visit.caller.origin ∧
    r.decision = RobotsCache.decide moment g.origin g.answer ∧
    (r.visit.asked ≤ moment ∨ ttl.outlasts (r.visit.asked - moment) = true)

def Visit.Expects (records : List FetchRecord) (v : Visit) : Prop :=
  ∃ g ∈ records, g.ended = none ∧ v.record = some g.number ∧ g.origin = v.caller.origin

/-- A record had ended before another one for its origin began, and was no longer trusted then. -/
def FetchRecord.ExpiredBy (ttl : Span) (moment : Nat) (g : FetchRecord) : Prop :=
  ∃ ended, g.ended = some ended ∧ ended ≤ moment ∧ ttl.outlasts (moment - ended) = false

private theorem FetchRecord.ExpiredBy.mono {ttl : Span} {moment later : Nat} {g : FetchRecord}
    (expired : g.ExpiredBy ttl moment) (le : moment ≤ later) : g.ExpiredBy ttl later := by
  obtain ⟨ended, is, before, untrusted⟩ := expired
  exact ⟨ended, is, Nat.le_trans before le, outlasts_of_le (Nat.sub_le_sub_right le _) untrusted⟩

theorem Reply.Backed.mono {ttl : Span} {records more : List FetchRecord} {r : Reply}
    (backed : r.Backed ttl records) (kept : ∀ g ∈ records, g.ended.isSome → g ∈ more) :
    r.Backed ttl more := by
  obtain ⟨g, member, moment, ended, rest⟩ := backed
  exact ⟨g, kept g member (by rw [ended]; rfl), moment, ended, rest⟩

namespace FetchRecord

variable {g : FetchRecord} {now : Nat} {origin : String}

@[simp] theorem conclude_origin (now : Nat) (origin : String) (g : FetchRecord) :
    (g.conclude now origin).origin = g.origin := by
  unfold conclude
  split <;> rfl

@[simp] theorem conclude_number (now : Nat) (origin : String) (g : FetchRecord) :
    (g.conclude now origin).number = g.number := by
  unfold conclude
  split <;> rfl

@[simp] theorem conclude_begun (now : Nat) (origin : String) (g : FetchRecord) :
    (g.conclude now origin).begun = g.begun := by
  unfold conclude
  split <;> rfl

@[simp] theorem conclude_answer (now : Nat) (origin : String) (g : FetchRecord) :
    (g.conclude now origin).answer = g.answer := by
  unfold conclude
  split <;> rfl

theorem conclude_of_ended (ended : g.ended.isSome) : g.conclude now origin = g := by
  unfold conclude isUnderWay
  cases here : g.ended with
  | none => simp [here] at ended
  | some moment => simp

theorem conclude_of_ne (elsewhere : g.origin ≠ origin) : g.conclude now origin = g := by
  unfold conclude
  simp [elsewhere]

theorem conclude_here (unended : g.ended = none) (here : g.origin = origin) :
    (g.conclude now origin).ended = some now := by
  unfold conclude isUnderWay
  simp [unended, here]

/-- When the fetch of an origin has ended, only those of other origins are under way. -/
theorem filter_isUnderWay_conclude (now : Nat) (origin : String) (records : List FetchRecord) :
    (records.map (conclude now origin)).filter isUnderWay =
      (records.filter isUnderWay).filter (·.origin != origin) := by
  induction records with
  | nil => rfl
  | cons g records ih =>
    by_cases here : g.origin = origin
    · cases ended : g.ended with
      | none =>
        have ends : (g.conclude now origin).isUnderWay = false := by
          unfold isUnderWay
          rw [conclude_here ended here]
          rfl
        have unended : g.isUnderWay = true := by simp [isUnderWay, ended]
        simpa [ends, unended, here] using ih
      | some moment =>
        have still : g.conclude now origin = g := conclude_of_ended (by simp [ended])
        have done : g.isUnderWay = false := by simp [isUnderWay, ended]
        simpa [still, done] using ih
    · rw [List.map_cons, conclude_of_ne here]
      by_cases unended : g.isUnderWay = true
      · simp [unended, here, ih]
      · simp [unended, ih]

end FetchRecord

namespace RobotsTraffic

variable {σ : Type} {ttl : Span} {t next : RobotsTraffic σ} {g : FetchRecord} {origin : String}

/-- What holds in every run: the desk is what the records say, records for one origin follow each
other, and everybody who waits or has a reply has a record. -/
structure Sound (ttl : Span) (t : RobotsTraffic σ) : Prop where
  trusts : t.desk.cache.ttl = ttl
  slots : ∀ origin, t.desk.cache.slot? origin = (t.record? origin).map FetchRecord.slot
  fetches : t.desk.fetches.map (fun f => (f.origin, f.answer)) =
    ((t.records.filter FetchRecord.isUnderWay).map fun g => (g.origin, g.answer)).reverse
  spaced : t.records.Pairwise fun later earlier =>
    later.origin = earlier.origin → earlier.ExpiredBy ttl later.begun
  past : ∀ g ∈ t.records, g.begun ≤ t.now ∧
    ∀ moment, g.ended = some moment → g.begun ≤ moment ∧ moment ≤ t.now
  numbers : t.records.map (·.number) = (List.range t.records.length).reverse
  callers : t.desk.waiting = t.waiting.map (·.caller)
  waits : ∀ v ∈ t.waiting, v.asked ≤ t.now ∧ v.Expects t.records
  told : t.desk.answered <:+ t.replies.map fun r => (r.visit.caller.id, r.decision)
  backed : ∀ r ∈ t.replies, r.Backed ttl t.records

theorem opening_sound (ttl : Span) (source : σ) (now : Nat) :
    (opening ttl source now).Sound ttl where
  trusts := rfl
  slots _ := rfl
  fetches := rfl
  spaced := .nil
  past _ member := nomatch member
  numbers := rfl
  callers := rfl
  waits _ member := nomatch member
  told := List.suffix_refl _
  backed _ member := nomatch member

section Records

theorem record?_mem (found : t.record? origin = some g) : g ∈ t.records :=
  List.mem_of_find?_eq_some found

theorem record?_origin (found : t.record? origin = some g) : g.origin = origin := by
  simpa using List.find?_some found

/-- A record is the last one for its origin, or it was trusted no more when that one began. -/
theorem Sound.last_or_expired (sound : t.Sound ttl) (member : g ∈ t.records) :
    ∃ last, t.record? g.origin = some last ∧ (g = last ∨ g.ExpiredBy ttl last.begun) := by
  obtain ⟨last, found⟩ : ∃ last, t.record? g.origin = some last :=
    Option.isSome_iff_exists.mp (List.find?_isSome.mpr ⟨g, member, beq_self_eq_true _⟩)
  refine ⟨last, found, ?_⟩
  have sameOrigin := record?_origin found
  obtain ⟨_, newer, older, parts, elsewhere⟩ := List.find?_eq_some_iff_append.mp found
  rw [parts] at member
  rcases List.mem_append.mp member with before | rest
  · exact absurd (elsewhere g before) (by simp)
  · rcases List.mem_cons.mp rest with here | after
    · exact .inl here
    · have spaced := sound.spaced
      rw [parts] at spaced
      have following := (List.pairwise_append.mp spaced).2.1
      exact .inr (List.rel_of_pairwise_cons following after sameOrigin)

/-- A record that has not ended is the last one for its origin. -/
theorem Sound.record?_of_unended (sound : t.Sound ttl) (member : g ∈ t.records)
    (unended : g.ended = none) : t.record? g.origin = some g := by
  obtain ⟨last, found, rfl | ⟨moment, ended, _⟩⟩ := sound.last_or_expired member
  · exact found
  · rw [unended] at ended
    cases ended

/-- No two records that have not ended are for one origin. -/
theorem Sound.unended_nodup (sound : t.Sound ttl) :
    ((t.records.filter FetchRecord.isUnderWay).map (·.origin)).Nodup := by
  refine List.pairwise_map.mpr ((sound.spaced.filter _).imp_of_mem ?_)
  intro later earlier _ unended spaced same
  obtain ⟨moment, ended, _⟩ := spaced same
  have unended := (List.mem_filter.mp unended).2
  simp [FetchRecord.isUnderWay, ended] at unended

private theorem Sound.fetches_origins (sound : t.Sound ttl) :
    t.desk.fetches.map (·.origin) =
      ((t.records.filter FetchRecord.isUnderWay).map (·.origin)).reverse := by
  have origins := congrArg (List.map Prod.fst) sound.fetches
  simpa [List.map_map, Function.comp_def, ← List.map_reverse] using origins

theorem Sound.fetches_nodup (sound : t.Sound ttl) : (t.desk.fetches.map (·.origin)).Nodup := by
  rw [sound.fetches_origins, List.nodup_reverse]
  exact sound.unended_nodup

/-- A fetch of the desk has the last record for its origin, which has not ended. -/
theorem Sound.record_of_fetch (sound : t.Sound ttl) {fetch : RobotsFetch}
    (underWay : fetch ∈ t.desk.fetches) :
    ∃ g, t.record? fetch.origin = some g ∧ g.ended = none ∧ g.answer = fetch.answer := by
  have known := List.mem_map_of_mem (f := fun f : RobotsFetch => (f.origin, f.answer)) underWay
  rw [sound.fetches, List.mem_reverse, List.mem_map] at known
  obtain ⟨g, member, same⟩ := known
  obtain ⟨member, unended⟩ := List.mem_filter.mp member
  obtain ⟨sameOrigin, sameAnswer⟩ := Prod.mk.inj same
  have unended : g.ended = none := by simpa [FetchRecord.isUnderWay] using unended
  exact ⟨g, sameOrigin ▸ sound.record?_of_unended member unended, unended, sameAnswer⟩

/-- Records are told apart by their numbers. -/
theorem Sound.number_inj (sound : t.Sound ttl) {other : FetchRecord} (member : g ∈ t.records)
    (memberToo : other ∈ t.records) (same : g.number = other.number) : g = other := by
  have nodup : (t.records.map (·.number)).Nodup := by
    rw [sound.numbers, List.nodup_reverse]
    exact List.nodup_range
  exact List.inj_on_of_nodup_map nodup member memberToo same

end Records

section Steps

variable {caller : RobotsCaller} {fetch : RobotsSource σ} {record : RobotsFetch}

/-- Where another record may begin, all earlier ones are trusted no more. -/
theorem Sound.expired (sound : t.Sound ttl) (unknown : t.desk.cache.Unknown t.now origin)
    (member : g ∈ t.records) (here : g.origin = origin) : g.ExpiredBy ttl t.now := by
  subst here
  obtain ⟨last, found, isLast⟩ := sound.last_or_expired member
  have slot := sound.slots g.origin
  rw [found, Option.map_some] at slot
  rcases unknown with absent | ⟨d, ready, expired⟩
  · rw [slot] at absent
    cases absent
  · rw [slot] at ready
    unfold FetchRecord.slot at ready
    split at ready
    · cases ready
    · next moment ended =>
      cases ready
      obtain ⟨begun, past⟩ := (sound.past last (record?_mem found)).2 moment ended
      rcases isLast with rfl | earlier
      · exact ⟨moment, ended, past, sound.trusts ▸ expired⟩
      · exact earlier.mono (Nat.le_trans begun past)

private theorem record?_beginRecord (t : RobotsTraffic σ) (origin : String)
    (answer : Except Fault RobotsRules) (other : String) :
    (t.beginRecord origin answer).record? other =
      if other = origin then some (t.newRecord origin answer) else t.record? other := by
  unfold record? RobotsTraffic.beginRecord
  rw [List.find?_cons]
  by_cases here : other = origin
  · simp [newRecord, here]
  · have elsewhere : ((t.newRecord origin answer).origin == other) = false :=
      beq_false_of_ne (Ne.symm here)
    simp [elsewhere, here]

private theorem record?_conclude (t : RobotsTraffic σ) (origin other : String) :
    (t.records.map (FetchRecord.conclude t.now origin)).find? (·.origin == other) =
      (t.record? other).map (FetchRecord.conclude t.now origin) := by
  have same : (fun g : FetchRecord => g.origin == other) ∘ FetchRecord.conclude t.now origin =
      fun g => g.origin == other := by
    funext g
    exact congrArg (· == other) (FetchRecord.conclude_origin t.now origin g)
  rw [List.find?_map, same, record?]

/-- A decision that is still trusted is told. -/
theorem Sound.look_fresh (sound : t.Sound ttl) {d : RobotsDecision}
    (ready : t.desk.cache.slot? caller.origin = some (.ready d))
    (trusted : t.desk.cache.ttl.outlasts (d.age t.now) = true) :
    Sound ttl { t with
      desk := { t.desk with answered := t.desk.answered ++ [(caller.id, d)] }
      replies := t.replies ++ [⟨t.visit caller, d⟩] } := by
  refine { sound with told := ?_, backed := ?_ }
  · obtain ⟨earlier, split⟩ := sound.told
    exact ⟨earlier, by simp [← split, visit]⟩
  · intro r member
    rcases List.mem_append.mp member with old | new
    · exact sound.backed r old
    · obtain rfl := List.mem_singleton.mp new
      rw [sound.slots] at ready
      obtain ⟨g, found, slot⟩ := Option.map_eq_some_iff.mp ready
      unfold FetchRecord.slot at slot
      split at slot
      · cases slot
      · next moment ended =>
        cases slot
        refine ⟨g, record?_mem found, moment, ended, ?_, record?_origin found, rfl, .inr ?_⟩
        · simp [visit, found]
        · exact sound.trusts ▸ trusted

/-- Who finds a fetch under way waits for it. -/
theorem Sound.look_joins (sound : t.Sound ttl)
    (fetching : t.desk.cache.slot? caller.origin = some .fetching) :
    Sound ttl { t with
      desk := { t.desk with waiting := t.desk.waiting ++ [caller] }
      waiting := t.waiting ++ [t.visit caller] } := by
  refine { sound with callers := ?_, waits := ?_ }
  · simp [sound.callers, visit]
  · intro v member
    rcases List.mem_append.mp member with old | new
    · exact sound.waits v old
    · obtain rfl := List.mem_singleton.mp new
      rw [sound.slots] at fetching
      obtain ⟨g, found, slot⟩ := Option.map_eq_some_iff.mp fetching
      unfold FetchRecord.slot at slot
      split at slot
      · next unended =>
        refine ⟨Nat.le_refl _, g, record?_mem found, unended, ?_, record?_origin found⟩
        simp [visit, found]
      · cases slot

/-- A record begins, and the caller waits for it. -/
theorem Sound.look_begins (sound : t.Sound ttl)
    (unknown : t.desk.cache.Unknown t.now caller.origin) (due : Nat)
    (answer : Except Fault RobotsRules) (source : σ) :
    Sound ttl { t.beginRecord caller.origin answer with
      desk := { t.desk with
        cache := t.desk.cache.put caller.origin .fetching
        fetches := t.desk.fetches ++ [⟨caller.origin, due, answer⟩]
        waiting := t.desk.waiting ++ [caller]
        source }
      waiting := t.waiting ++ [(t.beginRecord caller.origin answer).visit caller] } where
  trusts := sound.trusts
  slots other := by
    refine (RobotsCache.slot?_put _ _ _ _).trans ?_
    refine Eq.trans ?_ (congrArg (Option.map FetchRecord.slot)
      (record?_beginRecord t caller.origin answer other).symm)
    split
    · rfl
    · exact sound.slots other
  fetches := by
    have unended : (t.newRecord caller.origin answer).isUnderWay = true := rfl
    simp [beginRecord, unended, sound.fetches]
    simp [newRecord]
  spaced := by
    refine List.pairwise_cons.mpr ⟨?_, sound.spaced⟩
    intro earlier member same
    exact sound.expired unknown member same.symm
  past g member := by
    rcases List.mem_cons.mp member with rfl | old
    · exact ⟨Nat.le_refl _, fun _ ended => nomatch ended⟩
    · exact sound.past g old
  numbers := by
    simp [beginRecord, newRecord, sound.numbers, List.range_succ]
  callers := by simp [sound.callers, visit]
  waits v member := by
    rcases List.mem_append.mp member with old | new
    · obtain ⟨asked, g, memberToo, rest⟩ := sound.waits v old
      exact ⟨asked, g, List.mem_cons_of_mem _ memberToo, rest⟩
    · obtain rfl := List.mem_singleton.mp new
      refine ⟨Nat.le_refl _, _, List.mem_cons_self, rfl, ?_, rfl⟩
      simp [visit, record?_beginRecord]
  told := sound.told
  backed r member := (sound.backed r member).mono fun _ old _ => List.mem_cons_of_mem _ old

theorem Sound.look (sound : t.Sound ttl) (fetch : RobotsSource σ) (caller : RobotsCaller) :
    (t.look fetch caller).Sound ttl := by
  unfold RobotsTraffic.look RobotsDesk.look
  rcases t.desk.cache.lookup_cases t.now caller.origin with
    ⟨d, ready, trusted, looked⟩ | ⟨fetching, looked⟩ | ⟨unknown, looked⟩
  · rw [looked]
    exact sound.look_fresh ready trusted
  · rw [looked]
    exact sound.look_joins fetching
  · rw [looked]
    exact sound.look_begins unknown _ _ _

/-- The record of a fetch ends, and nobody waits for it any more. -/
theorem Sound.finish (sound : t.Sound ttl) (underWay : record ∈ t.desk.fetches) :
    (t.finish record).Sound ttl := by
  obtain ⟨g, found, unended, brings⟩ := sound.record_of_fetch underWay
  have origin := record?_origin found
  have kept : ∀ h ∈ t.records, h.ended.isSome →
      h ∈ t.records.map (FetchRecord.conclude t.now record.origin) := by
    intro h member ended
    exact List.mem_map.mpr ⟨h, member, FetchRecord.conclude_of_ended ended⟩
  constructor
  case trusts => exact sound.trusts
  case slots =>
    intro other
    refine (RobotsCache.slot?_put _ _ _ _).trans (Eq.trans ?_
      (congrArg (Option.map FetchRecord.slot) (record?_conclude t record.origin other)).symm)
    split
    · next here =>
      subst here
      simp [found, FetchRecord.slot, FetchRecord.conclude_here unended origin, origin, brings]
    · next elsewhere =>
      rw [sound.slots other]
      cases last : t.record? other with
      | none => rfl
      | some h =>
        have away : h.origin ≠ record.origin := by
          rw [record?_origin last]
          exact elsewhere
        simp [FetchRecord.conclude_of_ne away]
  case fetches =>
    have remaining := congrArg (List.filter fun f => f.1 != record.origin) sound.fetches
    change (t.desk.fetches.filter _).map _ =
      (((t.records.map (FetchRecord.conclude t.now record.origin)).filter
        FetchRecord.isUnderWay).map _).reverse
    rw [FetchRecord.filter_isUnderWay_conclude]
    simpa [List.filter_map, Function.comp_def, List.filter_reverse] using remaining
  case spaced =>
    refine List.pairwise_map.mpr (sound.spaced.imp ?_)
    intro later earlier spaced same
    simp only [FetchRecord.conclude_origin, FetchRecord.conclude_begun] at same ⊢
    obtain ⟨moment, ended, rest⟩ := spaced same
    rw [FetchRecord.conclude_of_ended (by simp [ended])]
    exact ⟨moment, ended, rest⟩
  case past =>
    intro h finished
    obtain ⟨h, member, rfl⟩ := List.mem_map.mp finished
    obtain ⟨begun, finished⟩ := sound.past h member
    rw [FetchRecord.conclude_begun]
    refine ⟨begun, ?_⟩
    intro moment ended
    unfold FetchRecord.conclude at ended
    split at ended
    · cases ended
      exact ⟨begun, Nat.le_refl _⟩
    · exact finished moment ended
  case numbers =>
    simpa [RobotsTraffic.finish, Function.comp_def] using sound.numbers
  case callers =>
    simp only [RobotsTraffic.finish, RobotsDesk.finish, sound.callers,
        List.partition_eq_filter_filter,
      List.filter_map]
    rfl
  case waits =>
    intro v member
    obtain ⟨member, elsewhere⟩ := List.mem_filter.mp member
    obtain ⟨asked, h, memberToo, inAir, number, here⟩ := sound.waits v member
    have away : h.origin ≠ record.origin := by
      rw [here]
      simpa using elsewhere
    exact ⟨asked, h, List.mem_map.mpr ⟨h, memberToo, FetchRecord.conclude_of_ne away⟩, inAir,
        number, here⟩
  case told =>
    obtain ⟨earlier, split⟩ := sound.told
    refine ⟨earlier, ?_⟩
    simp [RobotsTraffic.finish, RobotsDesk.finish, ← split, sound.callers, List.filter_map,
      Function.comp_def, RobotsCache.settle]
  case backed =>
    intro r member
    rcases List.mem_append.mp member with old | new
    · exact (sound.backed r old).mono kept
    · obtain ⟨v, served, rfl⟩ := List.mem_map.mp new
      obtain ⟨waiting, here⟩ := List.mem_filter.mp served
      obtain ⟨asked, h, memberToo, inAir, number, sameOrigin⟩ := sound.waits v waiting
      have here : h.origin = record.origin := by
        rw [sameOrigin]
        simpa using here
      -- Who waits for the origin waits for the record that ends.
      have same := sound.record?_of_unended memberToo inAir
      rw [here, found] at same
      cases same
      refine ⟨_, List.mem_map_of_mem memberToo, t.now, FetchRecord.conclude_here unended origin,
          ?_, ?_, ?_,
        .inl asked⟩
      · simpa using number
      · simpa using sameOrigin
      · simp [origin, brings]

private theorem Sound.leave (sound : t.Sound ttl) (id : Nat) : (t.leave id).Sound ttl := by
  refine { sound with callers := ?_, waits := ?_ }
  · simp [RobotsTraffic.leave, RobotsDesk.leave, sound.callers, List.filter_map, Function.comp_def]
  · intro v member
    exact sound.waits v (List.mem_filter.mp member).1

private theorem Sound.pass (sound : t.Sound ttl) (span : Nat) :
    Sound ttl { t with now := t.now + span } := by
  refine { sound with past := ?_, waits := ?_ }
  · intro g member
    obtain ⟨begun, finished⟩ := sound.past g member
    refine ⟨Nat.le_add_right_of_le begun, ?_⟩
    intro moment ended
    obtain ⟨recorded, before⟩ := finished moment ended
    exact ⟨recorded, Nat.le_add_right_of_le before⟩
  · intro v member
    obtain ⟨asked, expects⟩ := sound.waits v member
    exact ⟨Nat.le_add_right_of_le asked, expects⟩

theorem Sound.step (sound : t.Sound ttl) (step : Step t next) : next.Sound ttl := by
  cases step with
  | look fetch caller => exact sound.look fetch caller
  | finish underWay => exact sound.finish underWay
  | leave caller => exact sound.leave caller
  | pass span => exact sound.pass span
  | clear => exact { sound with told := List.nil_suffix }
  | stir source => exact { sound with }

theorem Sound.run (sound : t.Sound ttl) (run : Run t next) : next.Sound ttl := by
  induction run with
  | refl => exact sound
  | tail _ last ih => exact ih.step last

end Steps

/-! ## Desks at work -/

section Work

theorem finish_fetches (t : RobotsTraffic σ) (record : RobotsFetch) :
    (t.finish record).desk.fetches = t.desk.fetches.filter (·.origin != record.origin) := rfl

/-- Fetches of different origins may finish one after the other. -/
theorem run_finish (t : RobotsTraffic σ) {fetches : List RobotsFetch}
    (underWay : fetches ⊆ t.desk.fetches) (nodup : (fetches.map (·.origin)).Nodup) :
    ∃ next, Run t next ∧ next.now = t.now ∧
      next.desk = fetches.foldl (RobotsDesk.finish t.now) t.desk := by
  induction fetches generalizing t with
  | nil => exact ⟨t, .refl, rfl, rfl⟩
  | cons fetch fetches ih =>
    obtain ⟨here, underWay⟩ := List.cons_subset.mp underWay
    obtain ⟨apart, nodup⟩ := List.nodup_cons.mp nodup
    have still : fetches ⊆ (t.finish fetch).desk.fetches := by
      intro other member
      rw [finish_fetches]
      refine List.mem_filter.mpr ⟨underWay member, ?_⟩
      have differs : other.origin ≠ fetch.origin := by
        intro same
        exact apart (List.mem_map.mpr ⟨other, member, same⟩)
      simpa using differs
    obtain ⟨next, run, moment, desk⟩ := ih (t.finish fetch) still nodup
    exact ⟨next, .head (.finish here) run, moment, desk⟩

theorem Sound.run_wake (sound : t.Sound ttl) :
    ∃ next, Run t next ∧ next.now = t.now ∧ next.desk = t.desk.wake t.now :=
  run_finish t (List.filter_subset_self _) (sound.fetches_nodup.sublist (List.filter_sublist.map _))

theorem look_desk (fetch : RobotsSource σ) (caller : RobotsCaller) (t : RobotsTraffic σ) :
    (t.look fetch caller).desk = t.desk.look fetch t.now caller ∧
      (t.look fetch caller).now = t.now := by
  unfold RobotsTraffic.look
  split <;> exact ⟨rfl, rfl⟩

theorem Sound.run_ask (sound : t.Sound ttl) (fetch : RobotsSource σ) (caller : RobotsCaller) :
    ∃ next, Run t next ∧ next.now = t.now ∧ next.desk = t.desk.ask fetch t.now caller := by
  obtain ⟨desk, moment⟩ := look_desk fetch caller t
  obtain ⟨next, run, same, woken⟩ := (sound.look fetch caller).run_wake
  refine ⟨next, .head (.look fetch caller) run, same.trans moment, ?_⟩
  rw [woken, desk, moment]
  rfl

theorem Sound.run_askEach (sound : t.Sound ttl) (fetch : RobotsSource σ)
    (callers : List (String × Nat)) :
    ∃ next, Run t next ∧ next.now = t.now ∧
      next.desk = callers.foldl
        (fun d (origin, caller) => RobotsDesk.ask fetch t.now ⟨caller, origin⟩ d) t.desk := by
  induction callers generalizing t with
  | nil => exact ⟨t, .refl, rfl, rfl⟩
  | cons first callers ih =>
    obtain ⟨middle, asks, moment, desk⟩ := sound.run_ask fetch ⟨first.2, first.1⟩
    obtain ⟨next, run, same, desks⟩ := ih (sound.run asks)
    refine ⟨next, asks.trans run, same.trans moment, ?_⟩
    rw [desks, moment, desk]
    rfl

/-- Whoever waits for answers waits through a run, which ends at the last moment he was woken. -/
theorem Sound.run_until (sound : t.Sound ttl) (isDone : RobotsDesk σ → Bool)
    {start limit last : Nat} {desk : RobotsDesk σ} (here : t.desk = desk) (now : t.now = last)
    (before : last ≤ start) (within : last ≤ limit) :
    ∃ next, Run t next ∧ next.now ≤ limit ∧
      RobotsDesk.clockwork.runUntil isDone start limit last desk = (next.now, next.desk) := by
  fun_induction Time.Clockwork.runUntil RobotsDesk.clockwork isDone start limit last desk
    generalizing t with
  | case1 => exact ⟨t, .refl, now ▸ within, by rw [now, here]⟩
  | case2 => exact ⟨t, .refl, now ▸ within, by rw [now, here]⟩
  | case3 start last desk unfinished moment due ahead ih =>
    -- Time passes up to the next moment somebody is to be woken, and then all that is due is done.
    have later : t.now ≤ max moment start := by omega
    have passes : Step t { t with now := max moment start } := by
      have moves := Step.pass (t := t) (max moment start - t.now)
      rwa [Nat.add_sub_cancel' later] at moves
    obtain ⟨woken, wakes, same, desk⟩ := (sound.step passes).run_wake
    have start := Relation.ReflTransGen.head passes wakes
    obtain ⟨next, run, limited, result⟩ :=
      ih (sound.run start) (desk.trans (by rw [here]; rfl)) same (Nat.le_succ _) ahead
    exact ⟨next, start.trans run, limited, result⟩
  | case4 => exact ⟨t, .refl, now ▸ within, by rw [now, here]⟩

theorem run_leave (t : RobotsTraffic σ) (callers : List Nat) :
    ∃ next, Run t next ∧ next.now = t.now ∧
      next.desk = callers.foldl (fun d caller => RobotsDesk.leave caller d) t.desk := by
  induction callers generalizing t with
  | nil => exact ⟨t, .refl, rfl, rfl⟩
  | cons first callers ih =>
    obtain ⟨next, run, same, desk⟩ := ih (t.leave first)
    exact ⟨next, .head (.leave first) run, same, desk⟩

/-- To ask for several decisions and wait for them, but not after a limit, is a run. -/
theorem Sound.run_askAll (sound : t.Sound ttl) (fetch : RobotsSource σ) {limit : Nat}
    (within : t.now ≤ limit) (origins : List String) :
    ∃ next, Run t next ∧ next.now = (t.desk.askAll fetch t.now limit origins).1 ∧
      next.desk = (t.desk.askAll fetch t.now limit origins).2.2 := by
  have clears := Step.clear (t := t)
  obtain ⟨asked, asks, moment, desk⟩ :=
    (sound.step clears).run_askEach fetch (origins.zip (List.range origins.length))
  have upToHere := Relation.ReflTransGen.head clears asks
  obtain ⟨waited, waits, limited, result⟩ := (sound.run upToHere).run_until
    (fun d => (List.range origins.length).all fun caller => (d.answer? caller).isSome)
    desk moment (Nat.le_refl _) within
  unfold RobotsDesk.askAll
  dsimp only at result ⊢
  rw [result]
  obtain ⟨rested, rests, ends, desk⟩ :
      ∃ rested, Run waited rested ∧ rested.now = (if ((List.range origins.length).all fun caller =>
        (waited.desk.answer? caller).isSome) = true then waited.now else limit) ∧
        rested.desk = waited.desk := by
    split
    · exact ⟨waited, .refl, rfl, rfl⟩
    · exact ⟨_, .single (.pass (limit - waited.now)), Nat.add_sub_cancel' limited, rfl⟩
  obtain ⟨next, leaves, same, left⟩ := run_leave rested (List.range origins.length)
  exact ⟨next, (upToHere.trans waits).trans (rests.trans leaves), same.trans ends, desk ▸ left⟩

end Work

/-! ## What a decision is worth -/

section Worth

/-- A record begins only where nothing is known, or nothing that is still trusted. -/
theorem unknown_of_begins (step : Step t next)
    (begins : next.records = g :: t.records) : t.desk.cache.Unknown t.now g.origin := by
  have grows : next.records.length = t.records.length + 1 := by rw [begins, List.length_cons]
  cases step with
  | look fetch caller =>
    unfold RobotsTraffic.look at begins grows
    rcases t.desk.cache.lookup_cases t.now caller.origin with
      ⟨d, _, _, looked⟩ | ⟨_, looked⟩ | ⟨unknown, looked⟩
    · simp [looked] at grows
    · simp [looked] at grows
    · simp only [looked, beginRecord] at begins
      obtain ⟨rfl, _⟩ := List.cons.inj begins
      exact unknown
  | finish underWay => simp [RobotsTraffic.finish] at grows
  | leave caller => simp [RobotsTraffic.leave] at grows
  | pass span => simp at grows
  | clear => simp at grows
  | stir source => simp at grows

/-- When a fetch is over, all who wait for it are told what it brought. -/
theorem Sound.told_of_expects (sound : t.Sound ttl) {fetch : RobotsFetch}
    (underWay : fetch ∈ t.desk.fetches) {v : Visit} (member : v ∈ t.waiting)
    (expects : v.record = (t.record? fetch.origin).map (·.number)) :
    (v.caller.id, RobotsCache.decide t.now fetch.origin fetch.answer) ∈
      (t.desk.finish t.now fetch).answered := by
  obtain ⟨last, found, _⟩ := sound.record_of_fetch underWay
  obtain ⟨_, g, recorded, _, number, origin⟩ := sound.waits v member
  have same : g = last := by
    refine sound.number_inj recorded (record?_mem found) ?_
    simpa [expects, found] using number.symm
  have here : v.caller.origin = fetch.origin := by
    rw [← origin, same]
    exact record?_origin found
  have waits : v.caller ∈ t.desk.waiting := by
    rw [sound.callers]
    exact List.mem_map_of_mem member
  have told : (t.desk.finish t.now fetch).answered = t.desk.answered ++
      (t.desk.waiting.filter (·.origin == fetch.origin)).map fun caller =>
        (caller.id, RobotsCache.decide t.now fetch.origin fetch.answer) := by
    simp [RobotsDesk.finish, RobotsCache.settle]
  rw [told]
  refine List.mem_append_right _ (List.mem_map.mpr ⟨v.caller, List.mem_filter.mpr ⟨waits, ?_⟩, rfl⟩)
  simpa using here

/-- A reply has the decision of its record. -/
theorem Sound.decision_eq (sound : t.Sound ttl) {r : Reply} (member : r ∈ t.replies)
    (recorded : g ∈ t.records) (record : r.visit.record = some g.number) :
    ∃ moment, g.ended = some moment ∧
      r.decision = RobotsCache.decide moment g.origin g.answer := by
  obtain ⟨other, memberToo, moment, ended, number, _, decision, _⟩ := sound.backed r member
  have same : other = g := by
    refine sound.number_inj memberToo recorded ?_
    simpa [record] using number.symm
  subst same
  exact ⟨moment, ended, decision⟩

/-- Who waited for the same record has the same decision. -/
theorem Sound.decision_congr (sound : t.Sound ttl) {r other : Reply} (member : r ∈ t.replies)
    (memberToo : other ∈ t.replies) (same : r.visit.record = other.visit.record) :
    r.decision = other.decision := by
  obtain ⟨g, recorded, moment, ended, number, _, decision, _⟩ := sound.backed r member
  obtain ⟨moment', ended', decision'⟩ := sound.decision_eq memberToo recorded (same ▸ number)
  cases ended.symm.trans ended'
  rw [decision, decision']

end Worth

/-- At most one fetch of an origin is under way at a time, it begins only where no decision is
trusted, and each reply is the decision of one fetch, which denies everything if it failed. -/
theorem decisions_of_run {source : σ} {now : Nat} (run : Run (opening ttl source now) t) :
    (t.desk.fetches.map (·.origin)).Nodup ∧
    (t.desk.fetches.map (fun f => (f.origin, f.answer)) =
      ((t.records.filter FetchRecord.isUnderWay).map fun g => (g.origin, g.answer)).reverse) ∧
    (∀ next g, Step t next → next.records = g :: t.records →
      t.desk.cache.slot? g.origin = none ∨
        ∃ d, t.desk.cache.slot? g.origin = some (.ready d) ∧ ttl.outlasts (d.age t.now) = false) ∧
    (t.records.Pairwise fun later earlier =>
      later.origin = earlier.origin → earlier.ExpiredBy ttl later.begun) ∧
    (t.desk.answered <:+ t.replies.map fun r => (r.visit.caller.id, r.decision)) ∧
    (∀ r ∈ t.replies, r.Backed ttl t.records) ∧
    (∀ r ∈ t.replies, ∀ g ∈ t.records, r.visit.record = some g.number →
      ∀ fault, g.answer = .error fault → ∀ agent path, r.decision.allows agent path = false) ∧
    (∀ r ∈ t.replies, ∀ other ∈ t.replies, r.visit.record = other.visit.record →
      r.decision = other.decision) ∧
    (t.desk.waiting = t.waiting.map (·.caller)) ∧
    (∀ v ∈ t.waiting, v.Expects t.records) ∧
    ∀ fetch ∈ t.desk.fetches, ∀ v ∈ t.waiting,
      v.record = (t.record? fetch.origin).map (·.number) →
      (v.caller.id, RobotsCache.decide t.now fetch.origin fetch.answer) ∈
        (t.desk.finish t.now fetch).answered := by
  have sound := (opening_sound ttl source now).run run
  refine ⟨sound.fetches_nodup, sound.fetches, ?_, sound.spaced, sound.told, sound.backed, ?_, ?_,
      sound.callers,
    ?_, ?_⟩
  · intro next g step begins
    have unknown := unknown_of_begins step begins
    rwa [RobotsCache.Unknown, sound.trusts] at unknown
  · intro r member g recorded record fault failed agent path
    obtain ⟨moment, _, decision⟩ := sound.decision_eq member recorded record
    rw [decision, failed]
    exact RobotsCache.decide_error moment g.origin fault agent path
  · intro r member other memberToo same
    exact sound.decision_congr member memberToo same
  · intro v member
    exact (sound.waits v member).2
  · intro fetch underWay v member expects
    exact sound.told_of_expects underWay member expects

/-! ## Two callers, a failure and another try -/

def hesitant : RobotsSource Bool
  | _, true => ((5, .error (.network "refused")), false)
  | _, false => ((0, .ok .allowAll), false)

def crowded : RobotsTraffic Bool :=
  (((opening (.ofMillis 60) true 0).look hesitant ⟨1, "o"⟩).look hesitant ⟨2, "o"⟩).look hesitant
    ⟨3, "o"⟩ |>.leave 3

def refused : RobotsTraffic Bool :=
  { crowded with now := 5 }.finish ⟨"o", 5, .error (.network "refused")⟩

/-- A caller asks while the failure counts, and another one when it counts no more. -/
def retried : RobotsTraffic Bool :=
  { ({ refused with now := 64 }.look hesitant ⟨4, "o"⟩) with now := 65 }.look hesitant ⟨5, "o"⟩

theorem run_retried : Run (opening (.ofMillis 60) true 0) retried := by
  have asks : Run (opening (.ofMillis 60) true 0) _ := .single (.look hesitant ⟨1, "o"⟩)
  have joins := (asks.tail (.look hesitant ⟨2, "o"⟩)).tail (.look hesitant ⟨3, "o"⟩)
  have waits : Run (opening (.ofMillis 60) true 0) { crowded with now := 5 } :=
    (joins.tail (.leave 3)).tail (.pass 5)
  have fails : Run (opening (.ofMillis 60) true 0) { refused with now := 64 } :=
    (waits.tail (.finish (List.mem_singleton.mpr rfl))).tail (.pass 59)
  exact ((fails.tail (.look hesitant ⟨4, "o"⟩)).tail (.pass 1)).tail (.look hesitant ⟨5, "o"⟩)

/-- Three replies come from the fetch that failed, and the last caller waits for another one. -/
theorem retried_decisions :
    retried.replies.map (·.visit.caller.id) = [1, 2, 4] ∧
    retried.waiting.map (·.caller.id) = [5] ∧ retried.records.map (·.begun) = [65, 0] ∧
    (retried.records.Pairwise fun later earlier =>
      later.origin = earlier.origin → earlier.ExpiredBy (.ofMillis 60) later.begun) ∧
    ∀ r ∈ retried.replies, ∀ g ∈ retried.records, r.visit.record = some g.number →
      ∀ fault, g.answer = .error fault → ∀ agent path, r.decision.allows agent path = false := by
  obtain ⟨_, _, _, spaced, _, _, denies, _⟩ := decisions_of_run run_retried
  exact ⟨rfl, rfl, rfl, spaced, denies⟩

end RobotsTraffic

end FeedIngest.Crawl
