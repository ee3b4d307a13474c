import FeedIngest.Proofs.Crawl.Robots.Traffic

/-!
# Origins apart

A timed run of lookups is given as the list of what happens: callers ask and give up, fetches that
are due end, and time passes, though never beyond a fetch that is due and awaited. Each origin has a
script that says how long its first fetch takes and what it brings, and so on.

What concerns one origin is its outlook. It goes on by itself: what happens to other origins leaves
it alone, and what happens to its own depends on nothing else. So the rest of a run may be taken
away.
-/

set_option autoImplicit false

namespace FeedIngest.Crawl

open Time (Span)

/-- How long each fetch of an origin takes and what it brings, by the number of fetches before it.
-/
abbrev RobotsScript := String → Nat → Nat × Except Fault RobotsRules

/-- The source that follows a script. It counts the fetches of each origin. -/
def RobotsScript.source (script : RobotsScript) : RobotsSource (String → Nat) :=
  fun origin fetched =>
  (script origin (fetched origin),
    fun other => if other = origin then fetched other + 1 else fetched other)

inductive Deed where
  | look (caller : RobotsCaller)
  | leave (caller : RobotsCaller)
  /-- The fetch of an origin is over. -/
  | conclude (origin : String)
  | pass (span : Nat)
deriving DecidableEq, Repr

/-- Whether a deed matters to an origin. The time is that of all. -/
def Deed.concerns (origin : String) : Deed → Bool
  | .look caller => caller.origin == origin
  | .leave caller => caller.origin == origin
  | .conclude other => other == origin
  | .pass _ => true

def FetchRecord.unnumbered (g : FetchRecord) : FetchRecord := { g with number := 0 }

def Visit.unnumbered (v : Visit) : Visit := { v with record := none }

def Reply.unnumbered (r : Reply) : Reply := { r with visit := r.visit.unnumbered }

namespace RobotsTraffic

/-- What a deed comes to, unless it is not possible: nobody asks who waits already, who gives up
waits, a fetch ends when it is due and somebody waits for it, and until it does no time passes. -/
def act? (script : RobotsScript) (t : RobotsTraffic (String → Nat)) :
    Deed → Option (RobotsTraffic (String → Nat))
  | .look caller =>
    if t.desk.waiting.any (·.id == caller.id) then none else some (t.look script.source caller)
  | .leave caller => if caller ∈ t.desk.waiting then some (t.leave caller.id) else none
  | .conclude origin =>
    if t.desk.isAwaited origin then
      (t.desk.fetches.find? fun f => f.origin == origin && f.due ≤ t.now).map t.finish
    else none
  | .pass span =>
    if ∀ f ∈ t.desk.fetches, t.desk.isAwaited f.origin = true → t.now + span ≤ f.due then
      some { t with now := t.now + span }
    else none

def replay (script : RobotsScript) (t : RobotsTraffic (String → Nat)) (deeds : List Deed) :
    Option (RobotsTraffic (String → Nat)) := deeds.foldlM (act? script) t

/-- The records for an origin, without their numbers among all records. -/
def recordsFor (origin : String) (t : RobotsTraffic (String → Nat)) : List FetchRecord :=
  (t.records.filter (·.origin == origin)).map FetchRecord.unnumbered

def waitingFor (origin : String) (t : RobotsTraffic (String → Nat)) : List Visit :=
  (t.waiting.filter (·.caller.origin == origin)).map Visit.unnumbered

/-- The replies to lookups of an origin: who asked, when, and the decision that was returned. -/
def repliesFor (origin : String) (t : RobotsTraffic (String → Nat)) : List Reply :=
  (t.replies.filter (·.visit.caller.origin == origin)).map Reply.unnumbered

end RobotsTraffic

structure Outlook where
  now : Nat
  ttl : Span
  slot : Option RobotsSlot
  fetches : List RobotsFetch
  callers : List RobotsCaller
  fetched : Nat
  records : List FetchRecord
  waiting : List Visit
  replies : List Reply

def RobotsTraffic.outlook (origin : String) (t : RobotsTraffic (String → Nat)) : Outlook where
  now := t.now
  ttl := t.desk.cache.ttl
  slot := t.desk.cache.slot? origin
  fetches := t.desk.fetches.filter (·.origin == origin)
  callers := t.desk.waiting.filter (·.origin == origin)
  fetched := t.desk.source origin
  records := t.recordsFor origin
  waiting := t.waitingFor origin
  replies := t.repliesFor origin

namespace Outlook

def lookup (v : Outlook) : RobotsCache.Lookup :=
  match v.slot with
  | some .fetching => .joins
  | some (.ready decision) => if decision.isFresh v.ttl v.now then .fresh decision else .begins
  | none => .begins

def visit (v : Outlook) (caller : RobotsCaller) : Visit := ⟨caller, v.now, none⟩

def look (script : RobotsScript) (caller : RobotsCaller) (v : Outlook) : Outlook :=
  match v.lookup with
  | .fresh decision => { v with replies := v.replies ++ [⟨v.visit caller, decision⟩] }
  | .joins => { v with callers := v.callers ++ [caller], waiting := v.waiting ++ [v.visit caller] }
  | .begins =>
    let (delay, answer) := script caller.origin v.fetched
    { v with
      slot := some .fetching
      fetches := v.fetches ++ [⟨caller.origin, v.now + delay, answer⟩]
      callers := v.callers ++ [caller]
      fetched := v.fetched + 1
      records := ⟨0, caller.origin, v.now, answer, none⟩ :: v.records
      waiting := v.waiting ++ [v.visit caller] }

def leave (caller : Nat) (v : Outlook) : Outlook :=
  { v with
    callers := v.callers.filter (·.id != caller)
    waiting := v.waiting.filter (·.caller.id != caller) }

def finish (v : Outlook) (fetch : RobotsFetch) : Outlook :=
  let decision := RobotsCache.decide v.now fetch.origin fetch.answer
  { v with
    slot := some (.ready decision)
    fetches := []
    callers := []
    records := v.records.map (FetchRecord.conclude v.now fetch.origin)
    waiting := []
    replies := v.replies ++ v.waiting.map fun visit => ⟨visit, decision⟩ }

def act? (script : RobotsScript) (v : Outlook) : Deed → Option Outlook
  | .look caller =>
    if v.callers.any (·.id == caller.id) then none else some (v.look script caller)
  | .leave caller => if caller ∈ v.callers then some (v.leave caller.id) else none
  | .conclude _ =>
    if v.callers.isEmpty then none else (v.fetches.find? (·.due ≤ v.now)).map v.finish
  | .pass span =>
    if v.callers.isEmpty ∨ ∀ f ∈ v.fetches, v.now + span ≤ f.due then
      some { v with now := v.now + span }
    else none

end Outlook

namespace RobotsTraffic

variable {script : RobotsScript} {t next : RobotsTraffic (String → Nat)} {origin : String}
  {caller : RobotsCaller} {fetch : RobotsFetch} {deed : Deed} {ttl : Span}

/-- What a deed can come to. -/
theorem act?_cases (acts : t.act? script deed = some next) :
    (∃ caller, deed = .look caller ∧ (∀ other ∈ t.desk.waiting, other.id ≠ caller.id) ∧
      next = t.look script.source caller) ∨
    (∃ caller, deed = .leave caller ∧ caller ∈ t.desk.waiting ∧ next = t.leave caller.id) ∨
    (∃ fetch, deed = .conclude fetch.origin ∧ t.desk.isAwaited fetch.origin = true ∧
      t.desk.fetches.find? (fun f => f.origin == fetch.origin && f.due ≤ t.now) = some fetch ∧
      next = t.finish fetch) ∨
    ∃ span, deed = .pass span ∧
      (∀ f ∈ t.desk.fetches, t.desk.isAwaited f.origin = true → t.now + span ≤ f.due) ∧
      next = { t with now := t.now + span } := by
  cases deed with
  | look caller =>
    rw [act?, Option.ite_none_left_eq_some] at acts
    obtain ⟨nobody, same⟩ := acts
    refine .inl ⟨caller, rfl, fun other member same => ?_, (Option.some.inj same).symm⟩
    exact nobody (List.any_eq_true.mpr ⟨other, member, beq_iff_eq.mpr same⟩)
  | leave caller =>
    rw [act?, Option.ite_none_right_eq_some] at acts
    obtain ⟨waits, same⟩ := acts
    exact .inr (.inl ⟨caller, rfl, waits, (Option.some.inj same).symm⟩)
  | conclude origin =>
    rw [act?, Option.ite_none_right_eq_some] at acts
    obtain ⟨awaited, ends⟩ := acts
    obtain ⟨fetch, found, rfl⟩ := Option.map_eq_some_iff.mp ends
    have fits := List.find?_some found
    obtain rfl : fetch.origin = origin := beq_iff_eq.mp (Bool.and_eq_true_iff.mp fits).1
    exact .inr (.inr (.inl ⟨fetch, rfl, awaited, found, rfl⟩))
  | pass span =>
    rw [act?, Option.ite_none_right_eq_some] at acts
    obtain ⟨still, same⟩ := acts
    exact .inr (.inr (.inr ⟨span, rfl, still, (Option.some.inj same).symm⟩))

/-! ## Deeds of the origin -/

section Own

theorem isAwaited_eq (t : RobotsTraffic (String → Nat)) (origin : String) :
    t.desk.isAwaited origin = !(t.outlook origin).callers.isEmpty := by
  unfold RobotsDesk.isAwaited outlook
  rw [Bool.eq_iff_iff]
  simp [List.filter_eq_nil_iff]

private theorem outlook_lookup (t : RobotsTraffic (String → Nat)) (origin : String) :
    (t.desk.cache.lookup t.now origin).1 = (t.outlook origin).lookup := by
  unfold RobotsCache.lookup Outlook.lookup outlook
  dsimp only
  cases t.desk.cache.slot? origin with
  | none => rfl
  | some slot =>
    cases slot with
    | fetching => rfl
    | ready decision => dsimp only; split <;> rfl

private theorem outlook_look (t : RobotsTraffic (String → Nat)) (caller : RobotsCaller) :
    (t.look script.source caller).outlook caller.origin =
      (t.outlook caller.origin).look script caller := by
  have asked := outlook_lookup t caller.origin
  unfold Outlook.look
  rw [← asked]
  unfold RobotsTraffic.look RobotsDesk.look
  rcases t.desk.cache.lookup_cases t.now caller.origin with
    ⟨d, ready, trusted, looked⟩ | ⟨fetching, looked⟩ | ⟨unknown, looked⟩
  · rw [looked]
    simp [outlook, recordsFor, waitingFor, repliesFor, visit, Reply.unnumbered, Visit.unnumbered,
      Outlook.visit]
  · rw [looked]
    simp [outlook, recordsFor, waitingFor, repliesFor, visit, Visit.unnumbered, Outlook.visit]
  · rw [looked]
    simp [outlook, recordsFor, waitingFor, repliesFor, visit, Visit.unnumbered, Outlook.visit,
      beginRecord, newRecord, FetchRecord.unnumbered, RobotsScript.source, RobotsCache.slot?_put]

private theorem unnumbered_conclude (now : Nat) (origin : String) (g : FetchRecord) :
    (g.conclude now origin).unnumbered = g.unnumbered.conclude now origin := by
  have same : (g.unnumbered.isUnderWay && g.unnumbered.origin == origin) =
      (g.isUnderWay && g.origin == origin) := rfl
  unfold FetchRecord.conclude
  rw [same]
  split <;> rfl

private theorem recordsFor_finish (t : RobotsTraffic (String → Nat)) (fetch : RobotsFetch) :
    (t.finish fetch).recordsFor fetch.origin =
      (t.recordsFor fetch.origin).map (FetchRecord.conclude t.now fetch.origin) := by
  have same :
      (fun g : FetchRecord => g.origin == fetch.origin) ∘ FetchRecord.conclude t.now fetch.origin =
      fun g => g.origin == fetch.origin :=
    funext fun g => congrArg (· == fetch.origin) (FetchRecord.conclude_origin ..)
  unfold recordsFor RobotsTraffic.finish
  rw [List.filter_map, same, List.map_map, List.map_map]
  exact List.map_congr_left fun g _ => unnumbered_conclude t.now fetch.origin g

private theorem repliesFor_finish (t : RobotsTraffic (String → Nat)) (fetch : RobotsFetch) :
    (t.finish fetch).repliesFor fetch.origin =
      t.repliesFor fetch.origin ++ (t.waitingFor fetch.origin).map fun visit =>
        ⟨visit, RobotsCache.decide t.now fetch.origin fetch.answer⟩ := by
  unfold repliesFor waitingFor RobotsTraffic.finish
  rw [List.filter_append, List.map_append, List.filter_map, List.map_map, List.map_map,
    List.filter_filter]
  simp [Function.comp_def, Reply.unnumbered]

private theorem outlook_finish (t : RobotsTraffic (String → Nat)) (fetch : RobotsFetch) :
    (t.finish fetch).outlook fetch.origin = (t.outlook fetch.origin).finish fetch := by
  unfold outlook
  rw [recordsFor_finish, repliesFor_finish]
  simp [Outlook.finish, RobotsTraffic.finish, RobotsDesk.finish, RobotsCache.settle,
    RobotsCache.slot?_put, waitingFor]

private theorem waitingFor_leave (t : RobotsTraffic (String → Nat)) (id : Nat) (origin : String) :
    (t.leave id).waitingFor origin = (t.waitingFor origin).filter (·.caller.id != id) := by
  unfold waitingFor RobotsTraffic.leave
  rw [List.filter_map, List.filter_filter, List.filter_filter]
  congr 1
  exact List.filter_congr fun v _ => Bool.and_comm ..

theorem outlook_leave (t : RobotsTraffic (String → Nat)) (id : Nat) (origin : String) :
    (t.leave id).outlook origin = (t.outlook origin).leave id := by
  unfold outlook
  rw [waitingFor_leave]
  simp [Outlook.leave, RobotsTraffic.leave, RobotsDesk.leave, recordsFor, repliesFor, Bool.and_comm]

/-- What a deed comes to for its own origin is said by the outlook alone. -/
theorem act?_outlook (acts : t.act? script deed = some next) (own : deed.concerns origin = true) :
    (t.outlook origin).act? script deed = some (next.outlook origin) := by
  rcases act?_cases acts with ⟨caller, rfl, nobody, rfl⟩ | ⟨caller, rfl, waits, rfl⟩ |
    ⟨fetch, rfl, awaited, found, rfl⟩ | ⟨span, rfl, still, rfl⟩
  · obtain rfl : caller.origin = origin := beq_iff_eq.mp own
    have nobodyHere : ¬(t.outlook caller.origin).callers.any (·.id == caller.id) = true := by
      rw [List.any_eq_true]
      rintro ⟨other, member, same⟩
      exact nobody other (List.mem_filter.mp member).1 (beq_iff_eq.mp same)
    rw [Outlook.act?, if_neg nobodyHere, outlook_look]
  · have waitsHere : caller ∈ (t.outlook origin).callers := List.mem_filter.mpr ⟨waits, own⟩
    rw [Outlook.act?, if_pos waitsHere, outlook_leave]
  · obtain rfl : fetch.origin = origin := beq_iff_eq.mp own
    rw [isAwaited_eq, Bool.not_eq_true'] at awaited
    have foundHere : (t.outlook fetch.origin).fetches.find? (·.due ≤ t.now) = some fetch := by
      rw [outlook, List.find?_filter, ← found]
      exact congrArg (List.find? · _) (funext fun f => Bool.eq_iff_iff.mpr (by simp))
    rw [Outlook.act?, awaited, outlook_finish]
    exact congrArg (Option.map _) foundHere
  · rw [Outlook.act?, if_pos]
    · rfl
    · by_cases empty : (t.outlook origin).callers.isEmpty = true
      · exact .inl empty
      · refine .inr fun f member => ?_
        obtain ⟨underWay, here⟩ := List.mem_filter.mp member
        obtain rfl : f.origin = origin := beq_iff_eq.mp here
        exact still f underWay (by rw [isAwaited_eq, Bool.eq_false_iff.mpr empty]; rfl)

end Own

/-! ## Deeds of other origins -/

section Others

private theorem outlook_look_of_ne (elsewhere : caller.origin ≠ origin) :
    (t.look script.source caller).outlook origin = t.outlook origin := by
  unfold RobotsTraffic.look RobotsDesk.look
  rcases t.desk.cache.lookup_cases t.now caller.origin with
    ⟨d, ready, trusted, looked⟩ | ⟨fetching, looked⟩ | ⟨unknown, looked⟩
  · rw [looked]
    simp [outlook, recordsFor, waitingFor, repliesFor, visit, elsewhere]
  · rw [looked]
    simp [outlook, recordsFor, waitingFor, repliesFor, visit, elsewhere]
  · rw [looked]
    simp [outlook, recordsFor, waitingFor, repliesFor, visit, elsewhere, elsewhere.symm,
        beginRecord,
      newRecord, RobotsScript.source, RobotsCache.slot?_put]

private theorem recordsFor_finish_of_ne (elsewhere : fetch.origin ≠ origin) :
    (t.finish fetch).recordsFor origin = t.recordsFor origin := by
  have same :
      (fun g : FetchRecord => g.origin == origin) ∘ FetchRecord.conclude t.now fetch.origin =
      fun g => g.origin == origin :=
    funext fun g => congrArg (· == origin) (FetchRecord.conclude_origin ..)
  unfold recordsFor RobotsTraffic.finish
  rw [List.filter_map, same, List.map_map]
  refine List.map_congr_left fun g member => ?_
  have here : g.origin = origin := beq_iff_eq.mp (List.mem_filter.mp member).2
  rw [Function.comp, FetchRecord.conclude_of_ne (here ▸ elsewhere.symm)]

/-- Who leaves the origin in peace is not among a selection of those who are there for it. -/
theorem filter_filter_of_ne {α : Type} (name : α → String) (rows : List α)
    (elsewhere : fetch.origin ≠ origin) :
    (rows.filter (name · != fetch.origin)).filter (name · == origin) =
      rows.filter (name · == origin) := by
  rw [List.filter_filter]
  refine List.filter_congr fun row _ => ?_
  by_cases here : name row = origin
  · simp [here, elsewhere.symm]
  · simp [here]

theorem finish_waiting (t : RobotsTraffic (String → Nat)) (fetch : RobotsFetch) :
    (t.finish fetch).desk.waiting = t.desk.waiting.filter (·.origin != fetch.origin) := by
  simp [RobotsTraffic.finish, RobotsDesk.finish, Function.comp_def, bne]

private theorem outlook_finish_of_ne (elsewhere : fetch.origin ≠ origin) :
    (t.finish fetch).outlook origin = t.outlook origin := by
  have replies : (t.finish fetch).repliesFor origin = t.repliesFor origin := by
    unfold repliesFor RobotsTraffic.finish
    rw [List.filter_append, List.filter_map]
    have nobody : (t.waiting.filter (·.caller.origin == fetch.origin)).filter
        (·.caller.origin == origin) = [] := by
      rw [List.filter_filter, List.filter_eq_nil_iff]
      rintro v _ both
      obtain ⟨here, there⟩ := Bool.and_eq_true_iff.mp both
      exact elsewhere ((beq_iff_eq.mp there).symm.trans (beq_iff_eq.mp here))
    simp [Function.comp_def, nobody]
  have waiting : (t.finish fetch).waitingFor origin = t.waitingFor origin :=
    congrArg (List.map _) (filter_filter_of_ne (fun v : Visit => v.caller.origin) _ elsewhere)
  have fetches : (t.finish fetch).desk.fetches.filter (·.origin == origin) =
      t.desk.fetches.filter (·.origin == origin) :=
    filter_filter_of_ne (fun f : RobotsFetch => f.origin) _ elsewhere
  have callers : (t.finish fetch).desk.waiting.filter (·.origin == origin) =
      t.desk.waiting.filter (·.origin == origin) := by
    rw [finish_waiting]
    exact filter_filter_of_ne (fun c : RobotsCaller => c.origin) _ elsewhere
  unfold outlook
  rw [replies, waiting, fetches, callers, recordsFor_finish_of_ne elsewhere]
  simp [RobotsTraffic.finish, RobotsDesk.finish, RobotsCache.settle, RobotsCache.slot?_put,
      elsewhere.symm]

/-- Nobody who waits for the origin has the number of somebody who leaves another one. -/
theorem outlook_leave_of_ne (sound : t.Sound ttl) (apart : (t.desk.waiting.map (·.id)).Nodup)
    (waits : caller ∈ t.desk.waiting) (elsewhere : caller.origin ≠ origin) :
    (t.leave caller.id).outlook origin = t.outlook origin := by
  have other : ∀ c ∈ t.desk.waiting, c.origin = origin → (c.id != caller.id) = true := by
    rintro c member rfl
    refine bne_iff_ne.mpr fun same => elsewhere ?_
    rw [List.inj_on_of_nodup_map apart waits member same.symm]
  rw [outlook_leave]
  unfold Outlook.leave outlook
  have callers : (t.desk.waiting.filter (·.origin == origin)).filter (·.id != caller.id) =
      t.desk.waiting.filter (·.origin == origin) := by
    refine List.filter_eq_self.mpr fun c member => ?_
    obtain ⟨member, here⟩ := List.mem_filter.mp member
    exact other c member (beq_iff_eq.mp here)
  have waiting : (t.waitingFor origin).filter (·.caller.id != caller.id) = t.waitingFor origin := by
    refine List.filter_eq_self.mpr fun u member => ?_
    obtain ⟨v, listed, rfl⟩ := List.mem_map.mp member
    obtain ⟨member, here⟩ := List.mem_filter.mp listed
    refine other v.caller ?_ (beq_iff_eq.mp here)
    rw [sound.callers]
    exact List.mem_map_of_mem member
  dsimp only
  rw [callers, waiting]

/-- What happens to other origins leaves this one alone. -/
theorem outlook_of_not_concerns (sound : t.Sound ttl)
    (apart : (t.desk.waiting.map (·.id)).Nodup) (acts : t.act? script deed = some next)
    (others : deed.concerns origin = false) : next.outlook origin = t.outlook origin := by
  rcases act?_cases acts with ⟨caller, rfl, _, rfl⟩ | ⟨caller, rfl, waits, rfl⟩ |
    ⟨fetch, rfl, _, _, rfl⟩ | ⟨span, rfl, _, _⟩
  · exact outlook_look_of_ne (beq_eq_false_iff_ne.mp others)
  · exact outlook_leave_of_ne sound apart waits (beq_eq_false_iff_ne.mp others)
  · exact outlook_finish_of_ne (beq_eq_false_iff_ne.mp others)
  · cases others

end Others

/-! ## Runs -/

section Runs

theorem act?_step (acts : t.act? script deed = some next) : Step t next := by
  rcases act?_cases acts with ⟨caller, _, _, rfl⟩ | ⟨caller, _, _, rfl⟩ |
    ⟨fetch, _, _, found, rfl⟩ | ⟨span, _, _, rfl⟩
  · exact .look script.source caller
  · exact .leave caller.id
  · exact .finish (List.mem_of_find?_eq_some found)
  · exact .pass span

/-- A replay is a run. -/
theorem run_of_replay {deeds : List Deed} (replays : t.replay script deeds = some next) :
    Run t next := by
  induction deeds generalizing t with
  | nil =>
    cases replays
    exact .refl
  | cons deed deeds ih =>
    obtain ⟨middle, acts, replays⟩ := Option.bind_eq_some_iff.mp replays
    exact .head (act?_step acts) (ih replays)

theorem look_waiting (script : RobotsScript) (t : RobotsTraffic (String → Nat))
    (caller : RobotsCaller) :
    (t.look script.source caller).desk.waiting = t.desk.waiting ∨
      (t.look script.source caller).desk.waiting = t.desk.waiting ++ [caller] := by
  rw [(look_desk script.source caller t).1]
  unfold RobotsDesk.look
  rcases t.desk.cache.lookup_cases t.now caller.origin with
    ⟨d, _, _, looked⟩ | ⟨_, looked⟩ | ⟨_, looked⟩ <;> rw [looked]
  · exact .inl rfl
  · exact .inr rfl
  · exact .inr rfl

private theorem act?_nodup (apart : (t.desk.waiting.map (·.id)).Nodup)
    (acts : t.act? script deed = some next) : (next.desk.waiting.map (·.id)).Nodup := by
  rcases act?_cases acts with ⟨caller, _, nobody, rfl⟩ | ⟨caller, _, _, rfl⟩ |
    ⟨fetch, _, _, _, rfl⟩ | ⟨span, _, _, rfl⟩
  · rcases look_waiting script t caller with same | joined
    · rwa [same]
    · rw [joined, List.map_append]
      refine List.nodup_append.mpr ⟨apart, List.nodup_singleton _, ?_⟩
      rintro id waits _ new rfl
      obtain ⟨other, member, same⟩ := List.mem_map.mp waits
      exact nobody other member (same.trans (List.mem_singleton.mp new))
  · exact apart.sublist (List.filter_sublist.map _)
  · rw [finish_waiting]
    exact apart.sublist (List.filter_sublist.map _)
  · exact apart

structure Alone (origin : String) (t : RobotsTraffic (String → Nat)) : Prop where
  fetches : ∀ f ∈ t.desk.fetches, f.origin = origin
  callers : ∀ c ∈ t.desk.waiting, c.origin = origin

private theorem Alone.outlook_fetches (alone : t.Alone origin) :
    (t.outlook origin).fetches = t.desk.fetches :=
  List.filter_eq_self.mpr fun f member => beq_iff_eq.mpr (alone.fetches f member)

private theorem Alone.outlook_callers (alone : t.Alone origin) :
    (t.outlook origin).callers = t.desk.waiting :=
  List.filter_eq_self.mpr fun c member => beq_iff_eq.mpr (alone.callers c member)

private theorem Alone.look (alone : t.Alone caller.origin) :
    (t.look script.source caller).Alone caller.origin where
  fetches f member := by
    rw [(look_desk script.source caller t).1] at member
    unfold RobotsDesk.look at member
    rcases t.desk.cache.lookup_cases t.now caller.origin with
      ⟨d, _, _, looked⟩ | ⟨_, looked⟩ | ⟨_, looked⟩ <;> rw [looked] at member
    · exact alone.fetches f member
    · exact alone.fetches f member
    · rcases List.mem_append.mp member with old | new
      · exact alone.fetches f old
      · rw [List.mem_singleton.mp new]
  callers c member := by
    rcases look_waiting script t caller with same | joined
    · exact alone.callers c (same ▸ member)
    · rw [joined] at member
      rcases List.mem_append.mp member with old | new
      · exact alone.callers c old
      · rw [List.mem_singleton.mp new]

private theorem Alone.act? (alone : t.Alone origin) (acts : t.act? script deed = some next)
    (own : deed.concerns origin = true) : next.Alone origin := by
  rcases act?_cases acts with ⟨caller, rfl, _, rfl⟩ | ⟨caller, _, _, rfl⟩ |
    ⟨fetch, _, _, _, rfl⟩ | ⟨span, _, _, rfl⟩
  · obtain rfl : caller.origin = origin := beq_iff_eq.mp own
    exact alone.look
  · exact ⟨alone.fetches, fun c member => alone.callers c (List.mem_filter.mp member).1⟩
  · refine ⟨fun f member => ?_, fun c member => ?_⟩
    · rw [finish_fetches] at member
      exact alone.fetches f (List.mem_filter.mp member).1
    · rw [finish_waiting] at member
      exact alone.callers c (List.mem_filter.mp member).1
  · exact ⟨alone.fetches, alone.callers⟩

/-- Where there is no other origin, all is possible that the outlook allows. -/
theorem Alone.act?_isSome (alone : t.Alone origin)
    (possible : ((t.outlook origin).act? script deed).isSome)
    (own : deed.concerns origin = true) : (t.act? script deed).isSome := by
  cases deed with
  | look caller =>
    rw [Outlook.act?, alone.outlook_callers] at possible
    rw [RobotsTraffic.act?]
    split at possible
    · cases possible
    · next nobody => rw [if_neg nobody]; rfl
  | leave caller =>
    rw [Outlook.act?, alone.outlook_callers] at possible
    rw [RobotsTraffic.act?]
    split at possible
    · next waits => rw [if_pos waits]; rfl
    · cases possible
  | conclude other =>
    obtain rfl : other = origin := beq_iff_eq.mp own
    rw [Outlook.act?, alone.outlook_fetches] at possible
    rw [RobotsTraffic.act?, isAwaited_eq]
    split at possible
    · cases possible
    · next awaited =>
      rw [Option.isSome_map, List.find?_isSome] at possible
      obtain ⟨f, underWay, due⟩ := possible
      rw [if_pos (by rw [Bool.eq_false_iff.mpr awaited]; rfl), Option.isSome_map, List.find?_isSome]
      exact ⟨f, underWay, Bool.and_eq_true_iff.mpr ⟨beq_iff_eq.mpr (alone.fetches f underWay), due⟩⟩
  | pass span =>
    rw [Outlook.act?, alone.outlook_fetches] at possible
    rw [RobotsTraffic.act?]
    split at possible
    · next still =>
      rw [if_pos]
      · rfl
      · intro f underWay awaited
        rw [alone.fetches f underWay, isAwaited_eq] at awaited
        rcases still with empty | still
        · rw [empty] at awaited
          cases awaited
        · exact still f underWay
    · cases possible

/-- A deed of the origin is possible as well where the origin is alone, and leads to the same
outlook. -/
theorem Alone.follows {alone : RobotsTraffic (String → Nat)} (only : alone.Alone origin)
    (same : alone.outlook origin = t.outlook origin) (acts : t.act? script deed = some next)
    (own : deed.concerns origin = true) :
    ∃ after, alone.act? script deed = some after ∧ after.Alone origin ∧
      after.outlook origin = next.outlook origin := by
  have allowed := act?_outlook acts own
  rw [← same] at allowed
  have possible : ((alone.outlook origin).act? script deed).isSome := by
    rw [allowed]
    rfl
  obtain ⟨after, does⟩ := Option.isSome_iff_exists.mp (only.act?_isSome possible own)
  refine ⟨after, does, only.act? does own, ?_⟩
  exact Option.some.inj ((act?_outlook does own).symm.trans allowed)

private theorem Alone.replay {alone : RobotsTraffic (String → Nat)} (sound : t.Sound ttl)
    (apart : (t.desk.waiting.map (·.id)).Nodup) (only : alone.Alone origin)
    (same : alone.outlook origin = t.outlook origin) {deeds : List Deed}
    (replays : t.replay script deeds = some next) :
    ∃ after, alone.replay script (deeds.filter (·.concerns origin)) = some after ∧
      after.Alone origin ∧ after.outlook origin = next.outlook origin := by
  -- Deed by deed: those of the origin happen on both sides, and the others leave its outlook as it is.
  induction deeds generalizing t alone with
  | nil =>
    cases replays
    exact ⟨alone, rfl, only, same⟩
  | cons deed deeds ih =>
    obtain ⟨middle, acts, replays⟩ := Option.bind_eq_some_iff.mp replays
    have soundNow := sound.step (act?_step acts)
    have apartNow := act?_nodup apart acts
    by_cases own : deed.concerns origin = true
    · obtain ⟨beside, does, onlyNow, sameNow⟩ := only.follows same acts own
      obtain ⟨after, goesOn, rest⟩ := ih soundNow apartNow onlyNow sameNow replays
      refine ⟨after, ?_, rest⟩
      rw [List.filter_cons_of_pos own]
      exact Option.bind_eq_some_iff.mpr ⟨beside, does, goesOn⟩
    · have others := Bool.eq_false_iff.mpr own
      have sameNow := same.trans (outlook_of_not_concerns sound apart acts others).symm
      rw [List.filter_cons_of_neg own]
      exact ih soundNow apartNow only sameNow replays

end Runs

/-- A run without the deeds of other origins is still a run, and what concerns this origin is the
same in it. -/
theorem replay_concerns {script : RobotsScript} {ttl : Span} {now : Nat} {deeds : List Deed}
    {t : RobotsTraffic (String → Nat)}
    (replays : (opening ttl (fun _ => 0) now).replay script deeds = some t) (origin : String) :
    Run (opening ttl (fun _ => 0) now) t ∧
    ∃ alone, (opening ttl (fun _ => 0) now).replay script (deeds.filter (·.concerns origin)) =
        some alone ∧
      alone.now = t.now ∧ alone.repliesFor origin = t.repliesFor origin ∧
      alone.recordsFor origin = t.recordsFor origin ∧
      alone.waitingFor origin = t.waitingFor origin := by
  refine ⟨run_of_replay replays, ?_⟩
  have only : (opening ttl (fun _ => 0) now : RobotsTraffic (String → Nat)).Alone origin :=
    ⟨fun _ member => (List.not_mem_nil member).elim, fun _ member => (List.not_mem_nil member).elim⟩
  obtain ⟨alone, goesOn, _, same⟩ :=
    only.replay (opening_sound ttl _ now) List.nodup_nil rfl replays
  exact ⟨alone, goesOn, congrArg Outlook.now same, congrArg Outlook.replies same,
    congrArg Outlook.records same, congrArg Outlook.waiting same⟩

/-! ## Two origins -/

def fitful : RobotsScript := fun origin fetched =>
  if origin = "a" then (5, if fetched = 0 then .error (.network "refused") else .ok .allowAll)
  else (20, .ok .allowAll)

/-- Both origins are asked for at once, twice each, and on each somebody gives up. The fetch of the
slow one is left by all and taken up again. Later the failure counts no more. -/
def errands : List Deed :=
  [.look ⟨1, "a"⟩, .look ⟨2, "b"⟩, .look ⟨3, "a"⟩, .look ⟨4, "b"⟩, .leave ⟨3, "a"⟩, .pass 5,
    .conclude "a", .leave ⟨2, "b"⟩, .pass 10, .leave ⟨4, "b"⟩, .pass 10, .look ⟨5, "b"⟩, .look ⟨6, "a"⟩,
    .conclude "b", .pass 45, .look ⟨7, "a"⟩, .look ⟨8, "b"⟩, .pass 5, .conclude "a"]

theorem errands_apart :
    ∃ t alone, (opening (.ofMillis 60) (fun _ => 0) 0).replay fitful errands = some t ∧
      (opening (.ofMillis 60) (fun _ => 0) 0).replay fitful (errands.filter (·.concerns "a")) =
        some alone ∧
      t.records.map (·.origin) = ["a", "b", "a"] ∧ alone.records.map (·.origin) = ["a", "a"] ∧
      (t.repliesFor "a").map (fun r => (r.visit.caller.id, r.decision.fetchedAt)) =
        [(1, 5), (6, 5), (7, 75)] ∧
      (t.recordsFor "a").map (fun g => (g.begun, g.ended)) = [(70, some 75), (0, some 5)] ∧
      alone.repliesFor "a" = t.repliesFor "a" ∧ alone.recordsFor "a" = t.recordsFor "a" := by
  have replays : (opening (.ofMillis 60) (fun _ => 0) 0).replay fitful errands = some _ := rfl
  obtain ⟨_, alone, goesOn, _, replies, records, _⟩ := replay_concerns replays "a"
  refine ⟨_, alone, rfl, goesOn, rfl, ?_, rfl, rfl, replies, records⟩
  cases goesOn
  rfl

end RobotsTraffic

end FeedIngest.Crawl
