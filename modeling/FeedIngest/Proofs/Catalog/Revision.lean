import Mathlib.Data.List.Basic
import Mathlib.Data.List.Induction
import Mathlib.Data.List.Nodup
import Mathlib.Logic.Relation
import FeedIngest.Proofs.Catalog.Traffic

/-!
# Revisions of a row

Any number of calls update one row. Each puts its value into the row at once, and takes it back if
it cannot be written, but only if the value is still there. What a failed update leaves in the row
depends on the order: a value that was replaced stays in the memory of the update that replaced it,
and comes back with it.
-/

set_option autoImplicit false

namespace FeedIngest.Catalog

open Time (Timestamp)

inductive RowName where
  | feed (id : Int)
  | article (id : Int)
deriving DecidableEq

inductive Row where
  | feed (feed : Feed)
  | article (article : Article)
deriving DecidableEq

inductive Update where
  | feed (before after : Feed)
  | article (before after : Article)

namespace Update

def change : Update → Change
  | feed before after => .feedUpdated before after
  | article before after => .articleUpdated before after

def name : Update → RowName
  | feed _ after => .feed after.id
  | article _ after => .article after.id

def before : Update → Row
  | feed before _ => .feed before
  | article before _ => .article before

def after : Update → Row
  | feed _ after => .feed after
  | article _ after => .article after

def reply : Update → Reply
  | feed _ after => .feed after
  | article _ after => .article after

end Update

def Request.updates? : Request → Option RowName
  | .updateFeed feed => some (.feed feed.id)
  | .updateArticle article => some (.article article.id)
  | .insertFeed _ | .createArticles _ => none

namespace Store

variable {s : Store}

def row? (s : Store) : RowName → Option Row
  | .feed id => (s.feeds.get? id).map .feed
  | .article id => (s.articles.get? id).map .article

/-- What an update finds in its row is what it keeps for later. -/
theorem begin_update {name : RowName} {request : Request} (now : Timestamp)
    (updates : request.updates? = some name) :
    (∃ fault, request.begin now s = (.answered (.error fault), s)) ∨
      ∃ (update : Update) (next : Store),
        request.begin now s = (.pending update.change update.reply, next) ∧
        update.name = name ∧ s.row? name = some update.before ∧
        next.row? name = some update.after := by
  cases request with
  | updateFeed feed =>
    cases updates
    cases found : s.feeds.get? feed.id with
    | none => exact .inl ⟨_, by simp only [Request.begin, Store.updateFeed, found]; rfl⟩
    | some before =>
      refine .inr ⟨.feed before { feed with updatedAt := now }, _,
        by simp only [Request.begin, Store.updateFeed, found]; rfl, rfl, ?_, ?_⟩
      · simp only [row?, found]
        rfl
      · simp only [row?, Shelf.get?_put, if_pos]
        rfl
  | updateArticle article =>
    cases updates
    cases found : s.articles.get? article.id with
    | none => exact .inl ⟨_, by simp only [Request.begin, Store.updateArticle, found]; rfl⟩
    | some before =>
      by_cases same : before.key = article.key
      · refine .inr ⟨.article before { article with updatedAt := now }, _,
          by simp only [Request.begin, Store.updateArticle, found, if_pos same]; rfl, rfl, ?_, ?_⟩
        · simp only [row?, found]
          rfl
        · simp only [row?, Shelf.get?_put, if_pos]
          rfl
      · exact .inl ⟨_, by simp only [Request.begin, Store.updateArticle, found, if_neg same]; rfl⟩
  | insertFeed => cases updates
  | createArticles => cases updates

/-- An update whose value is in its row is taken back from it. -/
theorem undo_row (update : Update) (stands : s.row? update.name = some update.after) :
    (s.undo update.change).row? update.name = some update.before := by
  cases update with
  | feed before after =>
    have found : s.feeds.get? after.id = some after := by
      simpa [row?, Update.name, Update.after] using stands
    simp only [Update.change, Store.undo, if_pos found, Update.name, row?, Shelf.get?_put]
    rfl
  | article before after =>
    have found : s.articles.get? after.id = some after := by
      simpa [row?, Update.name, Update.after] using stands
    simp only [Update.change, Store.undo, if_pos found, Update.name, row?, Shelf.get?_put]
    rfl

/-- An update whose value was replaced changes nothing when it is taken back. -/
theorem undo_of_replaced (update : Update) (replaced : s.row? update.name ≠ some update.after) :
    s.undo update.change = s := by
  cases update with
  | feed before after =>
    have other : s.feeds.get? after.id ≠ some after := by
      simpa [row?, Update.name, Update.after] using replaced
    simp only [Update.change, Store.undo, if_neg other]
  | article before after =>
    have other : s.articles.get? after.id ≠ some after := by
      simpa [row?, Update.name, Update.after] using replaced
    simp only [Update.change, Store.undo, if_neg other]

end Store

/-! ## The updates of one row -/

/-- How far an update has come, or how it ended. -/
inductive Fate where
  | writing
  | written
  | failing
  /-- It failed, and the row got back what it held before. -/
  | restored
  /-- It failed, and its value had been replaced. -/
  | overtaken
deriving DecidableEq

def Fate.IsOver (p : Fate) : Prop := p ≠ .writing ∧ p ≠ .failing

structure Revision where
  update : Update
  fate : Fate

def Revision.stands (r : Revision) : Bool := r.fate ≠ .restored

structure RowUpdates where
  store : Store
  revisions : List Revision

namespace RowUpdates

inductive Step (name : RowName) : RowUpdates → RowUpdates → Prop where
  /-- The row is left alone: a call is refused, or has to do with other rows. -/
  | elsewhere {store next : Store} {revisions : List Revision} :
      next.row? name = store.row? name → Step name ⟨store, revisions⟩ ⟨next, revisions⟩
  | begin {store next : Store} {revisions : List Revision} {request : Request} {now : Timestamp}
      {update : Update} : request.updates? = some name →
      request.begin now store = (.pending update.change update.reply, next) →
      Step name ⟨store, revisions⟩ ⟨next, revisions ++ [⟨update, .writing⟩]⟩
  | write {store : Store} {earlier later : List Revision} {update : Update} :
      Step name ⟨store, earlier ++ ⟨update, .writing⟩ :: later⟩
        ⟨store, earlier ++ ⟨update, .written⟩ :: later⟩
  | fail {store : Store} {earlier later : List Revision} {update : Update} :
      Step name ⟨store, earlier ++ ⟨update, .writing⟩ :: later⟩
        ⟨store, earlier ++ ⟨update, .failing⟩ :: later⟩
  | restore {store : Store} {earlier later : List Revision} {update : Update} :
      store.row? name = some update.after →
      Step name ⟨store, earlier ++ ⟨update, .failing⟩ :: later⟩
        ⟨store.undo update.change, earlier ++ ⟨update, .restored⟩ :: later⟩
  | overtake {store : Store} {earlier later : List Revision} {update : Update} :
      store.row? name ≠ some update.after →
      Step name ⟨store, earlier ++ ⟨update, .failing⟩ :: later⟩
        ⟨store.undo update.change, earlier ++ ⟨update, .overtaken⟩ :: later⟩

abbrev Run (name : RowName) : RowUpdates → RowUpdates → Prop := Relation.ReflTransGen (Step name)

/-! ## The calls of an archive -/

section Archive

variable {name : RowName} {a : Archive} {earlier later : List Revision} {update : Update}

/-- When an archive begins an update, the row has one more revision, or the call is refused. -/
theorem step_begin {request : Request} (now : Timestamp) (updates : request.updates? = some name)
    (revisions : List Revision) :
    ∃ more, Step name ⟨a.store, revisions⟩
      ⟨(a.begin fun s => request.begin now s).2.store, revisions ++ more⟩ := by
  obtain ⟨_, sameStore⟩ := Traffic.begin_archive (fun s => request.begin now s) a
  rcases a.store.begin_update now updates with ⟨fault, refused⟩ | ⟨update, next, begins, _⟩
  · rw [sameStore, refused]
    refine ⟨[], ?_⟩
    rw [List.append_nil]
    exact .elsewhere rfl
  · rw [sameStore, begins]
    exact ⟨_, .begin updates begins⟩

/-- When an archive settles an update, it is written, or it fails and is taken back. -/
theorem run_settle :
    ∃ fate : Fate, fate.IsOver ∧
      Run name ⟨a.store, earlier ++ ⟨update, .writing⟩ :: later⟩
        ⟨(a.settle update.change).2.store, earlier ++ ⟨update, fate⟩ :: later⟩ ∧
      ((a.settle update.change).1 = .ok () ↔ fate = .written) := by
  rcases Traffic.settle_cases a update.change with ⟨told, same⟩ | ⟨reason, told, same⟩
  · rw [told, same]
    exact ⟨.written, ⟨nofun, nofun⟩, .single .write, by simp⟩
  · rw [told, same]
    by_cases stands : a.store.row? name = some update.after
    · exact ⟨.restored, ⟨nofun, nofun⟩, .head .fail (.single (.restore stands)), by simp⟩
    · exact ⟨.overtaken, ⟨nofun, nofun⟩, .head .fail (.single (.overtake stands)), by simp⟩

end Archive

/-! ## What the row holds -/

def standing (revisions : List Revision) : List Update :=
  (revisions.filter Revision.stands).map (·.update)

def Linked (initial : Row) : List Update → Prop
  | [] => True
  | update :: rest => update.before = initial ∧ Linked update.after rest

def final (initial : Row) : List Update → Row
  | [] => initial
  | update :: rest => final update.after rest

theorem final_append (initial : Row) (updates : List Update) (last : Update) :
    final initial (updates ++ [last]) = last.after := by
  induction updates generalizing initial with
  | nil => rfl
  | cons first rest ih => exact ih first.after

theorem linked_append_iff {initial : Row} {updates : List Update} {last : Update} :
    Linked initial (updates ++ [last]) ↔
      Linked initial updates ∧ last.before = final initial updates := by
  induction updates generalizing initial with
  | nil => exact ⟨fun linked => ⟨trivial, linked.1⟩, fun linked => ⟨linked.2, trivial⟩⟩
  | cons first rest ih =>
    rw [List.cons_append, Linked, Linked, ih, final, and_assoc]

/-- The row holds what the last standing update put there, and each of these found what the one
before it had put there. -/
structure Sound (name : RowName) (initial : Row) (p : RowUpdates) : Prop where
  holds : p.store.row? name = some (final initial (standing p.revisions))
  linked : Linked initial (standing p.revisions)
  named : ∀ r ∈ p.revisions, r.update.name = name

def values (p : RowUpdates) : List Row := p.revisions.map (·.update.after)

section Steps

variable {name : RowName} {initial : Row} {p next : RowUpdates} {store : Store}
  {earlier later : List Revision} {update : Update}

theorem Step.values (step : Step name p next) : ∃ more, next.values = p.values ++ more := by
  cases step with
  | elsewhere => exact ⟨[], (List.append_nil _).symm⟩
  | begin => exact ⟨_, List.map_append⟩
  | write | fail | restore | overtake => exact ⟨[], by simp [RowUpdates.values]⟩

theorem standing_append (earlier later : List Revision) :
    standing (earlier ++ later) = standing earlier ++ standing later := by
  simp [standing]

theorem standing_cons_of_stands {r : Revision} (stands : r.stands = true) (later : List Revision) :
    standing (r :: later) = r.update :: standing later := by
  simp [standing, stands]

theorem standing_cons_restored (update : Update) (later : List Revision) :
    standing (⟨update, .restored⟩ :: later) = standing later := rfl

/-- An update that goes on without touching the row stays where it is. -/
theorem Sound.move {fate fateToo : Fate}
    (sound : Sound name initial ⟨store, earlier ++ ⟨update, fate⟩ :: later⟩)
    (stood : fate ≠ .restored) (stands : fateToo ≠ .restored) :
    Sound name initial ⟨store, earlier ++ ⟨update, fateToo⟩ :: later⟩ := by
  have same : standing (earlier ++ ⟨update, fateToo⟩ :: later) =
      standing (earlier ++ ⟨update, fate⟩ :: later) := by
    rw [standing_append, standing_append, standing_cons_of_stands (by simpa [Revision.stands]),
      standing_cons_of_stands (by simpa [Revision.stands])]
  refine ⟨?_, ?_, ?_⟩
  · show store.row? name = some (final initial (standing _))
    rw [same]
    exact sound.holds
  · show Linked initial (standing _)
    rw [same]
    exact sound.linked
  · intro r member
    rcases List.mem_append.mp member with first | rest
    · exact sound.named r (List.mem_append_left _ first)
    · rcases List.mem_cons.mp rest with rfl | last
      · exact sound.named ⟨update, fate⟩ (by simp)
      · exact sound.named r (by simp [last])

/-- The update whose value is in the row is the last standing one. -/
theorem Sound.standing_later_eq_nil {fate : Fate}
    (sound : Sound name initial ⟨store, earlier ++ ⟨update, fate⟩ :: later⟩)
    (stands : fate ≠ .restored)
    (distinct : (values ⟨store, earlier ++ ⟨update, fate⟩ :: later⟩).Nodup)
    (here : store.row? name = some update.after) : standing later = [] := by
  rcases List.eq_nil_or_concat (standing later) with nothing | ⟨rest, last, split⟩
  · exact nothing
  · rw [List.concat_eq_append] at split
    have holds := sound.holds
    simp only [standing_append,
      standing_cons_of_stands (r := ⟨update, fate⟩) (by simpa [Revision.stands]), split,
      ← List.cons_append, ← List.append_assoc, final_append] at holds
    have same : last.after = update.after := Option.some.inj (holds.symm.trans here)
    -- The last standing update is a later one, and no value was put into the row twice.
    have member : last ∈ standing later := by rw [split]; simp
    obtain ⟨r, among, rfl⟩ := List.mem_map.mp member
    have inside : r ∈ later := List.mem_of_mem_filter among
    simp only [values, List.map_append, List.map_cons] at distinct
    have apart := (List.nodup_cons.mp (List.nodup_append.mp distinct).2.1).1
    exact absurd (List.mem_map.mpr ⟨r, inside, same⟩) apart

theorem Sound.step (sound : Sound name initial p) (distinct : p.values.Nodup)
    (step : Step name p next) : Sound name initial next := by
  cases step with
  | elsewhere same => exact ⟨same.trans sound.holds, sound.linked, sound.named⟩
  | @begin store next revisions request now update updates begins =>
    rcases store.begin_update now updates with
      ⟨fault, refused⟩ | ⟨updateToo, nextToo, pending, made⟩
    · rw [begins] at refused
      cases refused
    · obtain ⟨named, found, holds⟩ := made
      have same : update = updateToo := by
        rw [begins] at pending
        cases update <;> cases updateToo <;> cases pending <;> rfl
      subst same
      cases begins.symm.trans pending
      have more : standing (revisions ++ [⟨update, .writing⟩]) = standing revisions ++ [update] :=
        standing_append _ _
      have before : update.before = final initial (standing revisions) :=
        Option.some.inj (found.symm.trans sound.holds)
      refine ⟨?_, ?_, ?_⟩
      · show _ = some (final initial (standing _))
        rw [more, final_append]
        exact holds
      · show Linked initial (standing _)
        rw [more, linked_append_iff]
        exact ⟨sound.linked, before⟩
      · intro r member
        rcases List.mem_append.mp member with old | new
        · exact sound.named r old
        · rw [List.mem_singleton.mp new]
          exact named
  | write => exact sound.move nofun nofun
  | fail => exact sound.move nofun nofun
  | @restore store earlier later update here =>
    have named : update.name = name := sound.named ⟨update, .failing⟩ (by simp)
    have nothing := sound.standing_later_eq_nil nofun distinct here
    have before :
        standing (earlier ++ ⟨update, .failing⟩ :: later) = standing earlier ++ [update] := by
      rw [standing_append, standing_cons_of_stands rfl, nothing]
    have after : standing (earlier ++ ⟨update, .restored⟩ :: later) = standing earlier := by
      rw [standing_append, standing_cons_restored, nothing, List.append_nil]
    have linked := sound.linked
    simp only [before, linked_append_iff] at linked
    refine ⟨?_, ?_, ?_⟩
    · show (store.undo update.change).row? name = some (final initial (standing _))
      rw [after, ← linked.2, ← named]
      exact Store.undo_row update (named ▸ here)
    · show Linked initial (standing _)
      rw [after]
      exact linked.1
    · intro r member
      rcases List.mem_append.mp member with first | rest
      · exact sound.named r (List.mem_append_left _ first)
      · rcases List.mem_cons.mp rest with rfl | last
        · exact named
        · exact sound.named r (by simp [last])
  | @overtake store earlier later update replaced =>
    have named : update.name = name := sound.named ⟨update, .failing⟩ (by simp)
    rw [Store.undo_of_replaced update (named ▸ replaced)]
    exact sound.move nofun nofun

theorem Sound.run (sound : Sound name initial p) (run : Run name p next)
    (distinct : next.values.Nodup) : Sound name initial next := by
  induction run with
  | refl => exact sound
  | tail _ last ih =>
    obtain ⟨more, same⟩ := last.values
    have before := (List.nodup_append.mp (same ▸ distinct)).1
    exact (ih before).step before last

end Steps

/-! ## When nothing of a failed update stays -/

/-- A failed update has the last word: its value had been replaced when it was taken back, and
all updates that began after it failed too and were taken back from the row. -/
def Resurfaces (p : RowUpdates) (update : Update) : Prop :=
  ∃ earlier later, p.revisions = earlier ++ ⟨update, .overtaken⟩ :: later ∧
    ∀ other ∈ later, other.fate = .restored

section Returned

variable {name : RowName} {initial : Row} {p : RowUpdates}

private theorem standing_eq_nil_of_restored {revisions : List Revision}
    (restored : ∀ r ∈ revisions, r.fate = .restored) : standing revisions = [] := by
  rw [standing, List.map_eq_nil_iff, List.filter_eq_nil_iff]
  intro r member
  simp [Revision.stands, restored r member]

/-- An update that resurfaces is the last standing one. -/
theorem Resurfaces.standing {update : Update} (resurfaces : p.Resurfaces update) :
    ∃ updates, standing p.revisions = updates ++ [update] := by
  obtain ⟨earlier, later, split, restored⟩ := resurfaces
  refine ⟨RowUpdates.standing earlier, ?_⟩
  rw [split, standing_append, standing_cons_of_stands rfl, standing_eq_nil_of_restored restored]

end Returned

def titled (title : String) : Feed := ⟨1, "u", title, none, none, none, .epoch, .epoch⟩

def shelved (title : String) : Store :=
  { Store.empty with lastFeedId := 1, feeds := Shelf.empty.put 1 (titled title) }

end RowUpdates

end FeedIngest.Catalog
