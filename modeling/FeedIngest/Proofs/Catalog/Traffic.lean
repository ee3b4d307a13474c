import Mathlib.Data.List.Nodup
import Mathlib.Logic.Relation
import FeedIngest.Catalog.Archive
import FeedIngest.Proofs.Catalog.Store

/-!
# The traffic on a store

Any number of calls are made to one store. Each of them changes the store at once, waits until its
change is written, and takes the change back if that fails; other calls come in between at every
point. The store stays sound whatever the order is, and no id is given twice.
-/

set_option autoImplicit false

namespace FeedIngest.Catalog

open Time (Timestamp)

inductive Request where
  | insertFeed (draft : DraftFeed)
  | updateFeed (feed : Feed)
  | createArticles (drafts : List Draft)
  | updateArticle (article : Article)

inductive Reply where
  | feed (feed : Feed)
  | articles (articles : List Article)
  | article (article : Article)

def Call.map {α β : Type} (f : α → β) : Call α → Call β
  | .answered answer => .answered (answer.map f)
  | .pending change answer => .pending change (f answer)

@[simp] theorem Call.change?_map {α β : Type} (f : α → β) (call : Call α) :
    (call.map f).change? = call.change? := by
  cases call <;> rfl

private theorem Store.Begins.map {s next : Store} {α β : Type} {call : Call α}
    (begins : s.Begins call next) (f : α → β) : s.Begins (call.map f) next := by
  obtain ⟨sound, keeps, holds, keys, feedIds, articleIds, lastFeedId, lastArticleId⟩ := begins
  rw [← Call.change?_map f] at holds keys feedIds articleIds
  exact ⟨sound, keeps, holds, keys, feedIds, articleIds, lastFeedId, lastArticleId⟩

def Request.begin (now : Timestamp) (s : Store) : Request → Call Reply × Store
  | .insertFeed draft => ((s.insertFeed now draft).1.map .feed, (s.insertFeed now draft).2)
  | .updateFeed feed => ((s.updateFeed now feed).1.map .feed, (s.updateFeed now feed).2)
  | .createArticles drafts =>
    ((s.createArticles now drafts).1.map .articles, (s.createArticles now drafts).2)
  | .updateArticle article =>
    ((s.updateArticle now article).1.map .article, (s.updateArticle now article).2)

/-- An update keeps the link that the feed has. -/
def Request.KeepsUrl (s : Store) : Request → Prop
  | .updateFeed feed => ∀ row, s.feeds.get? feed.id = some row → row.url = feed.url
  | _ => True

inductive Phase where
  /-- It was answered at once and changed nothing. -/
  | answered (answer : Except Fault Reply)
  /-- Its change is being written. -/
  | writing (change : Change) (reply : Reply)
  /-- Its change was written, and it was answered. -/
  | written (change : Change) (reply : Reply)
  /-- Its change could not be written and has yet to be taken back. -/
  | failing (change : Change) (reason : String)
  /-- Its change was taken back, and the failure was told. -/
  | undone (change : Change) (reason : String)

namespace Phase

def ofCall : Call Reply → Phase
  | .answered answer => .answered answer
  | .pending change reply => .writing change reply

def change? : Phase → Option Change
  | .answered _ => none
  | .writing change _ | .written change _ | .failing change _ | .undone change _ => some change

def open? : Phase → Option Change
  | .writing change _ | .failing change _ => some change
  | _ => none

@[simp] theorem change?_ofCall (call : Call Reply) : (ofCall call).change? = call.change? := by
  cases call <;> rfl

@[simp] theorem open?_ofCall (call : Call Reply) : (ofCall call).open? = call.change? := by
  cases call <;> rfl

theorem change?_of_open? {p : Phase} {change : Change} (isOpen : p.open? = some change) :
    p.change? = some change := by
  cases p <;> simp_all [open?, change?]

end Phase

structure Visit where
  request : Request
  phase : Phase

structure Traffic where
  store : Store
  visits : List Visit

namespace Traffic

def start (opened : Store) : Traffic := ⟨opened, []⟩

def begun (t : Traffic) (now : Timestamp) (request : Request) : Traffic where
  store := (request.begin now t.store).2
  visits := t.visits ++ [⟨request, .ofCall (request.begin now t.store).1⟩]

inductive Step : Traffic → Traffic → Prop where
  | begin {t : Traffic} {request : Request} {now : Timestamp} : request.KeepsUrl t.store →
      Step t (t.begun now request)
  | write {store : Store} {earlier later : List Visit} {request : Request} {change : Change}
      {reply : Reply} :
      Step ⟨store, earlier ++ ⟨request, .writing change reply⟩ :: later⟩
        ⟨store, earlier ++ ⟨request, .written change reply⟩ :: later⟩
  | fail {store : Store} {earlier later : List Visit} {request : Request} {change : Change}
      {reply : Reply} {reason : String} :
      Step ⟨store, earlier ++ ⟨request, .writing change reply⟩ :: later⟩
        ⟨store, earlier ++ ⟨request, .failing change reason⟩ :: later⟩
  | undo {store : Store} {earlier later : List Visit} {request : Request} {change : Change}
      {reason : String} :
      Step ⟨store, earlier ++ ⟨request, .failing change reason⟩ :: later⟩
        ⟨store.undo change, earlier ++ ⟨request, .undone change reason⟩ :: later⟩

abbrev Run : Traffic → Traffic → Prop := Relation.ReflTransGen Step

/-! ## The calls of an archive -/

/-- An archive begins a call as its store does. -/
theorem begin_archive {α : Type} (call : Store → Call α × Store) (a : Archive) :
    (a.begin call).1 = (call a.store).1 ∧ (a.begin call).2.store = (call a.store).2 := by
  unfold Archive.begin
  rcases call a.store with ⟨_ | _, store⟩ <;> exact ⟨rfl, rfl⟩

/-- So the traffic on its store has one more call. -/
theorem step_begin (a : Archive) (now : Timestamp) {request : Request}
    (keepsUrl : request.KeepsUrl a.store) (visits : List Visit) :
    Step ⟨a.store, visits⟩ ⟨(a.begin fun s => request.begin now s).2.store,
      visits ++ [⟨request, .ofCall (a.begin fun s => request.begin now s).1⟩]⟩ := by
  obtain ⟨sameCall, sameStore⟩ := begin_archive (fun s => request.begin now s) a
  rw [sameCall, sameStore]
  exact .begin keepsUrl

private theorem persist_store (a : Archive) (name : TableName) :
    (a.persist name).2.store = a.store := by
  unfold Archive.persist
  cases a.directory <;> rfl

/-- An archive settles a change by writing it, or else takes it back. -/
theorem settle_cases (a : Archive) (change : Change) :
    ((a.settle change).1 = .ok () ∧ (a.settle change).2.store = a.store) ∨
      ∃ reason, (a.settle change).1 = .error (.persistence reason) ∧
        (a.settle change).2.store = a.store.undo change := by
  have same := persist_store { a with unsettled := a.unsettled - 1 } change.table
  unfold Archive.settle
  cases persisted : { a with unsettled := a.unsettled - 1 }.persist change.table with
  | mk result left =>
    rw [persisted] at same
    cases result with
    | ok => exact .inl ⟨rfl, same⟩
    | error reason => exact .inr ⟨reason, rfl, congrArg (Store.undo change) same⟩

/-- So the call that made the change is answered, or it fails and its change is taken back. -/
theorem run_settle (a : Archive) {before after : List Visit} {request : Request} {change : Change}
    {reply : Reply} :
    ∃ phase : Phase, Run ⟨a.store, before ++ ⟨request, .writing change reply⟩ :: after⟩
        ⟨(a.settle change).2.store, before ++ ⟨request, phase⟩ :: after⟩ ∧
      ((a.settle change).1 = .ok () ∧ phase = .written change reply ∨
        ∃ reason, (a.settle change).1 = .error (.persistence reason) ∧
          phase = .undone change reason) := by
  rcases settle_cases a change with ⟨told, same⟩ | ⟨reason, told, same⟩
  · rw [told, same]
    exact ⟨.written change reply, .single .write, .inl ⟨rfl, rfl⟩⟩
  · rw [told, same]
    exact ⟨.undone change reason, .head .fail (.single .undo), .inr ⟨reason, rfl, rfl⟩⟩

/-! ## Opening -/

/-- A store that may be opened: an empty one, or one of tables that were written before. -/
inductive Opened : Store → Prop where
  | empty : Opened .empty
  | tables {feeds articles : Store} {t u : Traffic} : Opened feeds → Run (start feeds) t →
      Opened articles → Run (start articles) u →
      Opened (.ofTables t.store.feedTable u.store.articleTable)

/-! ## Ids -/

def ids (of : Change → List Int) (visits : List Visit) : List Int :=
  visits.flatMap fun visit => visit.phase.change?.toList.flatMap of

def feedIds (t : Traffic) : List Int := ids Change.feedIds t.visits

def articleIds (t : Traffic) : List Int := ids Change.articleIds t.visits

section Ids

variable {of : Change → List Int} {given : List Int} {last next : Int}
  {visits earlier later : List Visit} {visit moved : Visit}

structure GivenOnce (of : Change → List Int) (given : List Int) (last : Int)
    (visits : List Visit) : Prop where
  nodup : (given ++ ids of visits).Nodup
  bounded : ∀ id ∈ given ++ ids of visits, id ≤ last

namespace GivenOnce

/-- A new call gives new ids. -/
theorem begin (once : GivenOnce of given last visits) (rises : last ≤ next)
    (new : ∀ change ∈ visit.phase.change?, (of change).Nodup ∧
      ∀ id ∈ of change, last < id ∧ id ≤ next) :
    GivenOnce of given next (visits ++ [visit]) := by
  have all : given ++ ids of (visits ++ [visit]) =
      (given ++ ids of visits) ++ visit.phase.change?.toList.flatMap of := by
    simp [ids]
  cases made : visit.phase.change? with
  | none =>
    rw [made, Option.toList_none, List.flatMap_nil, List.append_nil] at all
    exact ⟨all ▸ once.nodup, fun id member => Int.le_trans (once.bounded id (all ▸ member)) rises⟩
  | some change =>
    rw [made, Option.toList_some, List.flatMap_singleton] at all
    obtain ⟨nodup, between⟩ := new change made
    refine ⟨all ▸ List.nodup_append.mpr ⟨once.nodup, nodup, fun old given id member same => ?_⟩,
      fun id member => ?_⟩
    · have := once.bounded old given
      have := (between id member).1
      omega
    · rcases List.mem_append.mp (all ▸ member) with old | new
      · exact Int.le_trans (once.bounded id old) rises
      · exact (between id new).2

/-- A call that has made its change gives no more ids. -/
theorem move (once : GivenOnce of given last (earlier ++ visit :: later))
    (same : moved.phase.change? = visit.phase.change?) :
    GivenOnce of given last (earlier ++ moved :: later) := by
  have all : ids of (earlier ++ moved :: later) = ids of (earlier ++ visit :: later) := by
    simp [ids, same]
  exact ⟨all ▸ once.nodup, all ▸ once.bounded⟩

/-- Two calls have no id in common. -/
theorem apart (once : GivenOnce of given last (earlier ++ visit :: later)) {other : Visit}
    (among : other ∈ earlier ++ later) {change changeToo : Change}
    (made : visit.phase.change? = some change) (madeToo : other.phase.change? = some changeToo) :
    ∀ id ∈ of changeToo, id ∉ of change := by
  intro id given givenToo
  have nodup := (List.nodup_append.mp once.nodup).2.1
  simp only [ids, List.flatMap_append, List.flatMap_cons, made, Option.toList_some,
    List.flatMap_nil, List.append_nil] at nodup
  have here : ∀ visits : List Visit, other ∈ visits → id ∈ visits.flatMap fun visit =>
      visit.phase.change?.toList.flatMap of := fun visits member =>
    List.mem_flatMap.mpr ⟨other, member, by simpa [madeToo] using given⟩
  obtain ⟨_, tail, apart⟩ := List.nodup_append.mp nodup
  rcases List.mem_append.mp among with first | last
  · exact apart id (here earlier first) id (List.mem_append_left _ givenToo) rfl
  · exact (List.nodup_append.mp tail).2.2 id givenToo id (here later last) rfl

end GivenOnce

end Ids

/-! ## What holds at every moment -/

/-- A call does to a sound store what `Store.Begins` says. -/
theorem begins {s : Store} (sound : s.Sound) (now : Timestamp) {request : Request}
    (keepsUrl : request.KeepsUrl s) :
    s.Begins (request.begin now s).1 (request.begin now s).2 := by
  cases request with
  | insertFeed draft => exact (sound.insertFeed now draft).map _
  | updateFeed feed => exact (sound.updateFeed now keepsUrl).map _
  | createArticles drafts => exact (sound.createArticles now drafts).map _
  | updateArticle article => exact (sound.updateArticle now article).map _

/-- The store is sound, the changes that may still be taken back are there, and no id was given
twice, not even one that was given before the store was opened. -/
structure Sound (opened : Store) (t : Traffic) : Prop where
  store : t.store.Sound
  holds : ∀ visit ∈ t.visits, ∀ change, visit.phase.open? = some change → t.store.Holds change
  feedIds : GivenOnce Change.feedIds opened.feeds.ids t.store.lastFeedId t.visits
  articleIds : GivenOnce Change.articleIds opened.articles.ids t.store.lastArticleId t.visits

/-- When one call goes on, the others stay where they are. -/
theorem eq_or_mem {α : Type} {earlier later : List α} {moved other : α}
    (member : other ∈ earlier ++ moved :: later) : other = moved ∨ other ∈ earlier ++ later := by
  rcases List.mem_append.mp member with first | rest
  · exact .inr (List.mem_append_left _ first)
  · exact (List.mem_cons.mp rest).imp_right fun last => List.mem_append_right _ last

theorem mem_of_among {α : Type} {earlier later : List α} (visit : α) {other : α}
    (among : other ∈ earlier ++ later) : other ∈ earlier ++ visit :: later := by
  rcases List.mem_append.mp among with first | last
  · exact List.mem_append_left _ first
  · exact List.mem_append_right _ (List.mem_cons_of_mem _ last)

theorem start_sound {opened : Store} (sound : opened.Sound) : (start opened).Sound opened where
  store := sound
  holds := by simp [start]
  feedIds := by
    refine ⟨by simpa [start, ids] using opened.feeds.nodup_ids, fun id member => ?_⟩
    obtain ⟨row, found⟩ := Shelf.mem_ids.mp (by simpa [start, ids] using member)
    exact sound.feeds.bounded found
  articleIds := by
    refine ⟨by simpa [start, ids] using opened.articles.nodup_ids, fun id member => ?_⟩
    obtain ⟨row, found⟩ := Shelf.mem_ids.mp (by simpa [start, ids] using member)
    exact sound.articles.bounded found

namespace Sound

variable {opened store : Store} {t next : Traffic} {earlier later : List Visit}
  {visit moved : Visit}

theorem begin (sound : t.Sound opened) {request : Request} (now : Timestamp)
    (keepsUrl : request.KeepsUrl t.store) : (t.begun now request).Sound opened := by
  have begins := begins sound.store now keepsUrl
  refine ⟨begins.sound, ?_, ?_, ?_⟩
  · intro visit member change isOpen
    rcases List.mem_append.mp member with old | new
    · exact (sound.holds visit old change isOpen).keeps begins.keeps (fun _ _ => List.not_mem_nil)
        (fun _ _ => List.not_mem_nil)
    · cases List.mem_singleton.mp new
      rw [Phase.open?_ofCall] at isOpen
      exact begins.holds change isOpen
  · refine sound.feedIds.begin begins.lastFeedId fun change made => begins.feedIds change ?_
    rwa [Phase.change?_ofCall] at made
  · refine sound.articleIds.begin begins.lastArticleId fun change made =>
      begins.articleIds change ?_
    rwa [Phase.change?_ofCall] at made

/-- A call goes on without touching the store. -/
theorem move (sound : Sound opened ⟨store, earlier ++ visit :: later⟩)
    (same : moved.phase.change? = visit.phase.change?)
    (closes : ∀ change, moved.phase.open? = some change → visit.phase.open? = some change) :
    Sound opened ⟨store, earlier ++ moved :: later⟩ where
  store := sound.store
  holds other member change isOpen := by
    rcases eq_or_mem member with rfl | among
    · exact sound.holds visit (by simp) change (closes change isOpen)
    · exact sound.holds other (mem_of_among visit among) change isOpen
  feedIds := sound.feedIds.move same
  articleIds := sound.articleIds.move same

/-- A change that could not be written is taken back; the changes of others stay. -/
theorem undo {request : Request} {change : Change} {reason : String}
    (sound : Sound opened ⟨store, earlier ++ ⟨request, .failing change reason⟩ :: later⟩) :
    Sound opened ⟨store.undo change, earlier ++ ⟨request, .undone change reason⟩ :: later⟩ := by
  have holds : store.Holds change :=
    sound.holds ⟨request, .failing change reason⟩ (by simp) change rfl
  refine ⟨sound.store.undo holds, fun other member changeToo isOpen => ?_, ?_, ?_⟩
  · rcases eq_or_mem member with rfl | among
    · cases isOpen
    · have made := Phase.change?_of_open? isOpen
      have stood := sound.holds other (mem_of_among _ among) changeToo isOpen
      exact stood.keeps (Store.undo_keepsBut holds) (sound.feedIds.apart among rfl made)
        (sound.articleIds.apart among rfl made)
  · show GivenOnce _ _ (store.undo change).lastFeedId _
    rw [Store.undo_lastFeedId]
    exact sound.feedIds.move rfl
  · show GivenOnce _ _ (store.undo change).lastArticleId _
    rw [Store.undo_lastArticleId]
    exact sound.articleIds.move rfl

theorem step (sound : t.Sound opened) (step : Step t next) : next.Sound opened := by
  cases step with
  | @begin _ request now keepsUrl => exact sound.begin now keepsUrl
  | write => exact sound.move rfl fun _ isOpen => by cases isOpen
  | fail => exact sound.move rfl fun _ isOpen => isOpen
  | undo => exact sound.undo

theorem run (sound : t.Sound opened) (run : Run t next) : next.Sound opened := by
  induction run with
  | refl => exact sound
  | tail _ last ih => exact ih.step last

end Sound

/-- A store that may be opened is sound. -/
theorem Opened.sound {opened : Store} (loaded : Opened opened) : opened.Sound := by
  induction loaded with
  | empty => exact Store.empty_sound
  | tables _ run _ runToo ih ihToo =>
    exact ((start_sound ih).run run).store.ofTables ((start_sound ihToo).run runToo).store

/-- Whatever calls are made in whatever order, and whichever of them fail, the store stays sound
and no id is given twice. -/
theorem sound_of_run {opened : Store} {t : Traffic} (loaded : Opened opened)
    (run : Run (start opened) t) :
    t.store.Sound ∧ (opened.feeds.ids ++ t.feedIds).Nodup ∧
      (opened.articles.ids ++ t.articleIds).Nodup := by
  have sound := (start_sound loaded.sound).run run
  exact ⟨sound.store, sound.feedIds.nodup, sound.articleIds.nodup⟩

/-! ## Two calls that overlap -/

def sketch (url : String) : Draft :=
  ⟨1, url, url, none, none, .epoch⟩

def sketched (url : String) (id : Int) : Article := (sketch url).toArticle id .epoch

/-- A call creates one article; another one, which finds it there, creates a second article, and
both articles are being written. -/
def overlap : Traffic :=
  ((start .empty).begun .epoch (.createArticles [sketch "a"])).begun
    .epoch (.createArticles [sketch "a", sketch "b"])

def latter : Visit where
  request := .createArticles [sketch "a", sketch "b"]
  phase := .written (.articlesCreated [sketched "b" 2]) (.articles [sketched "b" 2])

/-- The second call has been answered, and the change of the first one was taken back. -/
def crossing : Traffic where
  store := overlap.store.undo (.articlesCreated [sketched "a" 1])
  visits :=
    [⟨.createArticles [sketch "a"], .undone (.articlesCreated [sketched "a" 1]) "disk full"⟩,
      latter]

theorem run_crossing : Run (start .empty) crossing := by
  have begins : Run (start .empty) overlap :=
    .head (@Step.begin (start .empty) (.createArticles [sketch "a"]) _ trivial)
      (.single (@Step.begin _ (.createArticles [sketch "a", sketch "b"]) _ trivial))
  refine begins.trans (.head (@Step.write overlap.store [_] [] _ _ _) ?_)
  refine .head (@Step.fail overlap.store [] [_] _ _ _ "disk full") ?_
  exact .single (@Step.undo overlap.store [] [_] _ _ _)

/-- The article of the second call is all that is left, and the id of the other one is not given
again. -/
theorem crossing_sound :
    crossing.store.Sound ∧ (Store.empty.feeds.ids ++ crossing.feedIds).Nodup ∧
      (Store.empty.articles.ids ++ crossing.articleIds).Nodup :=
  sound_of_run .empty run_crossing

end Traffic

end FeedIngest.Catalog
