import Mathlib.Logic.Relation
import FeedIngest.Proofs.Catalog.Codec
import FeedIngest.Proofs.Catalog.Directory
import FeedIngest.Proofs.Catalog.Rollback

/-!
# Recovery

Calls are made one after the other to a store that is kept in a directory. Every action on its files
may fail, a write with anything left in its file, and the process may stop after every one of them.
What is loaded of the directory then has the rows of the tables that were last moved into place, and
between the calls these are the rows in memory.
-/

set_option autoImplicit false

namespace FeedIngest.Catalog

open Time (Timestamp)

/-! ## Sessions -/

structure Saved where
  feeds : Table Feed
  articles : Table Article

namespace Saved

def none : Saved := ⟨.empty, .empty⟩

def put (saved : Saved) (s : Store) : TableName → Saved
  | .feeds => { saved with feeds := s.feedTable }
  | .articles => { saved with articles := s.articleTable }

end Saved

inductive Progress where
  /-- No call is in progress. -/
  | idle
  /-- The change was made in memory, and its table has yet to be written. -/
  | writing (change : Change)
  /-- The table was written beside its file, and has yet to be moved there. -/
  | moving (change : Change)

def Progress.ofCall {α : Type} : Call α → Progress
  | .answered _ => .idle
  | .pending change _ => .writing change

structure Session where
  store : Store
  directory : Directory
  progress : Progress
  saved : Saved

namespace Session

def opening (d : Directory) : Session := ⟨(Archive.load d).store, d.ensured, .idle, .none⟩

def begun (s : Session) (now : Timestamp) (request : Request) : Session :=
  { s with
    store := (request.begin now s.store).2
    progress := .ofCall (request.begin now s.store).1 }

def undone (s : Session) (change : Change) (directory : Directory) : Session :=
  ⟨s.store.undo change, directory, .idle, s.saved⟩

def written (s : Session) (change : Change) : Session :=
  match s.directory.perform
      (.write change.table.draftFile (Archive.snapshot s.store change.table)) with
  | (.ok (), directory) => { s with directory, progress := .moving change }
  | (.error _, directory) => s.undone change directory

def moved (s : Session) (change : Change) : Session :=
  match s.directory.perform (.move change.table.draftFile change.table.file) with
  | (.ok (), directory) => ⟨s.store, directory, .idle, s.saved.put s.store change.table⟩
  | (.error _, directory) => s.undone change directory

end Session

def Request.Fits : Request → Prop
  | .insertFeed _ => True
  | .updateFeed feed => FitsWord feed.id
  | .createArticles drafts => ∀ draft ∈ drafts, FitsWord draft.feedId
  | .updateArticle article => FitsWord article.id ∧ FitsWord article.feedId

def Store.CountersFit (s : Store) : Prop := FitsWord s.lastFeedId ∧ FitsWord s.lastArticleId

namespace Session

/-- One thing that happens. The next call begins when the last one has been answered, and each file
action is a step of its own. Numbers are words: a call is given no others, and ids do not run out.
-/
inductive Step : Session → Session → Prop where
  | begin {s : Session} {now : Timestamp} {request : Request} : s.progress = .idle →
      request.Fits → (s.begun now request).store.CountersFit → Step s (s.begun now request)
  | write {s : Session} {change : Change} : s.progress = .writing change → Step s (s.written change)
  | move {s : Session} {change : Change} : s.progress = .moving change → Step s (s.moved change)

abbrev Run : Session → Session → Prop := Relation.ReflTransGen Step

/-- An archive settles a change by these steps. -/
theorem run_settle (a : Archive) {d : Directory} (kept : a.directory = some d) (change : Change)
    (saved : Saved) : ∃ next : Session, Run ⟨a.store, d, .writing change, saved⟩ next ∧
      (a.settle change).2.store = next.store ∧
      (a.settle change).2.directory = some next.directory ∧ next.progress = .idle ∧
      ((a.settle change).1 = .ok () ∧ next.saved = saved.put a.store change.table ∨
        ∃ reason, (a.settle change).1 = .error (.persistence reason) ∧ next.saved = saved) := by
  have first : Step ⟨a.store, d, .writing change, saved⟩ _ := .write rfl
  unfold written at first
  rcases wrote : d.perform
      (.write change.table.draftFile (Archive.snapshot a.store change.table)) with ⟨result, left⟩
  simp only [wrote] at first
  cases result with
  | error reason =>
    have settled : a.settle change = (.error (.persistence reason),
        ⟨a.store.undo change, some left, a.unsettled - 1⟩) := by
      simp only [Archive.settle, Archive.persist, kept, Archive.actions, Directory.performAll,
          wrote]
    rw [settled]
    exact ⟨_, .single first, rfl, rfl, rfl, .inr ⟨reason, rfl, rfl⟩⟩
  | ok =>
    have second : Step ⟨a.store, left, .moving change, saved⟩ _ := .move rfl
    unfold moved at second
    rcases placed : left.perform (.move change.table.draftFile change.table.file) with ⟨result,
        after⟩
    simp only [placed] at second
    cases result with
    | error reason =>
      have settled : a.settle change = (.error (.persistence reason),
          ⟨a.store.undo change, some after, a.unsettled - 1⟩) := by
        simp only [Archive.settle, Archive.persist, kept, Archive.actions, Directory.performAll,
          wrote, placed]
      rw [settled]
      exact ⟨_, .head first (.single second), rfl, rfl, rfl, .inr ⟨reason, rfl, rfl⟩⟩
    | ok =>
      have settled : a.settle change = (.ok (), ⟨a.store, some after, a.unsettled - 1⟩) := by
        simp only [Archive.settle, Archive.persist, kept, Archive.actions, Directory.performAll,
          wrote, placed]
      rw [settled]
      exact ⟨_, .head first (.single second), rfl, rfl, rfl, .inl ⟨rfl, rfl⟩⟩

end Session

/-! ## Numbers that fit words -/

namespace Store

variable {s next : Store}

private theorem mem_created_fits {drafts : List Draft} {created : List Article}
    (appends : s.Appends drafts created next) (fits : s.Fits) (counters : next.CountersFit)
    (given : ∀ draft ∈ drafts, FitsWord draft.feedId) {article : Article}
    (member : article ∈ created) : FitsWord article.id ∧ FitsWord article.feedId := by
  have new := appends.newIds article member
  obtain ⟨id, found⟩ := Shelf.mem_values.mp (appends.articles ▸ List.mem_append_right _ member)
  have within := appends.indexed.articles.bounded found
  rw [← appends.indexed.articles.own found] at within
  obtain ⟨draft, among, same⟩ := appends.drafted article member
  have feedId : draft.feedId = article.feedId := congrArg ArticleKey.feedId same
  refine ⟨⟨?_, ?_⟩, feedId ▸ given draft among⟩
  · exact Int.le_trans fits.lastArticleId.1 (Int.le_of_lt new)
  · exact Int.le_trans within counters.2.2

/-- A call that is given numbers that fit leaves such numbers, if its new ids fit. -/
theorem Fits.begin (fits : s.Fits) (indexed : s.Indexed) (now : Timestamp) {request : Request}
    (given : request.Fits) (counters : (request.begin now s).2.CountersFit) :
    (request.begin now s).2.Fits := by
  cases request with
  | insertFeed draft =>
    simp only [Request.begin] at counters ⊢
    unfold Store.insertFeed at counters ⊢
    split
    · exact fits
    · next unknown =>
      rw [unknown] at counters
      refine ⟨counters.1, counters.2, fun feed member => ?_, fits.articles⟩
      rcases Shelf.mem_values_put member with rfl | old
      · exact counters.1
      · exact fits.feeds feed old
  | updateFeed feed =>
    simp only [Request.begin]
    unfold Store.updateFeed
    split
    · exact fits
    · refine ⟨fits.lastFeedId, fits.lastArticleId, fun other member => ?_, fits.articles⟩
      rcases Shelf.mem_values_put member with rfl | old
      · exact given
      · exact fits.feeds other old
  | createArticles drafts =>
    obtain ⟨created, appends, _⟩ := indexed.createArticles now drafts
    refine ⟨counters.1, counters.2, fun feed member => ?_, fun article member => ?_⟩
    · exact fits.feeds feed (congrArg Shelf.values appends.feeds ▸ member)
    · rcases List.mem_append.mp (appends.articles ▸ member) with old | new
      · exact fits.articles article old
      · exact mem_created_fits appends fits counters given new
  | updateArticle article =>
    simp only [Request.begin]
    unfold Store.updateArticle
    split
    · exact fits
    · split
      · refine ⟨fits.lastFeedId, fits.lastArticleId, fits.feeds, fun other member => ?_⟩
        rcases Shelf.mem_values_put member with rfl | old
        · exact given
        · exact fits.articles other old
      · exact fits

/-- What is left of a change that was taken back fits. -/
theorem Reverts.fits {change : Change} (reverts : s.Reverts change next) (fits : s.Fits)
    (fitsNext : next.Fits) : (next.undo change).Fits where
  lastFeedId := by simpa using fitsNext.lastFeedId
  lastArticleId := by simpa using fitsNext.lastArticleId
  feeds := by simpa [reverts.feeds] using fits.feeds
  articles := by simpa [reverts.articles] using fits.articles

end Store

/-! ## Tables on disk -/

/-- The file of a table has it, or there is no such file and the table is empty. -/
def Stored {α : Type} (d : Directory) (name : TableName)
    (ofBytes? : List UInt8 → Option (Table α)) (table : Table α) : Prop :=
  d.read? name.file = none ∧ table = .empty ∨
    ∃ bytes, d.read? name.file = some bytes ∧ ofBytes? bytes = some table

section Stored

variable {α : Type} {d next : Directory} {name : TableName}
  {ofBytes? : List UInt8 → Option (Table α)} {table : Table α}

theorem Stored.readTable (stored : Stored d name ofBytes? table) :
    Archive.readTable d name ofBytes? = table := by
  unfold Archive.readTable
  rcases stored with ⟨absent, rfl⟩ | ⟨bytes, present, reads⟩
  · rw [absent]
  · rw [present]
    simp only [reads]

theorem Stored.congr (stored : Stored d name ofBytes? table)
    (same : next.read? name.file = d.read? name.file) : Stored next name ofBytes? table := by
  unfold Stored
  rw [same]
  exact stored

end Stored

namespace Saved

variable {saved : Saved} {d next : Directory} {s : Store}

structure On (saved : Saved) (d : Directory) : Prop where
  feeds : Stored d .feeds feedsOfBytes? saved.feeds
  articles : Stored d .articles articlesOfBytes? saved.articles

theorem On.congr (on : saved.On d)
    (same : ∀ name : TableName, next.read? name.file = d.read? name.file) : saved.On next :=
  ⟨on.feeds.congr (same .feeds), on.articles.congr (same .articles)⟩

/-- The snapshot of a table comes to stand in its file. -/
theorem On.put (on : saved.On d) (fits : s.Fits) {name : TableName}
    (placed : next.read? name.file = some (Archive.snapshot s name))
    (others : ∀ other : TableName, other ≠ name → next.read? other.file = d.read? other.file) :
    (saved.put s name).On next := by
  cases name with
  | feeds =>
    exact ⟨.inr ⟨_, placed, Archive.feedsOfBytes?_snapshot fits⟩,
      on.articles.congr (others .articles (by decide))⟩
  | articles =>
    exact ⟨on.feeds.congr (others .feeds (by decide)),
      .inr ⟨_, placed, Archive.articlesOfBytes?_snapshot fits⟩⟩

structure RowsOf (saved : Saved) (s : Store) : Prop where
  feeds : saved.feeds.rows = s.feeds.values
  articles : saved.articles.rows = s.articles.values

def Sound (saved : Saved) : Prop := ∃ feeds articles : Store, feeds.Indexed ∧ articles.Indexed ∧
  saved = ⟨feeds.feedTable, articles.articleTable⟩

private theorem Sound.put (sound : saved.Sound) (indexed : s.Indexed) (name : TableName) :
    (saved.put s name).Sound := by
  obtain ⟨feeds, articles, indexedFeeds, indexedArticles, rfl⟩ := sound
  cases name with
  | feeds => exact ⟨s, articles, indexed, indexedArticles, rfl⟩
  | articles => exact ⟨feeds, s, indexedFeeds, indexed, rfl⟩

end Saved

/-! ## What holds at every moment -/

/-- A change was made in memory that is not on disk yet. Taking it back leads to what is, and all
rows but those of its table are there. -/
structure Unsaved (saved : Saved) (change : Change) (s : Store) : Prop where
  indexed : (s.undo change).Indexed
  fits : (s.undo change).Fits
  rows : saved.RowsOf (s.undo change)
  feeds : change.table = .articles → saved.feeds.rows = s.feeds.values
  articles : change.table = .feeds → saved.articles.rows = s.articles.values

private theorem Unsaved.put {saved : Saved} {change : Change} {s : Store}
    (unsaved : Unsaved saved change s) : (saved.put s change.table).RowsOf s := by
  cases table : change.table with
  | feeds => exact ⟨rfl, unsaved.articles table⟩
  | articles => exact ⟨unsaved.feeds table, rfl⟩

def Progress.Due (saved : Saved) (s : Store) (d : Directory) : Progress → Prop
  | .idle => saved.RowsOf s
  | .writing change => Unsaved saved change s
  | .moving change => Unsaved saved change s ∧
      d.read? change.table.draftFile = some (Archive.snapshot s change.table)

/-- The next call finds all rows saved. -/
theorem Saved.RowsOf.due {saved : Saved} {s next : Store} {call : Call Reply}
    (rows : saved.RowsOf s) (indexed : s.Indexed) (fits : s.Fits) (fitsNext : next.Fits)
    (revertible : s.Revertible call next) (d : Directory) :
    (Progress.ofCall call).Due saved next d := by
  cases call with
  | answered answer =>
    obtain ⟨feeds, articles⟩ := revertible
    exact ⟨feeds ▸ rows.feeds, articles ▸ rows.articles⟩
  | pending change reply =>
    exact
      { indexed := revertible.indexed indexed
        fits := revertible.fits fits fitsNext
        rows := ⟨revertible.feeds ▸ rows.feeds, revertible.articles ▸ rows.articles⟩
        feeds := fun table => revertible.otherFeeds table ▸ rows.feeds
        articles := fun table => revertible.otherArticles table ▸ rows.articles }

namespace Session

variable {s next : Session}

/-- The store is indexed, the saved tables are on disk, and they are what they should be. -/
structure Sound (s : Session) : Prop where
  indexed : s.store.Indexed
  fits : s.store.Fits
  tables : s.saved.Sound
  disk : s.saved.On s.directory
  due : s.progress.Due s.saved s.store s.directory

namespace Sound

private theorem begun (sound : s.Sound) (idle : s.progress = .idle) (now : Timestamp)
    {request : Request} (given : request.Fits)
    (counters : (s.begun now request).store.CountersFit) :
    (s.begun now request).Sound := by
  have rows := sound.due
  rw [idle] at rows
  have fits := sound.fits.begin sound.indexed now given counters
  have revertible := sound.indexed.revertible now request
  exact ⟨sound.indexed.begin now request, fits, sound.tables, sound.disk,
    rows.due sound.indexed sound.fits fits revertible _⟩

/-- A call fails before anything of it came to its file. -/
theorem undone (sound : s.Sound) {change : Change} (unsaved : Unsaved s.saved change s.store)
    {directory : Directory}
    (same : ∀ name : TableName, directory.read? name.file = s.directory.read? name.file) :
    (s.undone change directory).Sound where
  indexed := unsaved.indexed
  fits := unsaved.fits
  tables := sound.tables
  disk := sound.disk.congr same
  due := unsaved.rows

private theorem written (sound : s.Sound) {change : Change}
    (writing : s.progress = .writing change) :
    (s.written change).Sound := by
  have unsaved := sound.due
  rw [writing] at unsaved
  obtain ⟨others, placed⟩ := s.directory.perform_write change.table.draftFile
    (Archive.snapshot s.store change.table)
  unfold Session.written
  rcases performed : s.directory.perform
    (.write change.table.draftFile (Archive.snapshot s.store change.table)) with ⟨result, directory⟩
  rw [performed] at others placed
  have same : ∀ name : TableName, directory.read? name.file = s.directory.read? name.file :=
    fun name => others name.file (name.file_ne_draftFile _)
  cases result with
  | ok =>
    exact ⟨sound.indexed, sound.fits, sound.tables, sound.disk.congr same, unsaved, placed rfl⟩
  | error reason => exact sound.undone unsaved same

private theorem moved (sound : s.Sound) {change : Change} (moving : s.progress = .moving change) :
    (s.moved change).Sound := by
  have due := sound.due
  rw [moving] at due
  obtain ⟨unsaved, drafted⟩ := due
  have cases := s.directory.perform_move change.table.draftFile change.table.file
  unfold Session.moved
  rcases performed : s.directory.perform
    (.move change.table.draftFile change.table.file) with ⟨result, directory⟩
  rw [performed] at cases
  rcases cases with ⟨rfl, placed, others⟩ | ⟨reason, rfl, same⟩
  · refine ⟨sound.indexed, sound.fits, sound.tables.put sound.indexed _, ?_, unsaved.put⟩
    refine sound.disk.put sound.fits (placed.trans drafted) fun other differs => ?_
    exact others other.file (other.file_ne_draftFile _) fun again =>
      differs (TableName.file_injective again)
  · exact sound.undone unsaved fun name => same name.file

theorem step (sound : s.Sound) (step : Step s next) : next.Sound := by
  cases step with
  | begin idle given counters => exact sound.begun idle _ given counters
  | write writing => exact sound.written writing
  | move moving => exact sound.moved moving

theorem run (sound : s.Sound) (run : Run s next) : next.Sound := by
  induction run with
  | refl => exact sound
  | tail _ last ih => exact ih.step last

end Sound

/-- A session on an empty directory. -/
theorem opening_sound {d : Directory} (empty : d.entries = []) : (opening d).Sound := by
  have absent : ∀ name : TableName, d.ensured.read? name.file = none := by
    intro name
    unfold Directory.read? Directory.entry? Directory.ensured
    rw [empty]
    rfl
  have disk : Saved.none.On d.ensured := ⟨.inl ⟨absent .feeds, rfl⟩, .inl ⟨absent .articles, rfl⟩⟩
  have store : (Archive.load d).store = .empty := by
    rw [Archive.load, Archive.readStore, disk.feeds.readTable, disk.articles.readTable]
    rfl
  have tables : Saved.none.Sound :=
    ⟨.empty, .empty, Store.empty_indexed, Store.empty_indexed, rfl⟩
  unfold opening
  rw [store]
  exact ⟨Store.empty_indexed, Store.empty_fits, tables, disk, ⟨rfl, rfl⟩⟩

/-- What a store has that is loaded of the directory of a session. -/
structure Recovers (s : Session) (loaded : Store) : Prop where
  feeds : loaded.feeds.values = s.saved.feeds.rows
  articles : loaded.articles.values = s.saved.articles.rows
  memory : s.progress = .idle → loaded.feeds = s.store.feeds ∧
    loaded.articles = s.store.articles ∧ ∀ key, key ∈ loaded.keys ↔ key ∈ s.store.keys
  feedIds : ∀ id ∈ loaded.feeds.ids, id ≤ loaded.lastFeedId
  articleIds : ∀ id ∈ loaded.articles.ids, id ≤ loaded.lastArticleId

/-- Wherever the process stops, and whichever file actions failed: what is loaded again has the rows
that were last moved into place, and its counters are not below any of its ids. -/
theorem run_recovers {d : Directory} (empty : d.entries = []) {s : Session}
    (run : Run (opening d) s) : s.Recovers (Archive.load s.directory).store := by
  obtain ⟨indexed, _, tables, disk, due⟩ := (opening_sound empty).run run
  obtain ⟨feeds, articles, indexedFeeds, indexedArticles, saved⟩ := tables
  have ensured : s.saved.On s.directory.ensured := disk.congr fun _ => rfl
  have loaded : (Archive.load s.directory).store =
      .ofTables feeds.feedTable articles.articleTable := by
    rw [Archive.load, Archive.readStore, ensured.feeds.readTable, ensured.articles.readTable, saved]
  have loadedIndexed := indexedArticles.ofTables feeds.feedTable
  have loadedFeeds := indexedFeeds.ofTables_feed_rows articles.articleTable
  have loadedArticles := indexedArticles.ofTables_article_rows feeds.feedTable
  rw [loaded]
  constructor
  case feeds => rw [loadedFeeds, saved, Store.feedTable]
  case articles => rw [loadedArticles, saved, Store.articleTable]
  case memory =>
    intro idle
    rw [idle, saved] at due
    obtain ⟨feedRows, articleRows⟩ := due
    have sameFeeds := indexedFeeds.feeds.eq_of_values indexed.feeds feedRows
    have sameArticles := indexedArticles.articles.eq_of_values indexed.articles articleRows
    refine ⟨loadedFeeds.trans sameFeeds, loadedArticles.trans sameArticles, fun key => ?_⟩
    rw [loadedIndexed.keys, indexed.keys, loadedArticles, sameArticles]
  case feedIds =>
    intro id member
    obtain ⟨feed, found⟩ := Shelf.mem_ids.mp member
    exact loadedIndexed.feeds.bounded found
  case articleIds =>
    intro id member
    obtain ⟨article, found⟩ := Shelf.mem_ids.mp member
    exact loadedIndexed.articles.bounded found

/-! ## A process that stops -/

/-- The actions of the first call will be done, then a write will be cut off, and then a file will
not be moved. -/
def troubled : Directory where
  present := false
  entries := []
  mishaps := [none, none, some (.failure "disk full" (some [91])), none, some (.failure "busy" none)]

def inserting : Change := .feedInserted (DraftFeed.toFeed ⟨"f", "F", none⟩ 1 .epoch)

def inserted : Session :=
  (((opening troubled).begun .epoch (.insertFeed ⟨"f", "F", none⟩)).written inserting).moved inserting

def creating (id : Int) : Change := .articlesCreated [Traffic.sketched "a" id]

def create (s : Session) : Session := s.begun .epoch (.createArticles [Traffic.sketch "a"])

/-- An article was created in vain twice, and once more while the process stops. -/
def stopped : Session :=
  ((((inserted.create.written (creating 1)).create.written (creating 2)).moved
    (creating 2)).create).written (creating 3)

theorem run_inserted : Run (opening troubled) inserted := by
  have begins : Step (opening troubled) ((opening troubled).begun .epoch _) :=
    .begin rfl (by exact trivial : (Request.insertFeed ⟨"f", "F", none⟩).Fits) ⟨by decide, by decide⟩
  exact .head begins (.head (.write rfl) (.single (.move rfl)))

private theorem step_create {s : Session} (idle : s.progress = .idle)
    (counters : s.create.store.CountersFit) :
    Step s s.create := by
  refine .begin idle (fun draft member => ?_) counters
  cases List.mem_singleton.mp member
  decide

theorem run_stopped : Run (opening troubled) stopped := by
  refine run_inserted.trans ?_
  refine .head (step_create rfl ⟨by decide, by decide⟩) (.head (.write rfl) ?_)
  refine .head (step_create rfl ⟨by decide, by decide⟩) (.head (.write rfl) (.head (.move rfl) ?_))
  exact .head (step_create rfl ⟨by decide, by decide⟩) (.single (.write rfl))

/-- The feed is there, and the article is not. -/
theorem stopped_recovers : Run (opening troubled) stopped ∧
    stopped.Recovers (Archive.load stopped.directory).store ∧
    stopped.progress = .moving (creating 3) ∧ stopped.saved.feeds.rows.length = 1 ∧
    stopped.saved.articles.rows = [] :=
  ⟨run_stopped, run_recovers rfl run_stopped, rfl, rfl, rfl⟩

end Session

end FeedIngest.Catalog
