import Mathlib.Logic.Relation
import FeedIngest.Ingest.Service
import FeedIngest.Proofs.Catalog.Index
import FeedIngest.Proofs.Catalog.Promise

/-!
# What the validators of a feed cover

A server that is asked with the validators of a document does not send the document again. So they
may be stored only when the articles of all its links are. A run writes the whole feed back as it
loaded it, twice; whatever it writes then was covered when it was loaded, and articles are never
taken away from a store without a directory.
-/

set_option autoImplicit false

namespace FeedIngest.Ingest

open Catalog (Access Archive Article ArticleKey Call Change Draft DraftFeed Feed Store Validators)
open Syndication (FeedDocument FeedItem)
open Time (Timestamp)

def itemLink? (item : FeedItem) : Option String := item.url.bind Text.nonBlank?

/-- A document that was given to a run for a feed, and the validators that came with it. -/
structure GivenDocument where
  feedId : Int
  document : FeedDocument
  validators : Validators

def givenDocuments (feedId : Int) : Except Fault FeedFetch → List GivenDocument
  | .ok (.fetched document validators) => [⟨feedId, document, validators⟩]
  | .ok .notModified | .error _ => []

/-! ## Covered validators -/

section Covered

variable {given givenToo : List GivenDocument} {s next : Store} {feedId : Int} {v : Validators}
  {feed : Feed}

/-- The articles of all links of a document are stored that came with the validators. -/
def Covered (given : List GivenDocument) (s : Store) (feedId : Int) (v : Validators) : Prop :=
  ∃ document, ⟨feedId, document, v⟩ ∈ given ∧
    ∀ item ∈ document.items, ∀ link, itemLink? item = some link → s.Has (.article ⟨feedId, link⟩)

structure Grows (given : List GivenDocument) (s : Store) (givenToo : List GivenDocument)
    (next : Store) : Prop where
  given : given ⊆ givenToo
  store : ∀ p, s.Has p → next.Has p

theorem Grows.refl : Grows given s given s := ⟨fun _ member => member, fun _ has => has⟩

theorem Covered.grows (covered : Covered given s feedId v)
    (grows : Grows given s givenToo next) : Covered givenToo next feedId v := by
  obtain ⟨document, received, stored⟩ := covered
  refine ⟨document, grows.given received, ?_⟩
  intro item member link linked
  exact grows.store _ (stored item member link linked)

/-- A feed as a run may write it: a feed with its id and link is stored, and its validators are
covered. -/
structure Writable (given : List GivenDocument) (s : Store) (feedId : Int) (feed : Feed) :
    Prop where
  own : feed.id = feedId
  stored : s.Has (.feed feedId feed.url)
  covered : feed.validators.isEmpty = false → Covered given s feedId feed.validators

theorem Writable.grows (writable : Writable given s feedId feed)
    (grows : Grows given s givenToo next) : Writable givenToo next feedId feed where
  own := writable.own
  stored := grows.store _ writable.stored
  covered marked := (writable.covered marked).grows grows

/-- What a document says of a feed is nothing of its id, its link and its validators. -/
theorem Writable.describe (writable : Writable given s feedId feed) (document : FeedDocument) :
    Writable given s feedId (describe feed document) :=
  ⟨writable.own, writable.stored, writable.covered⟩

structure Faithful (given : List GivenDocument) (s : Store) : Prop where
  sound : s.Sound
  feeds : ∀ id feed, s.feeds.get? id = some feed → Writable given s id feed

private theorem Faithful.more (faithful : Faithful given s) (more : given ⊆ givenToo) :
    Faithful givenToo s where
  sound := faithful.sound
  feeds id feed found := (faithful.feeds id feed found).grows ⟨more, fun _ has => has⟩

/-- A call begins, after which each feed is as it was or may be written. -/
theorem Faithful.begins {α : Type} {call : Call α} (faithful : Faithful given s)
    (begins : s.Begins call next) (feeds : ∀ id feed, next.feeds.get? id = some feed →
      s.feeds.get? id = some feed ∨ Writable given next id feed) :
    Faithful given next ∧ Grows given s given next := by
  have grows : Grows given s given next := ⟨fun _ member => member, fun _ has => begins.has has⟩
  refine ⟨⟨begins.sound, ?_⟩, grows⟩
  intro id feed found
  rcases feeds id feed found with old | writable
  · exact (faithful.feeds id feed old).grows grows
  · exact writable

private theorem Faithful.insertFeed (faithful : Faithful given s) (now : Timestamp)
    (draft : DraftFeed) :
    Faithful given (s.insertFeed now draft).2 ∧ Grows given s given (s.insertFeed now draft).2 := by
  refine faithful.begins (faithful.sound.insertFeed now draft) ?_
  intro id feed found
  unfold Store.insertFeed at found ⊢
  split at found
  · exact .inl found
  · rw [Catalog.Shelf.get?_put] at found
    split at found
    · next here =>
      cases found
      refine .inr ⟨here.symm, ?_, fun marked => by cases marked⟩
      exact ⟨_, by rw [Catalog.Shelf.get?_put, if_pos here], rfl⟩
    · exact .inl found

private theorem Faithful.updateFeed (faithful : Faithful given s) (now : Timestamp)
    (writable : Writable given s feed.id feed) :
    Faithful given (s.updateFeed now feed).2 ∧ Grows given s given (s.updateFeed now feed).2 := by
  obtain ⟨_, ⟨row, found, url⟩, covered⟩ := writable
  have keepsUrl : ∀ other, s.feeds.get? feed.id = some other → other.url = feed.url := by
    intro other foundToo
    cases found.symm.trans foundToo
    exact url
  have begins := faithful.sound.updateFeed now keepsUrl
  refine faithful.begins begins ?_
  intro id written stands
  unfold Store.updateFeed at stands ⊢
  rw [found] at stands ⊢
  rw [Catalog.Shelf.get?_put] at stands
  split at stands
  · next here =>
    cases stands
    refine .inr ⟨here.symm, ?_, ?_⟩
    · exact ⟨_, by rw [Catalog.Shelf.get?_put, if_pos here], rfl⟩
    · intro marked
      exact here ▸ covered marked
  · exact .inl stands

/-- A call that has to do with articles leaves the feeds as they are. -/
theorem Faithful.begins_articles {α : Type} {call : Call α} (faithful : Faithful given s)
    (begins : s.Begins call next) (same : next.feeds = s.feeds) :
    Faithful given next ∧ Grows given s given next := by
  refine faithful.begins begins ?_
  intro id feed found
  exact .inl (same ▸ found)

end Covered

/-! ## Fresh drafts -/

/-- The first draft for each link is left, unless the link is known. -/
theorem mem_unseen (known : List String) {drafts : List Draft} {draft : Draft}
    (member : draft ∈ drafts) :
    draft.url ∈ known ∨ ∃ fresh ∈ unseen known drafts, fresh.url = draft.url := by
  induction drafts generalizing known with
  | nil => cases member
  | cons first rest ih =>
    unfold unseen
    split
    · next skipped =>
      rcases List.mem_cons.mp member with rfl | later
      · exact .inl (List.contains_iff_mem.mp skipped)
      · exact ih known later
    · rcases List.mem_cons.mp member with rfl | later
      · exact .inr ⟨_, List.mem_cons_self, rfl⟩
      · rcases ih (first.url :: known) later with seen | ⟨fresh, among, same⟩
        · rcases List.mem_cons.mp seen with same | old
          · exact .inr ⟨first, List.mem_cons_self, same.symm⟩
          · exact .inl old
        · exact .inr ⟨fresh, List.mem_cons_of_mem _ among, same⟩

theorem mem_of_mem_unseen {known : List String} {drafts : List Draft} {draft : Draft}
    (member : draft ∈ unseen known drafts) : draft ∈ drafts := by
  induction drafts generalizing known with
  | nil => cases member
  | cons first rest ih =>
    unfold unseen at member
    split at member
    · exact List.mem_cons_of_mem _ (ih member)
    · rcases List.mem_cons.mp member with rfl | later
      · exact List.mem_cons_self
      · exact List.mem_cons_of_mem _ (ih later)

/-- The draft of an item has the feed of the run and the link of the item for its key. -/
theorem ofItem?_eq_some (feedId : Int) (now : Timestamp) {item : FeedItem} {link : String}
    (linked : itemLink? item = some link) :
    ∃ draft, Draft.ofItem? feedId item now = some draft ∧ draft.key = ⟨feedId, link⟩ := by
  unfold itemLink? at linked
  unfold Draft.ofItem?
  rw [linked]
  exact ⟨_, rfl, rfl⟩

/-- Each link of a document is stored already, or has a fresh draft. -/
theorem mem_freshDrafts {s : Store} {feedId : Int} (now : Timestamp) {items : List FeedItem}
    {item : FeedItem} (member : item ∈ items) {link : String}
    (linked : itemLink? item = some link) :
    s.Has (.article ⟨feedId, link⟩) ∨
      ∃ draft ∈ freshDrafts feedId now (s.articleUrls feedId) items,
        draft.key = ⟨feedId, link⟩ := by
  obtain ⟨draft, drafted, key⟩ := ofItem?_eq_some feedId now linked
  have among : draft ∈ items.filterMap fun item => Draft.ofItem? feedId item now :=
    List.mem_filterMap.mpr ⟨item, member, drafted⟩
  have url : draft.url = link := congrArg ArticleKey.url key
  rcases mem_unseen (s.articleUrls feedId) among with known | ⟨fresh, inside, same⟩
  · exact .inl (Store.mem_articleUrls.mp (url ▸ known))
  · refine .inr ⟨fresh, inside, ?_⟩
    obtain ⟨other, _, made⟩ := List.mem_filterMap.mp (mem_of_mem_unseen inside)
    obtain ⟨_, _, rfl⟩ := Option.map_eq_some_iff.mp made
    simp only [Draft.key] at same ⊢
    rw [same, url]

/-! ## Runs -/

/-- The links of a document are stored, or will be with some drafts. -/
def Filed (given : List GivenDocument) (s : Store) (feedId : Int) (fresh : List Draft)
    (v : Validators) : Prop :=
  ∃ document, ⟨feedId, document, v⟩ ∈ given ∧ ∀ item ∈ document.items, ∀ link,
    itemLink? item = some link →
      s.Has (.article ⟨feedId, link⟩) ∨ ∃ draft ∈ fresh, draft.key = ⟨feedId, link⟩

/-- What a run holds in its hands: feeds that may be written, and a document that was given to it,
whose links are stored before its validators are. -/
def Honest (given : List GivenDocument) (s : Store) (run : Run) : Prop :=
  match run.stage with
  | .loading | .marking _ _ | .finished _ => True
  | .fetching feed => Writable given s run.feedId feed
  | .describing feed document v | .listing feed document v =>
    Writable given s run.feedId feed ∧ ⟨run.feedId, document, v⟩ ∈ given
  | .noting _ described feed document v =>
    Writable given s run.feedId described ∧ Writable given s run.feedId feed ∧
      ⟨run.feedId, document, v⟩ ∈ given
  | .creating feed fresh v =>
    Writable given s run.feedId feed ∧ Filed given s run.feedId fresh v
  | .filing _ feed _ v | .remembering feed _ v =>
    Writable given s run.feedId feed ∧ Covered given s run.feedId v

section Steps

variable {given givenToo : List GivenDocument} {a : Archive} {next : Store} {run : Run}

private theorem Filed.grows {s : Store} {feedId : Int} {fresh : List Draft} {v : Validators}
    (filed : Filed given s feedId fresh v) (grows : Grows given s givenToo next) :
    Filed givenToo next feedId fresh v := by
  obtain ⟨document, received, stored⟩ := filed
  refine ⟨document, grows.given received, ?_⟩
  intro item member link linked
  exact (stored item member link linked).imp_left (grows.store _)

theorem Honest.grows {s : Store} (honest : Honest given s run)
    (grows : Grows given s givenToo next) : Honest givenToo next run := by
  unfold Honest at honest ⊢
  split at honest
  · trivial
  · trivial
  · trivial
  · exact honest.grows grows
  · exact ⟨honest.1.grows grows, grows.given honest.2⟩
  · exact ⟨honest.1.grows grows, grows.given honest.2⟩
  · exact ⟨honest.1.grows grows, honest.2.1.grows grows, grows.given honest.2.2⟩
  · exact ⟨honest.1.grows grows, honest.2.grows grows⟩
  · exact ⟨honest.1.grows grows, honest.2.grows grows⟩
  · exact ⟨honest.1.grows grows, honest.2.grows grows⟩

/-- What comes of a step: the store is as faithful as before, nothing is lost, and the run is
honest. -/
structure Goes (given : List GivenDocument) (a : Archive) (run : Run) (after : Run × Archive) :
    Prop where
  faithful : Faithful given after.2.store
  grows : Grows given a.store given after.2.store
  honest : Honest given after.2.store after.1
  feedId : after.1.feedId = run.feedId
  inMemory : after.2.directory = none

/-- A stage that leaves the store alone. -/
theorem Goes.of_same_store (faithful : Faithful given a.store) (inMemory : a.directory = none)
    {stage : Stage} (honest : Honest given a.store (run.goTo stage)) :
    Goes given a run (run.goTo stage, a) :=
  ⟨faithful, .refl, honest, rfl, inMemory⟩

/-- An update of a feed that a run may write. -/
theorem updateFeed_cases (faithful : Faithful given a.store) (inMemory : a.directory = none)
    (now : Timestamp) {feed : Feed} {feedId : Int} (writable : Writable given a.store feedId feed) :
    ∃ change next, a.updateFeed now feed = (.pending change { feed with updatedAt := now }, next) ∧
      Faithful given next.store ∧ Grows given a.store given next.store ∧
      Writable given next.store feedId { feed with updatedAt := now } ∧ next.directory = none := by
  obtain ⟨rfl, ⟨row, found, url⟩, covered⟩ := writable
  have writable : Writable given a.store feed.id feed := ⟨rfl, ⟨row, found, url⟩, covered⟩
  obtain ⟨faithfulNext, grows⟩ := faithful.updateFeed now writable
  have begun : a.store.updateFeed now feed =
      (.pending (.feedUpdated row { feed with updatedAt := now }) { feed with updatedAt := now },
        (a.store.updateFeed now feed).2) := by
    simp only [Store.updateFeed, found]
  refine ⟨.feedUpdated row { feed with updatedAt := now },
    { a with store := (a.store.updateFeed now feed).2, unsettled := a.unsettled + 1 },
    ?_, faithfulNext, grows, ?_, inMemory⟩
  · rw [Archive.updateFeed, Archive.begin, begun]
  · obtain ⟨own, stored, covered⟩ := writable.grows grows
    exact ⟨own, stored, covered⟩

/-- The articles of all drafts are stored when a call to create them has begun. -/
theorem createArticles_cases (faithful : Faithful given a.store) (inMemory : a.directory = none)
    (now : Timestamp) (drafts : List Draft) :
    ∃ created next, ((∃ change, a.createArticles now drafts = (.pending change created, next)) ∨
        a.createArticles now drafts = (.answered (.ok created), next)) ∧
      Faithful given next.store ∧ Grows given a.store given next.store ∧
      (∀ draft ∈ drafts, next.store.Has (.article draft.key)) ∧ next.directory = none := by
  obtain ⟨faithfulNext, grows⟩ := faithful.begins_articles
    (faithful.sound.createArticles now drafts) (Store.createArticles_feeds now drafts)
  have stored : ∀ draft ∈ drafts, (a.store.createArticles now drafts).2.Has (.article draft.key) :=
    fun draft asked => faithful.sound.createArticles_has now asked
  unfold Archive.createArticles Archive.begin
  unfold Store.createArticles at faithfulNext grows stored ⊢
  split at faithfulNext
  · next added =>
    simp only [added] at faithfulNext grows stored ⊢
    exact ⟨_, _, .inr rfl, faithfulNext, grows, stored, inMemory⟩
  · next added =>
    simp only [added] at faithfulNext grows stored ⊢
    exact ⟨_, _, .inl ⟨_, rfl⟩, faithfulNext, grows, stored, inMemory⟩

theorem Honest.step (honest : Honest given a.store run) (faithful : Faithful given a.store)
    (inMemory : a.directory = none) (now : Timestamp) :
    Goes given a run (run.step Archive.access now a) := by
  obtain ⟨feedId, stage⟩ := run
  cases stage with
  | loading =>
    cases found : a.store.feeds.get? feedId with
    | none =>
      have told : Archive.access.feed feedId a = (.error (.feedNotFound feedId), a) := by
        simp only [Archive.access, Store.feed, found]
      simp only [Run.step, told]
      exact .of_same_store faithful inMemory trivial
    | some feed =>
      have told : Archive.access.feed feedId a = (.ok feed, a) := by
        simp only [Archive.access, Store.feed, found]
      simp only [Run.step, told]
      exact .of_same_store faithful inMemory (faithful.feeds feedId feed found)
  | fetching feed => exact .of_same_store faithful inMemory honest
  | describing feed document v =>
    obtain ⟨writable, received⟩ := honest
    simp only [Run.step]
    split
    · exact .of_same_store faithful inMemory ⟨writable, received⟩
    · obtain ⟨change, next, begun, faithfulNext, grows, written, inMemory⟩ :=
        updateFeed_cases faithful inMemory now (writable.describe document)
      have told : Archive.access.updateFeed now (describe feed document) a = _ := begun
      rw [told]
      exact ⟨faithfulNext, grows, ⟨written, writable.grows grows, received⟩, rfl, inMemory⟩
  | noting change described feed document v =>
    simp only [Run.step, Archive.access, Archive.settle_of_no_directory inMemory]
    exact ⟨faithful, .refl, ⟨honest.1, honest.2.2⟩, rfl, inMemory⟩
  | listing feed document v =>
    refine .of_same_store faithful inMemory ⟨honest.1, document, honest.2, ?_⟩
    intro item member link linked
    exact mem_freshDrafts now member linked
  | creating feed fresh v =>
    obtain ⟨writable, document, received, filed⟩ := honest
    cases fresh with
    | nil =>
      refine .of_same_store faithful inMemory ⟨writable, document, received, ?_⟩
      intro item member link linked
      rcases filed item member link linked with stored | ⟨_, none, _⟩
      · exact stored
      · cases none
    | cons draft drafts =>
      obtain ⟨created, next, begun, faithfulNext, grows, stored, inMemory⟩ :=
        createArticles_cases faithful inMemory now (draft :: drafts)
      have covered : Covered given next.store feedId v := by
        refine ⟨document, received, ?_⟩
        intro item member link linked
        rcases filed item member link linked with old | ⟨made, among, key⟩
        · exact grows.store _ old
        · exact key ▸ stored made among
      have honestNext : Writable given next.store feedId feed ∧ Covered given next.store feedId v :=
        ⟨writable.grows grows, covered⟩
      rcases begun with ⟨change, begun⟩ | begun
      all_goals
        have told : Archive.access.createArticles now (draft :: drafts) a = _ := begun
        simp only [Run.step, told]
        exact ⟨faithfulNext, grows, honestNext, rfl, inMemory⟩
  | filing change feed created v =>
    simp only [Run.step, Archive.access, Archive.settle_of_no_directory inMemory]
    exact ⟨faithful, .refl, honest, rfl, inMemory⟩
  | remembering feed created v =>
    obtain ⟨writable, covered⟩ := honest
    simp only [Run.step]
    split
    · exact .of_same_store faithful inMemory trivial
    · have marked : Writable given a.store feedId
          { feed with etag := v.etag, lastModified := v.lastModified } :=
        ⟨writable.own, writable.stored, fun _ => covered⟩
      obtain ⟨change, next, begun, faithfulNext, grows, _, inMemory⟩ :=
        updateFeed_cases faithful inMemory now marked
      have told : Archive.access.updateFeed now
          { feed with etag := v.etag, lastModified := v.lastModified } a = _ := begun
      rw [told]
      exact ⟨faithfulNext, grows, trivial, rfl, inMemory⟩
  | marking change created =>
    simp only [Run.step, Archive.access, Archive.settle_of_no_directory inMemory]
    exact ⟨faithful, .refl, trivial, rfl, inMemory⟩
  | finished result => exact .of_same_store faithful inMemory honest

private theorem Honest.hear {feed : Feed} (honest : Honest given a.store run)
    (waits : run.stage = .fetching feed) (fetch : Except Fault FeedFetch) :
    Honest (given ++ givenDocuments run.feedId fetch) a.store (run.hear fetch) := by
  have grows : Grows given a.store (given ++ givenDocuments run.feedId fetch) a.store :=
    ⟨List.subset_append_left _ _, fun _ has => has⟩
  obtain ⟨feedId, stage⟩ := run
  cases waits
  cases fetch with
  | error fault => trivial
  | ok fetch =>
    cases fetch with
    | notModified => trivial
    | fetched document v =>
      exact ⟨Writable.grows honest grows, List.mem_append_right _ List.mem_cons_self⟩

end Steps

/-! ## Any number of runs -/

structure ArchiveRuns where
  archive : Archive
  runs : List Run
  given : List GivenDocument

namespace ArchiveRuns

def start : ArchiveRuns := ⟨.inMemory, [], []⟩

/-- One thing that happens. A call that adds a feed or updates an article is one of somebody else;
where nothing is written it does not matter which change is settled. -/
inductive Step : ArchiveRuns → ArchiveRuns → Prop where
  | insertFeed {b : ArchiveRuns} {now : Timestamp} {draft : DraftFeed} :
      Step b { b with archive := (b.archive.insertFeed now draft).2 }
  | updateArticle {b : ArchiveRuns} {now : Timestamp} {article : Article} :
      Step b { b with archive := (b.archive.updateArticle now article).2 }
  | settle {b : ArchiveRuns} {change : Change} :
      Step b { b with archive := (b.archive.settle change).2 }
  | start {b : ArchiveRuns} {feedId : Int} : Step b { b with runs := b.runs ++ [.start feedId] }
  /-- A run takes a stage. -/
  | go {archive : Archive} {earlier later : List Run} {run : Run} {given : List GivenDocument}
      {now : Timestamp} :
      Step ⟨archive, earlier ++ run :: later, given⟩
        ⟨(run.step Archive.access now archive).2,
          earlier ++ (run.step Archive.access now archive).1 :: later, given⟩
  /-- A run that waits for its document hears what came of it. -/
  | hear {archive : Archive} {earlier later : List Run} {run : Run} {given : List GivenDocument}
      {feed : Feed} {fetch : Except Fault FeedFetch} : run.stage = .fetching feed →
      Step ⟨archive, earlier ++ run :: later, given⟩
        ⟨archive, earlier ++ run.hear fetch :: later, given ++ givenDocuments run.feedId fetch⟩

abbrev Course : ArchiveRuns → ArchiveRuns → Prop := Relation.ReflTransGen Step

/-! ## The runs of a service -/

section Service

variable {a : Archive} {earlier later : List Run} {run : Run} {given : List GivenDocument}

private theorem course_steps (now : Timestamp) (limit : Nat) :
    Course ⟨a, earlier ++ run :: later, given⟩
      ⟨(run.steps Archive.access now limit a).2,
        earlier ++ (run.steps Archive.access now limit a).1 :: later, given⟩ := by
  induction limit generalizing run a with
  | zero => exact .refl
  | succ limit ih =>
    simp only [Run.steps]
    split
    · exact .refl
    · exact .head .go ih

/-- A run that goes on takes stages. -/
theorem course_proceed (now : Timestamp) :
    Course ⟨a, earlier ++ run :: later, given⟩
      ⟨(run.proceed Archive.access now a).2,
        earlier ++ (run.proceed Archive.access now a).1 :: later, given⟩ :=
  course_steps now run.stagesLeft

/-- A run that waited for its document, and has it now, goes on. -/
theorem course_goOn {v : Service Archive} (access : v.access = Archive.access) {feed : Feed}
    (waits : run.stage = .fetching feed) (fetch : Except Fault FeedFetch) (now : Nat) :
    ∃ moved,
      (v.goOn now ⟨run, some fetch⟩ a).1 = v.pause now moved (v.goOn now ⟨run, some fetch⟩ a).2 ∧
      Course ⟨a, earlier ++ run :: later, given⟩
        ⟨(v.goOn now ⟨run, some fetch⟩ a).2, earlier ++ moved :: later,
          given ++ givenDocuments run.feedId fetch⟩ := by
  have hears := @Step.hear a earlier later run given feed fetch waits
  refine ⟨((run.hear fetch).proceed v.access (v.date now) a).1, rfl, .head hears ?_⟩
  simp only [Service.goOn]
  rw [access]
  exact course_proceed (v.date now)

end Service

structure Sound (b : ArchiveRuns) : Prop where
  inMemory : b.archive.directory = none
  faithful : Faithful b.given b.archive.store
  runs : ∀ run ∈ b.runs, Honest b.given b.archive.store run

private theorem start_sound : start.Sound where
  inMemory := rfl
  faithful := ⟨Store.empty_sound, fun id feed found => by cases found⟩
  runs run member := by cases member

section Sound

variable {b next : ArchiveRuns} {archive : Archive} {earlier later : List Run} {run moved : Run}
  {given givenToo : List GivenDocument}

/-- The archive changes, and the runs stay where they are. -/
theorem Sound.elsewhere (sound : b.Sound) (inMemory : archive.directory = none)
    (kept : Faithful b.given archive.store ∧ Grows b.given b.archive.store b.given archive.store) :
    Sound { b with archive } where
  inMemory := inMemory
  faithful := kept.1
  runs run member := (sound.runs run member).grows kept.2

/-- One run goes on, and the others stay where they are. -/
theorem Sound.move (sound : Sound ⟨archive, earlier ++ run :: later, given⟩)
    {archiveToo : Archive} (inMemory : archiveToo.directory = none)
    (faithful : Faithful givenToo archiveToo.store)
    (grows : Grows given archive.store givenToo archiveToo.store)
    (honest : Honest givenToo archiveToo.store moved) :
    Sound ⟨archiveToo, earlier ++ moved :: later, givenToo⟩ := by
  refine ⟨inMemory, faithful, ?_⟩
  intro other member
  rcases List.mem_append.mp member with first | rest
  · exact (sound.runs other (List.mem_append_left _ first)).grows grows
  · rcases List.mem_cons.mp rest with rfl | last
    · exact honest
    · exact (sound.runs other (by simp [last])).grows grows

theorem Sound.step (sound : b.Sound) (step : Step b next) : next.Sound := by
  cases step with
  | @insertFeed b now draft =>
    have kept := sound.faithful.insertFeed now draft
    rw [← (Catalog.Traffic.begin_archive (Store.insertFeed now draft) b.archive).2] at kept
    exact sound.elsewhere ((Archive.begin_directory _ _).trans sound.inMemory) kept
  | @updateArticle b now article =>
    have kept := sound.faithful.begins_articles (sound.faithful.sound.updateArticle now article)
      (Store.updateArticle_feeds now article)
    rw [← (Catalog.Traffic.begin_archive (Store.updateArticle now article) b.archive).2] at kept
    exact sound.elsewhere ((Archive.begin_directory _ _).trans sound.inMemory) kept
  | @settle b change =>
    rw [Archive.settle_of_no_directory sound.inMemory]
    exact sound.elsewhere sound.inMemory ⟨sound.faithful, .refl⟩
  | @start b feedId =>
    refine ⟨sound.inMemory, sound.faithful, ?_⟩
    intro run member
    rcases List.mem_append.mp member with old | new
    · exact sound.runs run old
    · rw [List.mem_singleton.mp new]
      trivial
  | @go archive earlier later run given now =>
    have honest := sound.runs run (by simp)
    have goes := honest.step sound.faithful sound.inMemory now
    exact sound.move goes.inMemory goes.faithful goes.grows goes.honest
  | @hear archive earlier later run given feed fetch waits =>
    have honest := sound.runs run (by simp)
    have more : given ⊆ given ++ givenDocuments run.feedId fetch := List.subset_append_left _ _
    exact sound.move sound.inMemory (sound.faithful.more more) ⟨more, fun _ has => has⟩
      (honest.hear waits fetch)

private theorem Sound.course (sound : b.Sound) (course : Course b next) : next.Sound := by
  induction course with
  | refl => exact sound
  | tail _ last ih => exact ih.step last

end Sound

/-- Whatever runs there are and however they come in between each other, validators that are
stored came with a document that was given to a run for the feed, and the articles of all its links
are stored. -/
theorem validators_covered {b : ArchiveRuns} (course : Course start b) {feedId : Int} {feed : Feed}
    (found : b.archive.store.feed feedId = .ok feed) (marked : feed.validators.isEmpty = false) :
    ∃ document, ⟨feedId, document, feed.validators⟩ ∈ b.given ∧
      ∀ item ∈ document.items, ∀ link, itemLink? item = some link →
        link ∈ b.archive.store.articleUrls feedId := by
  have sound := start_sound.course course
  have stands : b.archive.store.feeds.get? feedId = some feed := by
    unfold Store.feed at found
    split at found
    · next stands =>
      cases found
      exact stands
    · cases found
  obtain ⟨document, received, stored⟩ := (sound.faithful.feeds feedId feed stands).covered marked
  refine ⟨document, received, ?_⟩
  intro item member link linked
  exact Store.mem_articleUrls.mpr (stored item member link linked)

/-! ## Two runs for one feed -/

/-- A document with one item, whose link has blanks around it. -/
def bulletin (title : String) : FeedDocument := ⟨title, none, [⟨"A", some " a ", none, none, none⟩]⟩

def version (etag : String) : Validators := ⟨some etag, none⟩

def bareFeed : Feed := DraftFeed.toFeed ⟨"u", "T", none⟩ 1 .epoch

def stocked : Archive := (Archive.inMemory.insertFeed .epoch ⟨"u", "T", none⟩).2

def waitingRun : Run := ⟨1, .fetching bareFeed⟩

private theorem course_waiting : Course start ⟨stocked, [waitingRun, waitingRun], []⟩ := by
  have inserts : Step start ⟨stocked, [], []⟩ := .insertFeed
  have loads : Step ⟨stocked, [.start 1, .start 1], []⟩ ⟨stocked, [waitingRun, .start 1], []⟩ :=
    @Step.go stocked [] [.start 1] (.start 1) [] .epoch
  have loadsToo :
      Step ⟨stocked, [waitingRun, .start 1], []⟩ ⟨stocked, [waitingRun, waitingRun], []⟩ :=
    @Step.go stocked [waitingRun] [] (.start 1) [] .epoch
  exact .head inserts (.head .start (.head .start (.head loads (.single loadsToo))))

/-- The first run stores what its document says of the feed, and its validators; the second one,
which loaded the feed before, writes the old title back with its own validators. -/
theorem crossing_covered :
    ∃ b feed, Course start b ∧ b.archive.store.feed 1 = .ok feed ∧ feed.title = "T" ∧
      feed.validators = version "y" ∧ feed.validators.isEmpty = false ∧
      ∃ document, ⟨1, document, feed.validators⟩ ∈ b.given ∧
        ∀ item ∈ document.items, ∀ link, itemLink? item = some link →
          link ∈ b.archive.store.articleUrls 1 := by
  have hears := @Step.hear stocked [] [waitingRun] waitingRun [] bareFeed
    (.ok (.fetched (bulletin "N") (version "x"))) rfl
  have first := Relation.ReflTransGen.head hears (course_proceed .epoch)
  have hearsToo := fun a run => @Step.hear a [run] [] waitingRun
    [⟨1, bulletin "N", version "x"⟩] bareFeed (.ok (.fetched (bulletin "") (version "y"))) rfl
  have second := fun a run =>
    Relation.ReflTransGen.head (hearsToo a run) (@course_proceed a [run] [] _ _ .epoch)
  have course := course_waiting.trans (first.trans (second _ _))
  exact ⟨_, _, course, rfl, rfl, rfl, rfl, validators_covered course rfl rfl⟩

end ArchiveRuns

end FeedIngest.Ingest
