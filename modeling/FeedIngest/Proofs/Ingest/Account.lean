import FeedIngest.Proofs.Catalog.Numbering
import FeedIngest.Proofs.Catalog.Reliability
import FeedIngest.Proofs.Ingest.Solo

/-!
# The account of a run alone

At every stage, what a run alone has done to an archive so far is known exactly from the archive
that it began with and from what it got for its document. It has put one row for its feed, at most,
and added one batch of articles, at most; a batch that could not be written was taken back. If all
writes succeed, the row says what the document says, and at last it has the validators too.
-/

set_option autoImplicit false

namespace FeedIngest.Ingest

open Catalog (Archive Article ArticleKey Change Draft Feed Store Validators newKeys)
open Syndication (FeedDocument FeedItem)
open Time (Timestamp)

/-! ## Rows of a feed -/

inductive Noted (row : Feed) (document : FeedDocument) : Feed → Prop where
  | kept : Noted row document row
  | described {date : Timestamp} :
      Noted row document { describe row document with updatedAt := date }

inductive Marked (feed : Feed) (v : Validators) : Feed → Prop where
  | kept : Marked feed v feed
  | marked {date : Timestamp} :
      Marked feed v
        { feed with etag := v.etag, lastModified := v.lastModified, updatedAt := date }

section Rows

variable {row feed : Feed} {document : FeedDocument} {v : Validators}

/-- A document has nothing more to say of a feed that it described. -/
theorem describe_described (row : Feed) (document : FeedDocument) (date : Timestamp) :
    describe { describe row document with updatedAt := date } document =
      { describe row document with updatedAt := date } := by
  unfold describe
  cases document.description with
  | none => split <;> rfl
  | some text => split <;> rfl

private theorem Noted.id (noted : Noted row document feed) : feed.id = row.id := by
  cases noted <;> rfl

theorem Noted.validators (noted : Noted row document feed) :
    feed.validators = row.validators := by
  cases noted <;> rfl

theorem Marked.id (marked : Marked row v feed) : feed.id = row.id := by
  cases marked <;> rfl

theorem Marked.describe (marked : Marked row v feed) (described : describe row document = row) :
    describe feed document = feed := by
  cases marked with
  | kept => exact described
  | marked =>
    have title := congrArg Feed.title described
    have description := congrArg Feed.description described
    simp only [Ingest.describe] at title description ⊢
    rw [title, description]

end Rows

/-! ## Keys of fresh drafts -/

def storedKeys (s : Store) (feedId : Int) : List ArticleKey :=
  (s.articleUrls feedId).map fun url => ⟨feedId, url⟩

theorem mem_storedKeys {s : Store} {feedId : Int} {link : String} :
    ⟨feedId, link⟩ ∈ storedKeys s feedId ↔ s.Has (.article ⟨feedId, link⟩) := by
  refine Iff.trans ?_ Store.mem_articleUrls
  simp [storedKeys]

/-- The keys that a run alone brings into a store, if all its writes succeed. -/
def broughtKeys (s : Store) (feedId : Int) (document : FeedDocument) : List ArticleKey :=
  newKeys s.keys (newKeys (storedKeys s feedId) (articleKeys feedId document))

/-- What comes of a run alone whose writes succeed: the keys of the articles that it returns. -/
def expected (s : Store) (feedId : Int) (fetch : Except Fault FeedFetch) :
    Except Fault (List ArticleKey) :=
  match s.feed feedId with
  | .error fault => .error fault
  | .ok _ =>
    match fetch with
    | .error fault => .error fault
    | .ok .notModified => .ok []
    | .ok (.fetched document _) => .ok (broughtKeys s feedId document)

section Keys

variable {feedId : Int}

private theorem unseen_keys (known : List String) {drafts : List Draft}
    (own : ∀ draft ∈ drafts, draft.feedId = feedId) :
    (unseen known drafts).map (·.key) =
      newKeys (known.map fun url => ⟨feedId, url⟩) (drafts.map (·.key)) := by
  induction drafts generalizing known with
  | nil => rfl
  | cons draft drafts ih =>
    obtain ⟨here, others⟩ := List.forall_mem_cons.mp own
    have key : draft.key = ⟨feedId, draft.url⟩ := by rw [Draft.key, here]
    have same : (known.map fun url => (⟨feedId, url⟩ : ArticleKey)).contains draft.key =
        known.contains draft.url := by
      rw [key, Bool.eq_iff_iff, List.contains_iff_mem, List.contains_iff_mem, List.mem_map]
      simp
    rw [List.map_cons, newKeys, same, unseen]
    split
    · exact ih known others
    · rw [List.map_cons, ih (draft.url :: known) others, List.map_cons, key]

theorem freshDrafts_keys (now : Timestamp) (known : List String) (document : FeedDocument) :
    (freshDrafts feedId now known document.items).map (·.key) =
      newKeys (known.map fun url => ⟨feedId, url⟩) (articleKeys feedId document) := by
  unfold freshDrafts
  rw [unseen_keys]
  · unfold articleKeys links
    rw [List.map_filterMap, List.map_filterMap]
    congr 2
    funext item
    unfold Draft.ofItem? itemLink?
    rw [Option.map_map]
    rfl
  · intro draft member
    obtain ⟨item, _, drafted⟩ := List.mem_filterMap.mp member
    obtain ⟨_, _, rfl⟩ := Option.map_eq_some_iff.mp drafted
    rfl

end Keys

/-! ## Stages -/

/-- The row that a run has for its feed when it has told what the document says of it. -/
structure Told (sure : Prop) (s : Store) (feedId : Int) (document : FeedDocument) (feed : Feed) :
    Prop where
  noted : ∃ row, s.feeds.get? feedId = some row ∧ Noted row document feed
  described : sure → describe feed document = feed

/-- The run has brought the articles of its document into the store, which is `next` then. -/
structure Brought (dates : Timestamp → Prop) (sure : Prop) (s : Store) (feedId : Int)
    (document : FeedDocument) (feed : Feed) (created : List Article) (next : Store) : Prop where
  told : Told sure s feedId document feed
  added : ∃ date now, dates date ∧ dates now ∧ Store.addArticles now
    (freshDrafts feedId date (s.articleUrls feedId) document.items) (s.withFeed feed) =
      (created, next)

/-- Where a run alone stands that began with the archive `a` and went on at some dates, and what the
archive is then. All writes succeed if that is `sure`. -/
inductive Follows (dates : Timestamp → Prop) (sure : Prop) (a : Archive) (feedId : Int)
    (fetch : Except Fault FeedFetch) : Archive → Stage → Prop where
  | loading : Follows dates sure a feedId fetch a .loading
  | unknown {fault : Fault} : a.store.feed feedId = .error fault →
      Follows dates sure a feedId fetch a (.finished (.error fault))
  | fetching {row : Feed} : a.store.feeds.get? feedId = some row →
      Follows dates sure a feedId fetch a (.fetching row)
  | unanswered {row : Feed} {fault : Fault} : a.store.feeds.get? feedId = some row →
      fetch = .error fault → Follows dates sure a feedId fetch a (.finished (.error fault))
  | unmodified {row : Feed} : a.store.feeds.get? feedId = some row → fetch = .ok .notModified →
      Follows dates sure a feedId fetch a (.finished (.ok []))
  | describing {row : Feed} {document : FeedDocument} {v : Validators} :
      a.store.feeds.get? feedId = some row → fetch = .ok (.fetched document v) →
      Follows dates sure a feedId fetch a (.describing row document v)
  | noting {b : Archive} {row feed : Feed} {document : FeedDocument} {v : Validators}
      {date : Timestamp} : a.store.feeds.get? feedId = some row →
      fetch = .ok (.fetched document v) → feed = { describe row document with updatedAt := date } →
      b.store = a.store.withFeed feed →
      Follows dates sure a feedId fetch b (.noting (.feedUpdated row feed) feed row document v)
  | listing {b : Archive} {feed : Feed} {document : FeedDocument} {v : Validators} :
      fetch = .ok (.fetched document v) → Told sure a.store feedId document feed →
      b.store = a.store.withFeed feed →
      Follows dates sure a feedId fetch b (.listing feed document v)
  | creating {b : Archive} {feed : Feed} {document : FeedDocument} {v : Validators}
      {fresh : List Draft} {date : Timestamp} : fetch = .ok (.fetched document v) →
      Told sure a.store feedId document feed → b.store = a.store.withFeed feed → dates date →
      fresh = freshDrafts feedId date (a.store.articleUrls feedId) document.items →
      Follows dates sure a feedId fetch b (.creating feed fresh v)
  | filing {b : Archive} {feed : Feed} {document : FeedDocument} {v : Validators}
      {created : List Article} : fetch = .ok (.fetched document v) →
      Brought dates sure a.store feedId document feed created b.store →
      Follows dates sure a feedId fetch b (.filing (.articlesCreated created) feed created v)
  | undone {b : Archive} {feed : Feed} {document : FeedDocument} {v : Validators} {last : Int}
      {fault : Fault} : ¬sure → fetch = .ok (.fetched document v) →
      Told sure a.store feedId document feed → a.store.lastArticleId ≤ last →
      b.store = { a.store.withFeed feed with lastArticleId := last } →
      Follows dates sure a feedId fetch b (.finished (.error fault))
  | remembering {b : Archive} {feed : Feed} {document : FeedDocument} {v : Validators}
      {created : List Article} : fetch = .ok (.fetched document v) →
      Brought dates sure a.store feedId document feed created b.store →
      Follows dates sure a feedId fetch b (.remembering feed created v)
  | marking {b : Archive} {feed last : Feed} {document : FeedDocument} {v : Validators}
      {created : List Article} {s : Store} {date : Timestamp} : fetch = .ok (.fetched document v) →
      Brought dates sure a.store feedId document feed created s →
      last = { feed with etag := v.etag, lastModified := v.lastModified, updatedAt := date } →
      b.store = s.withFeed last →
      Follows dates sure a feedId fetch b (.marking (.feedUpdated feed last) created)
  | complete {b : Archive} {feed last : Feed} {document : FeedDocument} {v : Validators}
      {created : List Article} {s : Store} : fetch = .ok (.fetched document v) →
      Brought dates sure a.store feedId document feed created s → Marked feed v last →
      (sure → last.validators = v) → b.store = s.withFeed last →
      Follows dates sure a feedId fetch b (.finished (.ok created))

section Steps

variable {dates : Timestamp → Prop} {sure : Prop} {a b : Archive} {feedId : Int}
  {fetch : Except Fault FeedFetch} {run : Run} {s next : Store} {feed : Feed}
  {document : FeedDocument} {created : List Article}

theorem Told.id (told : Told sure s feedId document feed) (numbered : s.Numbered) :
    feed.id = feedId := by
  obtain ⟨row, found, noted⟩ := told.noted
  exact noted.id.trans (numbered.feeds found)

theorem Brought.takes (brought : Brought dates sure s feedId document feed created next) :
    ∃ drafts, (s.withFeed feed).Takes drafts created next ∧
      drafts.map (·.key) = newKeys (storedKeys s feedId) (articleKeys feedId document) ∧
      ∃ date, drafts = freshDrafts feedId date (s.articleUrls feedId) document.items := by
  obtain ⟨date, now, _, _, added⟩ := brought.added
  refine ⟨_, ?_, freshDrafts_keys date _ document, date, rfl⟩
  have takes := Store.takes_addArticles now
    (freshDrafts feedId date (s.articleUrls feedId) document.items) (s.withFeed feed)
  rw [added] at takes
  exact takes

private theorem Brought.get? (brought : Brought dates sure s feedId document feed created next) :
    next.feeds.get? feed.id = some feed := by
  obtain ⟨drafts, takes, _⟩ := brought.takes
  rw [takes.feeds]
  exact s.get?_withFeed feed

structure Keeps (dates : Timestamp → Prop) (sure : Prop) (a : Archive) (feedId : Int)
    (fetch : Except Fault FeedFetch) (after : Run × Archive) : Prop where
  own : after.1.feedId = feedId
  follows : Follows dates sure a feedId fetch after.2 after.1.stage
  reliable : sure → after.2.Reliable

/-- A change is written or taken back, and it is written if that is sure. -/
theorem settle_cases (reliable : sure → b.Reliable) (change : Change) :
    (∃ c, b.settle change = (.ok (), c) ∧ c.store = b.store ∧ (sure → c.Reliable)) ∨
      ∃ c fault, b.settle change = (.error fault, c) ∧ c.store = b.store.undo change ∧ ¬sure := by
  by_cases certain : sure
  · obtain ⟨c, settled, same, reliable⟩ := (reliable certain).settle change
    exact .inl ⟨c, settled, same, fun _ => reliable⟩
  · rcases Catalog.Traffic.settle_cases b change with ⟨done, same⟩ | ⟨reason, failed, undone⟩
    · exact .inl ⟨_, Prod.ext done rfl, same, fun certainly => absurd certainly certain⟩
    · exact .inr ⟨_, _, Prod.ext failed rfl, undone, certain⟩

theorem updateFeed_of_get? (now : Timestamp) {before : Feed}
    (found : b.store.feeds.get? feed.id = some before) :
    Archive.access.updateFeed now feed b =
      (.pending (.feedUpdated before { feed with updatedAt := now }) { feed with updatedAt := now },
        { b with
          store := b.store.withFeed { feed with updatedAt := now }
          unsettled := b.unsettled + 1 }) := by
  show b.begin (Store.updateFeed now feed) = _
  rw [Archive.begin, Store.updateFeed_of_get? now found]

theorem Follows.describing_step {row : Feed} {v : Validators} (numbered : a.store.Numbered)
    (found : a.store.feeds.get? feedId = some row) (heard : fetch = .ok (.fetched document v))
    (reliable : sure → a.Reliable) (now : Timestamp) :
    Keeps dates sure a feedId fetch
      (Run.step Archive.access now ⟨feedId, .describing row document v⟩ a) := by
  have own : row.id = feedId := numbered.feeds found
  simp only [Run.step]
  split
  · next same =>
    have stays : a.store = a.store.withFeed row :=
      (Store.withFeed_of_get? (own.symm ▸ found)).symm
    exact ⟨rfl, .listing heard ⟨⟨row, found, .kept⟩, fun _ => same⟩ stays, reliable⟩
  · have foundToo : a.store.feeds.get? (describe row document).id = some row := own.symm ▸ found
    rw [updateFeed_of_get? now foundToo]
    exact ⟨rfl, .noting found heard rfl rfl, reliable⟩

theorem Follows.creating_step {v : Validators} {fresh : List Draft} {date : Timestamp}
    (heard : fetch = .ok (.fetched document v)) (told : Told sure a.store feedId document feed)
    (stored : b.store = a.store.withFeed feed)
    (dated : dates date)
    (drafted : fresh = freshDrafts feedId date (a.store.articleUrls feedId) document.items)
    (reliable : sure → b.Reliable) {now : Timestamp} (datedNow : dates now) :
    Keeps dates sure a feedId fetch
      (Run.step Archive.access now ⟨feedId, .creating feed fresh v⟩ b) := by
  cases fresh with
  | nil =>
    have brought : Brought dates sure a.store feedId document feed [] b.store := by
      refine ⟨told, date, now, dated, datedNow, ?_⟩
      rw [← drafted, Store.addArticles, stored]
    exact ⟨rfl, .remembering heard brought, reliable⟩
  | cons draft drafts =>
    cases added : Store.addArticles now (draft :: drafts) b.store with
    | mk created next =>
      have brought : Brought dates sure a.store feedId document feed created next := by
        refine ⟨told, date, now, dated, datedNow, ?_⟩
        rw [← drafted, ← stored, added]
      cases created with
      | nil =>
        have call : Archive.access.createArticles now (draft :: drafts) b =
            (.answered (.ok []), { b with store := next }) := by
          show b.begin (Store.createArticles now (draft :: drafts)) = _
          simp only [Archive.begin, Store.createArticles, added]
        simp only [Run.step, call]
        exact ⟨rfl, .remembering heard brought, fun certain => (reliable certain).congr rfl⟩
      | cons article articles =>
        have call : Archive.access.createArticles now (draft :: drafts) b =
            (.pending (.articlesCreated (article :: articles)) (article :: articles),
              { b with store := next, unsettled := b.unsettled + 1 }) := by
          show b.begin (Store.createArticles now (draft :: drafts)) = _
          simp only [Archive.begin, Store.createArticles, added]
        simp only [Run.step, call]
        exact ⟨rfl, .filing heard brought, fun certain => (reliable certain).congr rfl⟩

theorem Follows.remembering_step {v : Validators} (heard : fetch = .ok (.fetched document v))
    (brought : Brought dates sure a.store feedId document feed created b.store)
    (reliable : sure → b.Reliable) (now : Timestamp) :
    Keeps dates sure a feedId fetch
      (Run.step Archive.access now ⟨feedId, .remembering feed created v⟩ b) := by
  simp only [Run.step]
  split
  · next same =>
    have stays : b.store = b.store.withFeed feed := (Store.withFeed_of_get? brought.get?).symm
    exact ⟨rfl, .complete heard brought .kept (fun _ => same.symm) stays, reliable⟩
  · have found : b.store.feeds.get?
        { feed with etag := v.etag, lastModified := v.lastModified : Feed }.id = some feed :=
      brought.get?
    rw [updateFeed_of_get? now found]
    exact ⟨rfl, .marking heard brought rfl rfl, fun certain => (reliable certain).congr rfl⟩

/-- What a run has done is known after each stage, too. -/
theorem Follows.step {stage : Stage} (follows : Follows dates sure a feedId fetch b stage)
    (numbered : a.store.Numbered) (reliable : sure → b.Reliable) {now : Timestamp}
    (dated : dates now) :
    Keeps dates sure a feedId fetch (Run.step Archive.access now ⟨feedId, stage⟩ b) := by
  cases follows with
  | loading =>
    cases found : a.store.feeds.get? feedId with
    | none =>
      have told : Archive.access.feed feedId a = (.error (.feedNotFound feedId), a) := by
        simp only [Archive.access, Store.feed, found]
      simp only [Run.step, told]
      exact ⟨rfl, .unknown (by rw [Store.feed, found]), reliable⟩
    | some row =>
      have told : Archive.access.feed feedId a = (.ok row, a) := by
        simp only [Archive.access, Store.feed, found]
      simp only [Run.step, told]
      exact ⟨rfl, .fetching found, reliable⟩
  | unknown refused => exact ⟨rfl, .unknown refused, reliable⟩
  | fetching found => exact ⟨rfl, .fetching found, reliable⟩
  | unanswered found failed => exact ⟨rfl, .unanswered found failed, reliable⟩
  | unmodified found same => exact ⟨rfl, .unmodified found same, reliable⟩
  | describing found heard => exact describing_step numbered found heard reliable now
  | @noting b row feed document v date found heard described stored =>
    have own : row.id = feedId := numbered.feeds found
    rcases settle_cases reliable (.feedUpdated row feed) with
      ⟨c, settled, same, reliable⟩ | ⟨c, fault, settled, undone, unsure⟩
    · simp only [Run.step, Archive.access, settled]
      have told : Told sure a.store feedId document feed := by
        refine ⟨⟨row, found, described ▸ .described⟩, fun _ => ?_⟩
        rw [described]
        exact describe_described row document date
      exact ⟨rfl, .listing heard told (same.trans stored), reliable⟩
    · simp only [Run.step, Archive.access, settled]
      have told : Told sure a.store feedId document row :=
        ⟨⟨row, found, .kept⟩, fun certain => absurd certain unsure⟩
      have back : c.store = a.store.withFeed row := by
        have sameId : row.id = feed.id := described ▸ rfl
        rw [undone, stored, Store.undo_withFeed sameId]
      exact ⟨rfl, .listing heard told back, fun certain => absurd certain unsure⟩
  | @listing b feed document v heard told stored =>
    have urls : b.store.articleUrls feedId = a.store.articleUrls feedId := by rw [stored]; rfl
    have drafted : freshDrafts feedId now (b.store.articleUrls feedId) document.items =
        freshDrafts feedId now (a.store.articleUrls feedId) document.items := by rw [urls]
    exact ⟨rfl, .creating heard told stored dated drafted, reliable⟩
  | creating heard told stored drafting drafted =>
    exact creating_step heard told stored drafting drafted reliable dated
  | @filing b feed document v created heard brought =>
    rcases settle_cases reliable (.articlesCreated created) with
      ⟨c, settled, same, reliable⟩ | ⟨c, fault, settled, undone, unsure⟩
    · simp only [Run.step, Archive.access, settled]
      exact ⟨rfl, .remembering heard (same ▸ brought), reliable⟩
    · simp only [Run.step, Archive.access, settled]
      obtain ⟨drafts, takes, _⟩ := brought.takes
      have back := undone.trans (takes.undo (numbered.withFeed feed))
      have rises : a.store.lastArticleId ≤ b.store.lastArticleId := takes.lastArticleId
      exact ⟨rfl, .undone unsure heard brought.told rises back,
        fun certain => absurd certain unsure⟩
  | undone unsure heard told rises stored =>
    exact ⟨rfl, .undone unsure heard told rises stored, reliable⟩
  | remembering heard brought => exact remembering_step heard brought reliable now
  | @marking b feed last document v created s date heard brought marked stored =>
    rcases settle_cases reliable (.feedUpdated feed last) with
      ⟨c, settled, same, reliable⟩ | ⟨c, fault, settled, undone, unsure⟩
    · simp only [Run.step, Archive.access, settled]
      have marks : Marked feed v last := marked ▸ .marked
      have validators : last.validators = v := by rw [marked]; rfl
      exact ⟨rfl, .complete heard brought marks (fun _ => validators) (same.trans stored), reliable⟩
    · simp only [Run.step, Archive.access, settled]
      have back : c.store = s.withFeed feed := by
        have sameId : feed.id = last.id := marked ▸ rfl
        rw [undone, stored, Store.undo_withFeed sameId]
      exact ⟨rfl, .complete heard brought .kept (fun certain => absurd certain unsure) back,
        fun certain => absurd certain unsure⟩
  | complete heard brought marked validators stored =>
    exact ⟨rfl, .complete heard brought marked validators stored, reliable⟩

private theorem Follows.hear {stage : Stage} (follows : Follows dates sure a feedId fetch b stage) :
    Follows dates sure a feedId fetch b (Run.hear fetch ⟨feedId, stage⟩).stage := by
  cases stage with
  | fetching row =>
    cases follows with
    | fetching found =>
      cases fetch with
      | error fault => exact .unanswered found rfl
      | ok fetch =>
        cases fetch with
        | notModified => exact .unmodified found rfl
        | fetched document v => exact .describing found rfl
  | _ => exact follows

/-- So it is known at any time what a run alone has done. -/
theorem follows_of_turns {after : Run × Archive}
    (turns : Run.Turns Archive.access fetch dates (.start feedId, a) after)
    (numbered : a.store.Numbered) (reliable : sure → a.Reliable) :
    Keeps dates sure a feedId fetch after := by
  induction turns with
  | refl => exact ⟨rfl, .loading, reliable⟩
  | tail _ last ih =>
    obtain ⟨own, follows, reliable⟩ := ih
    cases last with
    | @hear r b =>
      obtain ⟨_, stage⟩ := r
      cases own
      refine ⟨?_, follows.hear, reliable⟩
      cases stage with
      | fetching row =>
        cases fetch with
        | error fault => rfl
        | ok fetch => cases fetch <;> rfl
      | _ => rfl
    | @step r b now dated =>
      obtain ⟨_, stage⟩ := r
      cases own
      exact follows.step numbered reliable dated

/-- The keys of what a run alone returns depend on the store that it began with, and not on when it
went on. -/
theorem Follows.outcome {result : Except Fault (List Article)} (certain : sure)
    (follows : Follows dates sure a feedId fetch b (.finished result)) :
    result.map (List.map (·.key)) = expected a.store feedId fetch := by
  unfold expected
  cases follows with
  | unknown refused =>
    rw [refused]
    rfl
  | unanswered found failed =>
    simp only [Store.feed, found, failed]
    rfl
  | unmodified found same =>
    simp only [Store.feed, found, same]
    rfl
  | undone unsure => exact absurd certain unsure
  | @complete _ feed _ document v created s heard brought _ _ _ =>
    obtain ⟨row, found, _⟩ := brought.told.noted
    obtain ⟨drafts, takes, keys, _⟩ := brought.takes
    simp only [Store.feed, found, heard]
    refine congrArg Except.ok (takes.created.trans ?_)
    rw [keys]
    rfl

end Steps

/-! ## The runs of a service -/

/-- A service with access to archives, whose source has `fetch` for the document of a feed. -/
structure Service.Delivers (v : Service Archive) (feedId : Int) (a : Archive)
    (fetch : Except Fault FeedFetch) : Prop where
  access : v.access = Archive.access
  answers : v.Answers feedId a fetch

namespace Service.Delivers

variable {v : Service Archive} {a : Archive} {feedId : Int} {fetch : Except Fault FeedFetch}

theorem turns (delivers : v.Delivers feedId a fetch) (now : Nat) (moments : List Nat) :
    (∃ r, Run.Turns Archive.access fetch (v.Dates (now :: moments)) (.start feedId, a)
        (r, (v.ingest now moments feedId a).2) ∧
      r.result? = (v.ingest now moments feedId a).1) ∧
    (4 ≤ moments.length → (v.ingest now moments feedId a).1.isSome) := by
  have told : ∃ answer, v.access.feed feedId a = (answer, a) := by
    rw [delivers.access]
    exact ⟨_, rfl⟩
  have dated : ∀ moment ∈ now :: moments, v.Dates (now :: moments) (v.date moment) :=
    fun moment among => ⟨moment, among, rfl⟩
  have turns := ingest_turns dated told delivers.answers
  rw [delivers.access] at turns
  exact turns

theorem exists_result (delivers : v.Delivers feedId a fetch) (now : Nat) {moments : List Nat}
    (enough : 4 ≤ moments.length) :
    ∃ result b, v.ingest now moments feedId a = (some result, b) := by
  obtain ⟨result, returned⟩ := Option.isSome_iff_exists.mp ((delivers.turns now moments).2 enough)
  exact ⟨result, _, Prod.ext returned rfl⟩

/-- What a run returned, and where it stood then. -/
theorem follows {sure : Prop} (delivers : v.Delivers feedId a fetch) (numbered : a.store.Numbered)
    (reliable : sure → a.Reliable) {now : Nat} {moments : List Nat}
    {result : Except Fault (List Article)} {b : Archive}
    (returned : v.ingest now moments feedId a = (some result, b)) :
    Follows (v.Dates (now :: moments)) sure a feedId fetch b (.finished result) := by
  obtain ⟨⟨r, turns, ended⟩, _⟩ := delivers.turns now moments
  rw [returned] at turns ended
  have follows := (follows_of_turns turns numbered reliable).follows
  obtain ⟨_, stage⟩ := r
  cases stage <;> cases ended
  exact follows

end Service.Delivers

end FeedIngest.Ingest
