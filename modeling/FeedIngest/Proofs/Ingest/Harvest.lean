import FeedIngest.Proofs.Catalog.Loading
import FeedIngest.Proofs.Catalog.Recovery
import FeedIngest.Proofs.Ingest.Repetition

/-!
# What a run alone brings

A run alone whose writes succeed goes through its document once. It leaves out blank links, links
that are listed for its feed, and repetitions; and the store leaves out the keys that it knows. So
the articles that it returns are one for each link that was missing, in the order of the document,
with what the first item with the link says, and they come behind the articles that the feed had.
Only a key that the store knows, although its link is not listed, stands in the way of a link.
-/

set_option autoImplicit false

namespace FeedIngest

open Time (Timestamp)

/-! ## Repetitions -/

private theorem eraseDups_filter {α : Type} [DecidableEq α] (p : α → Bool) :
    (values : List α) → (values.filter p).eraseDups = values.eraseDups.filter p
  | [] => rfl
  | first :: rest => by
    have later := eraseDups_filter p (rest.filter fun value => !value == first)
    rw [List.eraseDups_cons]
    by_cases kept : p first = true
    · rw [List.filter_cons_of_pos kept, List.eraseDups_cons, List.filter_cons_of_pos kept, ← later,
        List.filter_filter, List.filter_filter]
      simp only [Bool.and_comm]
    · rw [List.filter_cons_of_neg kept, List.filter_cons_of_neg kept, ← later, List.filter_filter]
      congr 1
      refine List.filter_congr fun value _ => ?_
      by_cases here : value = first
      · simp [here, kept]
      · simp [here]
termination_by values => values.length
decreasing_by exact Nat.lt_succ_of_le (List.length_filter_le _ _)

namespace Ingest

open Catalog (Archive Article ArticleKey Draft Feed Shelf Store Validators)
open Syndication (FeedDocument FeedItem)

/-! ## Fresh drafts -/

section Unseen

variable {known : List String} {drafts : List Draft} {draft : Draft}

theorem unseen_urls (known : List String) (drafts : List Draft) :
    (unseen known drafts).map (·.url) =
      (drafts.map (·.url)).eraseDups.filter (· ∉ known) := by
  induction drafts generalizing known with
  | nil => rfl
  | cons first rest ih =>
    -- Both sides drop the later drafts with this link, one of them because the link is known then.
    rw [List.map_cons, List.eraseDups_cons, eraseDups_filter, unseen]
    split
    · next skipped =>
      have skipped : first.url ∈ known := List.contains_iff_mem.mp skipped
      rw [ih, List.filter_cons_of_neg (by simpa using skipped), List.filter_filter]
      refine List.filter_congr fun url _ => ?_
      by_cases here : url = first.url
      · simp [here, skipped]
      · simp [here]
    · next new =>
      have new : first.url ∉ known := mt List.contains_iff_mem.mpr new
      rw [List.map_cons, ih, List.filter_cons_of_pos (by simpa using new), List.filter_filter]
      congr 1
      refine List.filter_congr fun url _ => ?_
      by_cases here : url = first.url
      · simp [here]
      · simp [here]

theorem url_not_mem_of_mem_unseen (member : draft ∈ unseen known drafts) : draft.url ∉ known := by
  have url : draft.url ∈ (unseen known drafts).map (·.url) := List.mem_map_of_mem member
  rw [unseen_urls] at url
  exact of_decide_eq_true (List.mem_filter.mp url).2

private theorem unseen_urls_nodup (known : List String) (drafts : List Draft) :
    ((unseen known drafts).map (·.url)).Nodup := by
  induction drafts generalizing known with
  | nil => exact List.nodup_nil
  | cons first rest ih =>
    unfold unseen
    split
    · exact ih known
    · refine List.nodup_cons.mpr ⟨fun again => ?_, ih (first.url :: known)⟩
      obtain ⟨draft, member, same⟩ := List.mem_map.mp again
      exact url_not_mem_of_mem_unseen member (same ▸ List.mem_cons_self)

/-- A draft that is left is the first one with its link. -/
theorem find?_of_mem_unseen (member : draft ∈ unseen known drafts) :
    drafts.find? (·.url == draft.url) = some draft := by
  induction drafts generalizing known with
  | nil => cases member
  | cons first rest ih =>
    have fresh := url_not_mem_of_mem_unseen member
    unfold unseen at member
    split at member
    · next skipped =>
      have differs : first.url ≠ draft.url := fun same =>
        fresh (same ▸ List.contains_iff_mem.mp skipped)
      rw [List.find?_cons_of_neg (by simpa using differs)]
      exact ih member
    · rcases List.mem_cons.mp member with rfl | later
      · exact List.find?_cons_of_pos (beq_self_eq_true _)
      · have differs : first.url ≠ draft.url := fun same =>
          url_not_mem_of_mem_unseen later (same ▸ List.mem_cons_self)
        rw [List.find?_cons_of_neg (by simpa using differs)]
        exact ih later

end Unseen

section FreshDrafts

variable {feedId : Int} {date : Timestamp} {known : List String} {document : FeedDocument}
  {draft : Draft}

private theorem freshDrafts_urls (feedId : Int) (date : Timestamp) (known : List String)
    (document : FeedDocument) :
    (freshDrafts feedId date known document.items).map (·.url) =
      (links document).eraseDups.filter (· ∉ known) := by
  have urls : (document.items.filterMap fun item => Draft.ofItem? feedId item date).map (·.url) =
      links document := by
    unfold links
    rw [List.map_filterMap]
    congr 1
    funext item
    unfold Draft.ofItem? itemLink?
    rw [Option.map_map]
    exact Option.map_id'
  rw [freshDrafts, unseen_urls, urls]

/-- A fresh draft is that of the first item with its link. -/
theorem exists_item_of_mem_freshDrafts
    (fresh : draft ∈ freshDrafts feedId date known document.items) :
    ∃ item, document.items.find? (itemLink? · == some draft.url) = some item ∧
      draft = ⟨feedId, item.title, draft.url, item.description, item.content,
        item.publishedAt.getD date⟩ := by
  have first := find?_of_mem_unseen fresh
  rw [List.find?_filterMap, Option.bind_eq_some_iff] at first
  obtain ⟨item, found, drafted⟩ := first
  refine ⟨item, ?_, ?_⟩
  · rw [← found]
    congr 1
    funext other
    unfold Draft.ofItem? itemLink?
    cases other.url.bind Text.nonBlank? <;> simp
  · obtain ⟨url, _, rfl⟩ := Option.map_eq_some_iff.mp drafted
    rfl

private theorem key_of_mem_freshDrafts
    (fresh : draft ∈ freshDrafts feedId date known document.items) :
    draft.key = ⟨feedId, draft.url⟩ := by
  obtain ⟨item, _, made⟩ := exists_item_of_mem_freshDrafts fresh
  rw [made]
  rfl

private theorem freshDrafts_keys_nodup (feedId : Int) (date : Timestamp) (known : List String)
    (document : FeedDocument) :
    ((freshDrafts feedId date known document.items).map (·.key)).Nodup := by
  refine List.Nodup.of_map (·.url) ?_
  rw [List.map_map]
  exact unseen_urls_nodup known _

end FreshDrafts

/-! ## The harvest -/

/-- The links of a document that are not listed for a feed, each where it comes first. -/
def missingLinks (s : Store) (feedId : Int) (document : FeedDocument) : List String :=
  (links document).eraseDups.filter (· ∉ s.articleUrls feedId)

/-- The article says what the first item with its link says. It is published at that date, unless
the item has a date of its own. -/
def Relates (document : FeedDocument) (date : Timestamp) (article : Article) : Prop :=
  ∃ item, document.items.find? (itemLink? · == some article.url) = some item ∧
    article.title = item.title ∧ article.description = item.description ∧
    article.content = item.content ∧ article.publishedAt = item.publishedAt.getD date

/-- What a run has made of a store, when all that its document brings is in it and in `created`. -/
structure Harvest (s next : Store) (feedId : Int) (document : FeedDocument) (v : Validators)
    (date : Timestamp) (created : List Article) : Prop where
  urls : created.map (·.url) =
    (missingLinks s feedId document).filter fun url => ⟨feedId, url⟩ ∉ s.keys
  ids : created.map (·.id) =
    (List.range created.length).map fun n : Nat => s.lastArticleId + 1 + n
  new : ∀ article ∈ created, s.articles.get? article.id = none
  relates : ∀ article ∈ created, Relates document date article
  own : next.articlesOf feedId = s.articlesOf feedId ++ created
  others : ∀ other, other ≠ feedId → next.articlesOf other = s.articlesOf other
  feed : ∃ row last, s.feeds.get? feedId = some row ∧ next.feeds.get? feedId = some last ∧
    last = { row with
      title := if document.title = "" then row.title else document.title
      description := document.description.or row.description
      etag := v.etag
      lastModified := v.lastModified
      updatedAt := last.updatedAt }
  otherFeeds : ∀ other, other ≠ feedId → next.feeds.get? other = s.feeds.get? other

section Rows

variable {row feed last : Feed} {document : FeedDocument} {v : Validators}

private theorem describe_eq_or (row : Feed) (document : FeedDocument) :
    describe row document = { row with
      title := if document.title = "" then row.title else document.title
      description := document.description.or row.description } := by
  unfold describe
  cases document.description <;> rfl

private theorem Noted.eq (noted : Noted row document feed)
    (described : Ingest.describe feed document = feed) :
    feed = { Ingest.describe row document with updatedAt := feed.updatedAt } := by
  cases noted with
  | kept => rw [described]
  | described => rfl

private theorem Marked.eq (marked : Marked feed v last) (validators : last.validators = v) :
    last = { feed with
      etag := v.etag
      lastModified := v.lastModified
      updatedAt := last.updatedAt } := by
  cases marked with
  | kept =>
    rw [← validators]
    rfl
  | marked => rfl

/-- The row of a feed when a run has told what the document says of it, and its validators. -/
theorem Marked.row_eq (marked : Marked feed v last) (validators : last.validators = v)
    (noted : Noted row document feed) (described : Ingest.describe feed document = feed) :
    last = { row with
      title := if document.title = "" then row.title else document.title
      description := document.description.or row.description
      etag := v.etag
      lastModified := v.lastModified
      updatedAt := last.updatedAt } := by
  have notes := noted.eq described
  rw [describe_eq_or] at notes
  refine (marked.eq validators).trans ?_
  rw [congrArg Feed.id notes, congrArg Feed.url notes, congrArg Feed.title notes,
    congrArg Feed.description notes, congrArg Feed.createdAt notes]

end Rows

section Batch

variable {dates : Timestamp → Prop} {sure : Prop} {s next : Store} {feedId : Int} {feed : Feed}
  {document : FeedDocument} {created : List Article} {date now : Timestamp}

def newDrafts (s : Store) (feedId : Int) (date : Timestamp) (document : FeedDocument) :
    List Draft :=
  (freshDrafts feedId date (s.articleUrls feedId) document.items).filter (·.key ∉ s.keys)

def newArticles (s : Store) (feedId : Int) (date now : Timestamp) (document : FeedDocument) :
    List Article :=
  (newDrafts s feedId date document).mapIdx fun n draft =>
    draft.toArticle (s.lastArticleId + 1 + n) now

private theorem newArticles_urls (s : Store) (feedId : Int) (date now : Timestamp)
    (document : FeedDocument) :
    (newArticles s feedId date now document).map (·.url) =
      (missingLinks s feedId document).filter fun url => ⟨feedId, url⟩ ∉ s.keys := by
  have taken : (newArticles s feedId date now document).map (·.url) =
      (newDrafts s feedId date document).map (·.url) := by
    refine List.ext_getElem (by simp [newArticles]) fun n _ _ => ?_
    simp [newArticles, Draft.toArticle]
  rw [taken, missingLinks, ← freshDrafts_urls feedId date, List.filter_map, newDrafts]
  congr 1
  refine List.filter_congr fun draft fresh => ?_
  rw [key_of_mem_freshDrafts fresh]
  rfl

private theorem newArticles_ids (s : Store) (feedId : Int) (date now : Timestamp)
    (document : FeedDocument) :
    (newArticles s feedId date now document).map (·.id) =
      (List.range (newArticles s feedId date now document).length).map fun n : Nat =>
        s.lastArticleId + 1 + n := by
  refine List.ext_getElem (by simp) fun n _ _ => ?_
  simp [newArticles, Draft.toArticle]

private theorem mem_newArticles {article : Article}
    (member : article ∈ newArticles s feedId date now document) :
    article.feedId = feedId ∧ s.lastArticleId < article.id ∧ Relates document date article := by
  obtain ⟨n, within, rfl⟩ := List.mem_mapIdx.mp member
  have fresh := (List.mem_filter.mp (List.getElem_mem within)).1
  obtain ⟨item, found, made⟩ := exists_item_of_mem_freshDrafts fresh
  refine ⟨congrArg Draft.feedId made, ?_, item, found, congrArg Draft.title made,
    congrArg Draft.description made, congrArg Draft.content made, congrArg Draft.publishedAt made⟩
  show s.lastArticleId < s.lastArticleId + 1 + n
  omega

/-- What was brought into a store are its new articles, and they come last. -/
theorem Brought.new (brought : Brought dates sure s feedId document feed created next)
    (numbered : s.Numbered) :
    next.feeds = (s.withFeed feed).feeds ∧ ∃ date now, dates date ∧
      created = newArticles s feedId date now document ∧
      next.articles.values = s.articles.values ++ created := by
  obtain ⟨_, takes, _⟩ := brought.takes
  obtain ⟨date, now, dated, _, added⟩ := brought.added
  have articles := Store.addArticles_created now (s.withFeed feed)
    (freshDrafts_keys_nodup feedId date (s.articleUrls feedId) document)
  have values := Store.values_addArticles now
    (freshDrafts feedId date (s.articleUrls feedId) document.items) (numbered.withFeed feed)
  rw [added] at articles values
  exact ⟨takes.feeds, date, now, dated, articles, values⟩

end Batch

/-- A run alone whose writes succeed brings in its harvest. -/
theorem Follows.harvest {dates : Timestamp → Prop} {sure : Prop} {a b : Archive} {feedId : Int}
    {document : FeedDocument} {v : Validators} {created : List Article} (certain : sure)
    (numbered : a.store.Numbered)
    (follows : Follows dates sure a feedId (.ok (.fetched document v)) b
      (.finished (.ok created))) :
    ∃ date, dates date ∧ Harvest a.store b.store feedId document v date created := by
  cases follows with
  | unmodified _ same => cases same
  | @complete _ feed last _ _ _ s heard brought marked validators stored =>
    cases heard
    -- The two writes of the feed's row change no article, so all lists are those after the batch.
    obtain ⟨feeds, date, now, dated, articles, values⟩ := brought.new numbered
    obtain ⟨row, found, noted⟩ := brought.told.noted
    have own : last.id = feedId := marked.id.trans (brought.told.id numbered)
    have listed : ∀ other, b.store.articlesOf other =
        a.store.articlesOf other ++ created.filter (·.feedId == other) := by
      intro other
      rw [stored, Store.articlesOf, Store.articlesOf, ← List.filter_append, ← values]
      rfl
    have each : ∀ article ∈ created, article.feedId = feedId ∧
        a.store.lastArticleId < article.id ∧ Relates document date article :=
      fun article member => mem_newArticles (articles ▸ member)
    refine ⟨date, dated, ?_⟩
    exact {
      urls := articles ▸ newArticles_urls a.store feedId date now document
      ids := articles ▸ newArticles_ids a.store feedId date now document
      new := fun article member => numbered.kept.get?_of_last_lt (each article member).2.1
      relates := fun article member => (each article member).2.2
      own := by
        rw [listed, List.filter_eq_self.mpr]
        exact fun article member => beq_iff_eq.mpr (each article member).1
      others := by
        intro other differs
        rw [listed, List.filter_eq_nil_iff.mpr, List.append_nil]
        intro article member same
        exact differs ((beq_iff_eq.mp same).symm.trans (each article member).1)
      feed := by
        refine ⟨row, last, found, ?_, ?_⟩
        · rw [stored, ← own]
          exact s.get?_withFeed last
        · exact marked.row_eq (validators certain) noted (brought.told.described certain)
      otherFeeds := by
        intro other differs
        rw [stored, Store.withFeed, Shelf.get?_put, if_neg (own ▸ differs), feeds, Store.withFeed,
          Shelf.get?_put, if_neg (brought.told.id numbered ▸ differs)] }

section Service

variable {v : Service Archive} {a : Archive} {feedId : Int} {document : FeedDocument}
  {validators : Validators} {moments : List Nat} {row : Feed}

theorem Service.Delivers.harvest
    (delivers : v.Delivers feedId a (.ok (.fetched document validators))) (now : Nat)
    (numbered : a.store.Numbered) (reliable : a.Reliable)
    (found : a.store.feed feedId = .ok row) (enough : 4 ≤ moments.length) :
    ∃ date created b, v.Dates (now :: moments) date ∧
      v.ingest now moments feedId a = (some (.ok created), b) ∧
      Harvest a.store b.store feedId document validators date created := by
  obtain ⟨result, b, returned⟩ := delivers.exists_result now enough
  have follows : Follows _ True a feedId (.ok (.fetched document validators)) b
      (.finished result) := delivers.follows numbered (fun _ => reliable) returned
  have outcome := follows.outcome trivial
  simp only [expected, found] at outcome
  cases result with
  | error fault => cases outcome
  | ok created =>
    obtain ⟨date, dated, harvest⟩ := follows.harvest trivial numbered
    exact ⟨date, created, b, dated, returned, harvest⟩

/-- All missing links are brought in if, and only if, the store knows no link of the document that
it does not list. -/
theorem Harvest.urls_eq_iff {s next : Store} {date : Timestamp} {created : List Article}
    (harvest : Harvest s next feedId document validators date created) :
    created.map (·.url) = missingLinks s feedId document ↔
      ∀ url ∈ links document, ⟨feedId, url⟩ ∈ s.keys → url ∈ s.articleUrls feedId := by
  rw [harvest.urls, List.filter_eq_self]
  simp only [missingLinks, List.mem_filter, List.mem_eraseDups, decide_eq_true_eq]
  refine ⟨fun unknown url asked known => ?_, fun listed url missing known => ?_⟩
  · by_contra unlisted
    exact unknown url ⟨asked, unlisted⟩ known
  · exact missing.2 (listed url missing.1 known)

/-- A run alone, all of whose writes succeed, returns an article for each missing link and leaves
everything else as it was, but for what the document says of the feed. Only links that the store
knows and does not list are left out. -/
theorem ingest_harvest (now : Nat) (numbered : a.store.Numbered) (reliable : a.Reliable)
    (found : a.store.feed feedId = .ok row)
    (delivers : v.Delivers feedId a (.ok (.fetched document validators)))
    (enough : 4 ≤ moments.length) :
    ∃ date created b, v.Dates (now :: moments) date ∧
      v.ingest now moments feedId a = (some (.ok created), b) ∧
      Harvest a.store b.store feedId document validators date created ∧
      (created.map (·.url) = missingLinks a.store feedId document ↔
        ∀ url ∈ links document, ⟨feedId, url⟩ ∈ a.store.keys →
          url ∈ a.store.articleUrls feedId) := by
  obtain ⟨date, created, b, dated, returned, harvest⟩ :=
    delivers.harvest now numbered reliable found enough
  exact ⟨date, created, b, dated, returned, harvest, harvest.urls_eq_iff⟩

end Service

/-! ## Items that say different things of one link -/

def titlesOf : Option (Except Fault (List Article)) → List String
  | some (.ok created) => created.map (·.title)
  | _ => []

/-- The first item is stored already, and the third and the fourth bring nothing. -/
def edition : FeedDocument where
  title := ""
  description := some "D"
  items :=
    [⟨"A", some " a ", none, none, none⟩, ⟨"B", some "b ", some "first", none, some .epoch⟩,
      ⟨"again", some " b", some "second", none, none⟩, ⟨"blank", some "  ", none, none, none⟩,
      ⟨"C", some "c", none, some "text", none⟩]

theorem edition_harvest :
    ∃ date created b, (press (.ok (.fetched edition (ArchiveRuns.version "x")))).ingest 0 [5, 6, 7, 8] 1
        (housed (.ofEntries [])) = (some (.ok created), b) ∧
      Harvest (housed (.ofEntries [])).store b.store 1 edition (ArchiveRuns.version "x") date created ∧
      created.map (·.url) = ["b", "c"] ∧ created.map (·.title) = ["B", "C"] ∧
      created.map (·.id) = [2, 3] := by
  have indexed : (housed (.ofEntries [])).store.Indexed := RunsOfFeed.circulated_inMemory.indexed
  have found : (housed (.ofEntries [])).store.feed 1 = .ok ArchiveRuns.bareFeed := rfl
  obtain ⟨date, created, b, _, returned, harvest, all⟩ :=
    ingest_harvest 0 indexed.numbered (reliable_of_empty rfl) found
      (press_delivers 1 _ (.ok (.fetched edition (ArchiveRuns.version "x"))))
      (Nat.le_refl [5, 6, 7, 8].length)
  have urls : created.map (·.url) = ["b", "c"] :=
    all.mpr fun _ _ known => indexed.url_mem_articleUrls known
  have titles : titlesOf
      ((press (.ok (.fetched edition (ArchiveRuns.version "x")))).ingest 0 [5, 6, 7, 8] 1
        (housed (.ofEntries []))).1 = ["B", "C"] := by rfl
  rw [returned] at titles
  have two : created.length = 2 := by rw [← created.length_map (·.url), urls]; rfl
  have ids := harvest.ids
  rw [two] at ids
  exact ⟨date, created, b, returned, harvest, urls, titles, ids⟩

/-! ## Two rows with one id, again -/

/-- A table of articles in which the second row will take the place of the first one. -/
def doubledTable : Catalog.Table Article := ⟨1, [Store.twin "a", Store.twin "b"]⟩

def doubled : Catalog.Directory := .ofEntries
  [("feeds.json", .file (Archive.snapshot ArchiveRuns.stocked.store .feeds)),
    ("articles.json", .file (Catalog.encodeArticles doubledTable).renderPretty.toUTF8.toList)]

private theorem doubled_intact : doubled.Intact where
  present := rfl
  quiet _ planned := by cases planned
  files t := by cases t <;> exact nofun
  draftFiles t := by cases t <;> exact nofun

private theorem load_doubled :
    (Archive.load doubled).store = .ofTables ArchiveRuns.stocked.store.feedTable doubledTable := by
  have fits : ArchiveRuns.stocked.store.Fits := ⟨by decide, by decide, by decide, by decide⟩
  have feeds :
      Catalog.Stored doubled .feeds Catalog.feedsOfBytes? ArchiveRuns.stocked.store.feedTable :=
    .inr ⟨_, rfl, Archive.feedsOfBytes?_snapshot fits⟩
  have reads : Catalog.articlesOfBytes?
      (Catalog.encodeArticles doubledTable).renderPretty.toUTF8.toList = some doubledTable := by
    have fits : ∀ article ∈ doubledTable.rows, FitsWord article.id ∧ FitsWord article.feedId := by
      decide
    refine Catalog.Table.ofBytes?_renderPretty (by decide) (by decide) ?_ ?_
    · exact fun article _ => article.encode_plain
    · intro article member
      obtain ⟨id, feedId⟩ := fits article member
      exact Article.decode?_encode id feedId
  have articles : Catalog.Stored doubled .articles Catalog.articlesOfBytes? doubledTable :=
    .inr ⟨_, rfl, reads⟩
  show Store.ofTables (Archive.readTable doubled .feeds _)
    (Archive.readTable doubled .articles _) = _
  rw [feeds.readTable, articles.readTable]

/-- The link of the first row is not listed, and yet no article comes of it. -/
theorem not_forall_missing_returned :
    ¬∀ (v : Service Archive) (a : Archive) (feedId : Int) (document : FeedDocument)
      (validators : Validators) (now : Nat) (moments : List Nat) (row : Feed),
      a.store.Numbered → a.Reliable → a.store.feed feedId = .ok row →
      v.Delivers feedId a (.ok (.fetched document validators)) → 4 ≤ moments.length →
      ∃ created b, v.ingest now moments feedId a = (some (.ok created), b) ∧
        created.map (·.url) = missingLinks a.store feedId document := by
  intro complete
  have numbered : (Archive.load doubled).store.Numbered := by
    rw [load_doubled]
    exact Store.ofTables_numbered _ _
  have reliable : (Archive.load doubled).Reliable := by
    intro d kept
    cases kept
    exact doubled_intact.reliable
  have found : (Archive.load doubled).store.feed 1 = .ok ArchiveRuns.bareFeed := by
    rw [load_doubled]
    rfl
  have delivers := press_delivers 1 (Archive.load doubled)
    (.ok (.fetched (RunsOfFeed.bulletinOf ["a"]) .none))
  obtain ⟨created, b, returned, all⟩ := complete _ _ 1 (RunsOfFeed.bulletinOf ["a"]) .none 0
    [5, 6, 7, 8] _ numbered reliable found delivers (Nat.le_refl 4)
  obtain ⟨date, createdToo, bToo, _, returnedToo, harvest⟩ :=
    delivers.harvest 0 numbered reliable found (Nat.le_refl [5, 6, 7, 8].length)
  cases returned.symm.trans returnedToo
  -- If the link were brought in, the store would list all that it knows of the document.
  have listed := harvest.urls_eq_iff.mp all "a"
  rw [load_doubled] at listed
  exact absurd (listed (by decide) (by decide)) (by decide)

end Ingest

end FeedIngest
