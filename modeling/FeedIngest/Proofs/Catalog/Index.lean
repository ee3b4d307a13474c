import FeedIngest.Catalog.Archive
import FeedIngest.Proofs.Catalog.Traffic

/-!
# Indexed stores

Every call keeps a store indexed, also one that gives a feed the link of another. New articles come
to stand behind all others.
-/

set_option autoImplicit false

namespace FeedIngest.Catalog

open Time (Timestamp)

namespace Store

variable {s next : Store}

theorem empty_indexed : empty.Indexed := empty_sound.indexed

theorem Indexed.mem_keys (indexed : s.Indexed) {key : ArticleKey} :
    key ∈ s.keys ↔ ∃ article ∈ s.articles.values, article.key = key := by
  rw [indexed.keys]
  constructor
  · intro ⟨id, article, found, same⟩
    exact ⟨article, Shelf.mem_values.mpr ⟨id, found⟩, same⟩
  · intro ⟨article, member, same⟩
    obtain ⟨id, found⟩ := Shelf.mem_values.mp member
    exact ⟨id, article, found, same⟩

/-- A store whose index is exact lists what it knows. -/
theorem Indexed.url_mem_articleUrls (indexed : s.Indexed) {feedId : Int} {url : String}
    (known : ⟨feedId, url⟩ ∈ s.keys) : url ∈ s.articleUrls feedId :=
  mem_articleUrls.mpr (indexed.keys.mp known)

theorem Indexed.articleUrls_nodup (indexed : s.Indexed) (feedId : Int) :
    (s.articleUrls feedId).Nodup := by
  have apart := indexed.articles.values_pairwise.filter (·.feedId == feedId)
  refine List.pairwise_map.mpr (apart.imp_of_mem ?_)
  intro article later member memberToo differs same
  have here : article.feedId = feedId := by simpa using (List.mem_filter.mp member).2
  have there : later.feedId = feedId := by simpa using (List.mem_filter.mp memberToo).2
  apply differs.2
  rw [Article.key, Article.key, here, there, same]

/-! ## Creating articles -/

/-- What adding articles does to an indexed store: they come last, under new ids and with new keys,
and the keys of all drafts are known then. -/
structure Appends (s : Store) (drafts : List Draft) (created : List Article) (next : Store) :
    Prop where
  indexed : next.Indexed
  feeds : next.feeds = s.feeds
  lastFeedId : next.lastFeedId = s.lastFeedId
  articles : next.articles.values = s.articles.values ++ created
  lastArticleId : s.lastArticleId ≤ next.lastArticleId
  covers : ∀ draft ∈ drafts, draft.key ∈ next.keys
  drafted : ∀ article ∈ created, ∃ draft ∈ drafts, draft.key = article.key
  newIds : ∀ article ∈ created, s.lastArticleId < article.id
  newKeys : ∀ article ∈ created, article.key ∉ s.keys

private theorem Indexed.appends_nil (indexed : s.Indexed) : s.Appends [] [] s where
  indexed := indexed
  feeds := rfl
  lastFeedId := rfl
  articles := (List.append_nil _).symm
  lastArticleId := Int.le_refl _
  covers draft member := by cases member
  drafted article member := by cases member
  newIds article member := by cases member
  newKeys article member := by cases member

section Appends

variable {draft : Draft} {drafts : List Draft} {created : List Article} {article : Article}

/-- Keys that are known stay known. -/
theorem Appends.mem_keys (appends : s.Appends drafts created next) (indexed : s.Indexed)
    {key : ArticleKey} : key ∈ next.keys ↔ key ∈ s.keys ∨ key ∈ created.map (·.key) := by
  rw [appends.indexed.mem_keys, indexed.mem_keys, appends.articles, List.mem_map]
  simp only [List.mem_append, or_and_right, exists_or]

private theorem Appends.cons_known (appends : s.Appends drafts created next) (indexed : s.Indexed)
    (known : draft.key ∈ s.keys) : s.Appends (draft :: drafts) created next where
  indexed := appends.indexed
  feeds := appends.feeds
  lastFeedId := appends.lastFeedId
  articles := appends.articles
  lastArticleId := appends.lastArticleId
  covers := by
    intro other member
    rcases List.mem_cons.mp member with rfl | member
    · exact (appends.mem_keys indexed).mpr (.inl known)
    · exact appends.covers other member
  drafted := by
    intro article member
    obtain ⟨other, among, same⟩ := appends.drafted article member
    exact ⟨other, List.mem_cons_of_mem _ among, same⟩
  newIds := appends.newIds
  newKeys := appends.newKeys

private theorem Appends.cons_new (appends : (s.place article).Appends drafts created next)
    (indexed : s.Indexed) (new : s.lastArticleId < article.id) (key : article.key = draft.key)
    (unknown : draft.key ∉ s.keys) : s.Appends (draft :: drafts) (article :: created) next where
  indexed := appends.indexed
  feeds := appends.feeds
  lastFeedId := appends.lastFeedId
  articles := by
    have placed : (s.place article).articles.values = s.articles.values ++ [article] :=
      indexed.articles.values_put_new article new
    rw [appends.articles, placed, List.append_assoc, List.singleton_append]
  lastArticleId := Int.le_trans (Int.le_of_lt new) appends.lastArticleId
  covers := by
    intro other member
    rcases List.mem_cons.mp member with rfl | member
    · have placed := indexed.place article new (key ▸ unknown)
      exact (appends.mem_keys placed).mpr (.inl (key ▸ List.mem_cons_self))
    · exact appends.covers other member
  drafted := by
    intro other member
    rcases List.mem_cons.mp member with rfl | member
    · exact ⟨draft, List.mem_cons_self, key.symm⟩
    · obtain ⟨made, among, same⟩ := appends.drafted other member
      exact ⟨made, List.mem_cons_of_mem _ among, same⟩
  newIds := by
    intro other member
    rcases List.mem_cons.mp member with rfl | member
    · exact new
    · exact Int.lt_trans new (appends.newIds other member)
  newKeys := by
    intro other member known
    rcases List.mem_cons.mp member with rfl | member
    · exact unknown (key ▸ known)
    · exact appends.newKeys other member (List.mem_cons_of_mem _ known)

private theorem Indexed.addArticles (indexed : s.Indexed) (now : Timestamp) (drafts : List Draft) :
    s.Appends drafts (addArticles now drafts s).1 (addArticles now drafts s).2 := by
  induction drafts generalizing s with
  | nil => exact indexed.appends_nil
  | cons draft drafts ih =>
    unfold Store.addArticles
    split
    · next known => exact (ih indexed).cons_known indexed (by simpa using known)
    · next unknown =>
      have unknown : draft.key ∉ s.keys := by simpa using unknown
      have new : s.lastArticleId < (draft.toArticle (s.lastArticleId + 1) now).id := Int.lt_succ _
      exact (ih (indexed.place _ new unknown)).cons_new indexed new rfl unknown

/-- A call to create articles waits until they are written, unless there are none. -/
theorem Indexed.createArticles (indexed : s.Indexed) (now : Timestamp) (drafts : List Draft) :
    ∃ created, s.Appends drafts created (s.createArticles now drafts).2 ∧
      ((s.createArticles now drafts).1 = .pending (.articlesCreated created) created ∨
        created = [] ∧ (s.createArticles now drafts).1 = .answered (.ok [])) := by
  have appends := indexed.addArticles now drafts
  unfold Store.createArticles
  split
  · next added =>
    rw [added] at appends
    exact ⟨[], appends, .inr ⟨rfl, rfl⟩⟩
  · next created next _ added =>
    rw [added] at appends
    exact ⟨created, appends, .inl rfl⟩

end Appends

/-! ## All calls -/

private theorem Indexed.insertFeed (indexed : s.Indexed) (now : Timestamp) (draft : DraftFeed) :
    (s.insertFeed now draft).2.Indexed := by
  unfold Store.insertFeed
  split
  · exact indexed
  · have new : s.lastFeedId < s.lastFeedId + 1 := Int.lt_succ _
    refine ⟨indexed.feeds.put_new (draft.toFeed (s.lastFeedId + 1) now) new ?_, indexed.articles,
      indexed.keys⟩
    intro other same found differs
    have bounded := indexed.feeds.bounded found
    have own : same.id = other := indexed.feeds.own found
    have taken : same.id = s.lastFeedId + 1 := differs
    omega

theorem Indexed.updateFeed (indexed : s.Indexed) (now : Timestamp) (feed : Feed) :
    (s.updateFeed now feed).2.Indexed := by
  unfold Store.updateFeed
  split
  · exact indexed
  · next before found => exact indexed.replaceFeed { feed with updatedAt := now } found

@[simp] theorem updateFeed_articles (now : Timestamp) (feed : Feed) :
    (s.updateFeed now feed).2.articles = s.articles := by
  unfold Store.updateFeed
  split <;> rfl

private theorem Indexed.updateArticle (indexed : s.Indexed) (now : Timestamp) (article : Article) :
    (s.updateArticle now article).2.Indexed := by
  unfold Store.updateArticle
  split
  · exact indexed
  · next before found =>
    split
    · next same => exact indexed.replaceArticle { article with updatedAt := now } found same.symm
    · exact indexed

theorem Indexed.begin (indexed : s.Indexed) (now : Timestamp) (request : Request) :
    (request.begin now s).2.Indexed := by
  cases request with
  | insertFeed draft => exact indexed.insertFeed now draft
  | updateFeed feed => exact indexed.updateFeed now feed
  | createArticles drafts =>
    obtain ⟨created, appends, _⟩ := indexed.createArticles now drafts
    exact appends.indexed
  | updateArticle article => exact indexed.updateArticle now article

end Store

/-! ## Archives without a directory -/

inductive Archive.InMemory : Archive → Prop where
  | empty : InMemory .inMemory
  | begin {a : Archive} {now : Timestamp} {request : Request} : InMemory a →
      InMemory (a.begin fun s => request.begin now s).2
  | settle {a : Archive} {change : Change} : InMemory a → InMemory (a.settle change).2

namespace Archive

variable {a : Archive}

theorem begin_directory {α : Type} (call : Store → Call α × Store) (a : Archive) :
    (a.begin call).2.directory = a.directory := by
  unfold Archive.begin
  rcases call a.store with ⟨_ | _, store⟩ <;> rfl

/-- An archive that has no directory settles every change. -/
theorem settle_of_no_directory (none : a.directory = none) (change : Change) :
    a.settle change = (.ok (), { a with unsettled := a.unsettled - 1 }) := by
  unfold Archive.settle Archive.persist
  rw [none]

theorem InMemory.directory (inMemory : a.InMemory) : a.directory = none := by
  induction inMemory with
  | empty => rfl
  | begin _ ih => exact (begin_directory _ _).trans ih
  | settle _ ih =>
    rw [settle_of_no_directory ih]
    exact ih

theorem InMemory.indexed (inMemory : a.InMemory) : a.store.Indexed := by
  induction inMemory with
  | empty => exact Store.empty_indexed
  | @begin a now request _ ih =>
    rw [(Traffic.begin_archive (fun s => request.begin now s) a).2]
    exact ih.begin now request
  | settle inMemory ih =>
    rw [settle_of_no_directory inMemory.directory]
    exact ih

end Archive

end FeedIngest.Catalog
