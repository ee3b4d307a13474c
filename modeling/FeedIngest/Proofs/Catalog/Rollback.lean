import FeedIngest.Proofs.Catalog.Index
import FeedIngest.Proofs.Catalog.Loading

/-!
# Tables that were saved, and changes that were not

Opening a store with the tables of other ones gives their rows back. Taking back the change of the
last call gives back the rows from before the call, and a call changes the rows of one table only.
-/

set_option autoImplicit false

namespace FeedIngest.Catalog

open Time (Timestamp)

/-! ## Shelves -/

namespace Shelf

variable {α μ : Type} {idOf : α → Int} {mark : α → μ} {last : Int} {s next : Shelf α}

/-- A shelf is what is found on it. -/
theorem eq_of_get? (same : ∀ id, s.get? id = next.get? id) : s = next := by
  have strict : ∀ {t : Shelf α}, t.rows.Nodup := fun {t} =>
    t.ascending.imp fun {pair later} less same => by
      rw [same] at less
      exact Int.lt_irrefl _ less
  have members : ∀ pair, pair ∈ s.rows ↔ pair ∈ next.rows := by
    intro pair
    rw [← get?_eq_some_iff, ← get?_eq_some_iff, same]
  have perm : s.rows.Perm next.rows := (List.perm_ext_iff_of_nodup strict strict).mpr members
  have rows : s.rows = next.rows :=
    perm.eq_of_pairwise (fun _ _ _ _ less greater => absurd less (Int.lt_asymm greater))
      s.ascending next.ascending
  cases s
  cases next
  cases rows
  rfl

namespace Kept

theorem get?_eq_some_iff (kept : s.Kept idOf mark last) {id : Int} {row : α} :
    s.get? id = some row ↔ row ∈ s.values ∧ idOf row = id := by
  constructor
  · intro found
    exact ⟨mem_values.mpr ⟨id, found⟩, kept.own found⟩
  · rintro ⟨member, rfl⟩
    obtain ⟨id, found⟩ := mem_values.mp member
    rwa [kept.own found]

private theorem mono (kept : s.Kept idOf mark last) {later : Int} (more : last ≤ later) :
    s.Kept idOf mark later :=
  ⟨kept.own, fun found => Int.le_trans (kept.bounded found) more, kept.distinct⟩

/-- The rows of a kept shelf make it up again. -/
theorem putAll_values (kept : s.Kept idOf mark last) :
    (Shelf.empty : Shelf α).putAll idOf s.values = s := by
  refine eq_of_get? fun id => Option.ext fun row => ?_
  rw [get?_putAll_empty_eq_some_iff, kept.get?_eq_some_iff]
  constructor
  · rintro ⟨own, earlier, later, split, _⟩
    exact ⟨split ▸ List.mem_append_right _ List.mem_cons_self, own⟩
  · rintro ⟨member, rfl⟩
    obtain ⟨earlier, later, split⟩ := List.append_of_mem member
    have apart := kept.values_pairwise
    rw [split] at apart
    obtain ⟨first, _⟩ := List.pairwise_cons.mp (List.pairwise_append.mp apart).2.1
    exact ⟨rfl, earlier, later, split, fun other among => (first other among).1.symm⟩

/-- Kept shelves with the same rows are the same. -/
theorem eq_of_values (kept : s.Kept idOf mark last) {lastToo : Int}
    (keptToo : next.Kept idOf mark lastToo) (same : s.values = next.values) : s = next := by
  rw [← kept.putAll_values, ← keptToo.putAll_values, same]

private theorem erase_put_new (kept : s.Kept idOf mark last) {id : Int} (row : α)
    (new : last < id) :
    (s.put id row).erase id = s := by
  refine eq_of_get? fun other => ?_
  rw [get?_erase, get?_put]
  split
  · next here => rw [here, kept.get?_of_last_lt new]
  · rfl

end Kept

theorem put_put_same {id : Int} {row before : α} (found : s.get? id = some before) :
    (s.put id row).put id before = s := by
  refine eq_of_get? fun other => ?_
  rw [get?_put, get?_put]
  split
  · next here => rw [here, found]
  · rfl

end Shelf

namespace Store

variable {s next : Store}

/-! ## Opening with saved tables -/

private theorem foldl_takeFeed_feeds (rows : List Feed) (s : Store) :
    (rows.foldl takeFeed s).feeds = s.feeds.putAll Feed.id rows := by
  induction rows generalizing s with
  | nil => rfl
  | cons feed rest ih => exact ih (s.takeFeed feed)

private theorem takenOver_of_nodup {known : List ArticleKey} {rows : List Article}
    (nodup : (rows.map (·.key)).Nodup) (fresh : ∀ article ∈ rows, article.key ∉ known) :
    takenOver known rows = rows := by
  induction rows generalizing known with
  | nil => rfl
  | cons article rest ih =>
    obtain ⟨first, others⟩ := List.forall_mem_cons.mp fresh
    obtain ⟨new, nodup⟩ := List.nodup_cons.mp nodup
    have unknown : known.contains article.key = false := by simpa using first
    rw [takenOver, unknown, if_neg Bool.false_ne_true, ih nodup]
    intro other member again
    rcases List.mem_cons.mp again with same | knows
    · exact new (List.mem_map.mpr ⟨other, member, same⟩)
    · exact others other member knows

section Reopened

variable {feeds articles : Store}

theorem Indexed.ofTables_feed_rows (indexed : feeds.Indexed) (articles : Table Article) :
    (Store.ofTables feeds.feedTable articles).feeds = feeds.feeds := by
  have taken := foldl_takeFeed_feeds feeds.feeds.values (bare feeds.lastFeedId articles.lastId)
  exact (ofTables_feeds _ _).1.trans (taken.trans indexed.feeds.putAll_values)

theorem Indexed.ofTables_article_rows (indexed : articles.Indexed) (feeds : Table Feed) :
    (Store.ofTables feeds articles.articleTable).articles = articles.articles := by
  have apart := indexed.articles.values_pairwise
  have nodup : (articles.articles.values.map (·.key)).Nodup :=
    List.pairwise_map.mpr (apart.imp And.right)
  have all : takenOver [] articles.articles.values = articles.articles.values :=
    takenOver_of_nodup nodup fun _ _ => List.not_mem_nil
  rw [Store.ofTables_articles, articleTable, all, indexed.articles.putAll_values]

end Reopened

/-! ## Taking back the last call -/

/-- The change is one of a single table, and taking it back leads to the rows from before. No ids
are free again. -/
structure Reverts (s : Store) (change : Change) (next : Store) : Prop where
  feeds : (next.undo change).feeds = s.feeds
  articles : (next.undo change).articles = s.articles
  keys : ∀ {key : ArticleKey}, key ∈ (next.undo change).keys ↔ key ∈ s.keys
  otherFeeds : change.table = .articles → next.feeds = s.feeds
  otherArticles : change.table = .feeds → next.articles = s.articles
  lastFeedId : s.lastFeedId ≤ next.lastFeedId
  lastArticleId : s.lastArticleId ≤ next.lastArticleId

/-- What is left of a change that was taken back is indexed. -/
theorem Reverts.indexed {change : Change} (reverts : s.Reverts change next) (indexed : s.Indexed) :
    (next.undo change).Indexed where
  feeds := by
    rw [reverts.feeds, undo_lastFeedId]
    exact indexed.feeds.mono reverts.lastFeedId
  articles := by
    rw [reverts.articles, undo_lastArticleId]
    exact indexed.articles.mono reverts.lastArticleId
  keys := by
    rw [reverts.articles]
    exact reverts.keys.trans indexed.keys

def Revertible {α : Type} (s : Store) (call : Call α) (next : Store) : Prop :=
  match call with
  | .answered _ => next.feeds = s.feeds ∧ next.articles = s.articles
  | .pending change _ => s.Reverts change next

private theorem Revertible.map {α β : Type} {call : Call α} (f : α → β)
    (revertible : s.Revertible call next) : s.Revertible (call.map f) next := by
  cases call <;> exact revertible

private theorem Indexed.insertFeed_revertible (indexed : s.Indexed) (now : Timestamp)
    (draft : DraftFeed) :
    s.Revertible (s.insertFeed now draft).1 (s.insertFeed now draft).2 := by
  unfold Store.insertFeed
  split
  · exact ⟨rfl, rfl⟩
  · have new : s.lastFeedId < s.lastFeedId + 1 := Int.lt_succ _
    exact
      { feeds := indexed.feeds.erase_put_new _ new
        articles := rfl
        keys := Iff.rfl
        otherFeeds := fun other => by cases other
        otherArticles := fun _ => rfl
        lastFeedId := Int.le_of_lt new
        lastArticleId := Int.le_refl _ }

/-- The store from before comes back as a whole. -/
theorem Reverts.of_undo_eq {change : Change} (back : next.undo change = s)
    (otherFeeds : change.table = .articles → next.feeds = s.feeds)
    (otherArticles : change.table = .feeds → next.articles = s.articles) :
    s.Reverts change next where
  feeds := congrArg Store.feeds back
  articles := congrArg Store.articles back
  keys := by rw [back]
  otherFeeds := otherFeeds
  otherArticles := otherArticles
  lastFeedId := Int.le_of_eq (by rw [← back, undo_lastFeedId])
  lastArticleId := Int.le_of_eq (by rw [← back, undo_lastArticleId])

private theorem updateFeed_revertible (now : Timestamp) (feed : Feed) :
    s.Revertible (s.updateFeed now feed).1 (s.updateFeed now feed).2 := by
  unfold Store.updateFeed
  split
  · exact ⟨rfl, rfl⟩
  · next before found =>
    refine Reverts.of_undo_eq ?_ (fun other => by cases other) fun _ => rfl
    rw [undo, if_pos (by rw [Shelf.get?_put, if_pos rfl])]
    exact congrArg (fun feeds => { s with feeds }) (Shelf.put_put_same found)

private theorem updateArticle_revertible (now : Timestamp) (article : Article) :
    s.Revertible (s.updateArticle now article).1 (s.updateArticle now article).2 := by
  unfold Store.updateArticle
  split
  · exact ⟨rfl, rfl⟩
  · next before found =>
    split
    · refine Reverts.of_undo_eq ?_ (fun _ => rfl) fun other => by cases other
      rw [undo, if_pos (by rw [Shelf.get?_put, if_pos rfl])]
      exact congrArg (fun articles => { s with articles }) (Shelf.put_put_same found)
    · exact ⟨rfl, rfl⟩

section Appends

variable {drafts : List Draft} {created : List Article}

/-- Articles that come last are taken away, and the others are left. -/
theorem Appends.reverts (appends : s.Appends drafts created next) (indexed : s.Indexed) :
    s.Reverts (.articlesCreated created) next := by
  have lacks := lacks_removeArticle created next
  refine
    { feeds := lacks.feeds.trans appends.feeds
      articles := ?_
      keys := ?_
      otherFeeds := fun _ => appends.feeds
      otherArticles := fun other => by cases other
      lastFeedId := Int.le_of_eq appends.lastFeedId.symm
      lastArticleId := appends.lastArticleId }
  · refine Shelf.eq_of_get? fun id => ?_
    rw [undo, lacks.articles]
    split
    · next gone =>
      obtain ⟨article, member, rfl⟩ := List.mem_map.mp gone
      exact (indexed.articles.get?_of_last_lt (appends.newIds article member)).symm
    · next stays =>
      refine Option.ext fun row => ?_
      rw [appends.indexed.articles.get?_eq_some_iff, indexed.articles.get?_eq_some_iff,
        appends.articles, List.mem_append]
      refine and_congr_left fun own => or_iff_left fun member => stays ?_
      exact List.mem_map.mpr ⟨row, member, own⟩
  · intro key
    rw [undo, lacks.keys, appends.mem_keys indexed, or_and_right]
    refine (or_iff_left fun both => both.2 both.1).trans (and_iff_left_of_imp fun known again => ?_)
    obtain ⟨article, member, rfl⟩ := List.mem_map.mp again
    exact appends.newKeys article member known

end Appends

private theorem Indexed.createArticles_revertible (indexed : s.Indexed) (now : Timestamp)
    (drafts : List Draft) :
    s.Revertible (s.createArticles now drafts).1 (s.createArticles now drafts).2 := by
  obtain ⟨created, appends, made | ⟨rfl, none⟩⟩ := indexed.createArticles now drafts
  · rw [made]
    exact appends.reverts indexed
  · rw [none]
    refine ⟨appends.feeds, ?_⟩
    have same := appends.articles.trans (List.append_nil _)
    exact appends.indexed.articles.eq_of_values indexed.articles same

/-- Any call changes the rows of one table at most, and its change can be taken back. -/
theorem Indexed.revertible (indexed : s.Indexed) (now : Timestamp) (request : Request) :
    s.Revertible (request.begin now s).1 (request.begin now s).2 := by
  cases request with
  | insertFeed draft => exact (indexed.insertFeed_revertible now draft).map _
  | updateFeed feed => exact (updateFeed_revertible now feed).map _
  | createArticles drafts => exact (indexed.createArticles_revertible now drafts).map _
  | updateArticle article => exact (updateArticle_revertible now article).map _

end Store

end FeedIngest.Catalog
