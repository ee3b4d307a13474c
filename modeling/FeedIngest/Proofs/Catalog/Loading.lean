import Mathlib.Data.List.Basic
import Mathlib.Data.List.Induction
import Mathlib.Data.List.Nodup
import FeedIngest.Proofs.Catalog.Store

/-!
# What is loaded of a table

A store takes over the first row for each key of a table. If two of the rows that it takes over have
one id, the later one comes to stand in the place of the earlier one, whose key stays behind without
an article. Such a key is refused from then on although no article with it is stored; all others are
refused exactly if they are stored.
-/

set_option autoImplicit false

namespace FeedIngest.Catalog

open Time (Timestamp)

/-! ## Rows on a shelf -/

namespace Shelf

variable {α : Type} {idOf : α → Int}

def putAll (idOf : α → Int) (rows : List α) (s : Shelf α) : Shelf α :=
  rows.foldl (fun shelf row => shelf.put (idOf row) row) s

private theorem get?_putAll_empty (rows : List α) (id : Int) :
    ((empty : Shelf α).putAll idOf rows).get? id = rows.reverse.find? fun row => idOf row == id := by
  -- The last row wins, so the induction takes the rows from the end.
  induction rows using List.reverseRecOn with
  | nil => rfl
  | append_singleton rest last ih =>
    unfold putAll at ih ⊢
    rw [List.foldl_append, List.foldl_cons, List.foldl_nil, get?_put, ih, List.reverse_append,
      List.reverse_singleton, List.singleton_append, List.find?_cons]
    by_cases here : id = idOf last
    · simp [here]
    · have differs : (idOf last == id) = false := by simpa using fun same => here (Eq.symm same)
      rw [if_neg here, differs]

/-- On an empty shelf the last row with an id comes to stand under it. -/
theorem get?_putAll_empty_eq_some_iff {rows : List α} {id : Int} {row : α} :
    ((empty : Shelf α).putAll idOf rows).get? id = some row ↔ idOf row = id ∧
      ∃ earlier later, rows = earlier ++ row :: later ∧ ∀ other ∈ later, idOf other ≠ id := by
  rw [get?_putAll_empty, List.find?_eq_some_iff_append]
  simp only [beq_iff_eq, Bool.not_eq_true', beq_eq_false_iff_ne]
  refine and_congr_right fun _ => ?_
  constructor
  · rintro ⟨after, before, split, last⟩
    refine ⟨before.reverse, after.reverse, ?_, ?_⟩
    · simpa using congrArg List.reverse split
    · intro other member
      exact last other (List.mem_reverse.mp member)
  · rintro ⟨earlier, later, rfl, last⟩
    refine ⟨later.reverse, earlier.reverse, by simp, ?_⟩
    intro other member
    exact last other (List.mem_reverse.mp member)

end Shelf

/-! ## The rows that are taken over -/

/-- The first row for each key that is not known. -/
def takenOver (known : List ArticleKey) : List Article → List Article
  | [] => []
  | article :: rest =>
    if known.contains article.key then takenOver known rest
    else article :: takenOver (article.key :: known) rest

private theorem takenOver_keys_nodup (known : List ArticleKey) (rows : List Article) :
    ((takenOver known rows).map (·.key)).Nodup ∧
      ∀ article ∈ takenOver known rows, article.key ∉ known := by
  induction rows generalizing known with
  | nil => exact ⟨.nil, fun article member => by cases member⟩
  | cons article rest ih =>
    unfold takenOver
    split
    · exact ih known
    · next unknown =>
      obtain ⟨nodup, fresh⟩ := ih (article.key :: known)
      constructor
      · refine List.nodup_cons.mpr ⟨?_, nodup⟩
        intro again
        obtain ⟨other, member, same⟩ := List.mem_map.mp again
        exact fresh other member (same ▸ List.mem_cons_self)
      · intro other member knows
        rcases List.mem_cons.mp member with rfl | later
        · exact unknown (by simpa using knows)
        · exact fresh other later (List.mem_cons_of_mem _ knows)

/-- The row that is taken over for a key stands before another one of its id. -/
def Overwritten (rows : List Article) (key : ArticleKey) : Prop :=
  ∃ earlier article later, takenOver [] rows = earlier ++ article :: later ∧ article.key = key ∧
    ∃ other ∈ later, other.id = article.id

/-- Nothing is overwritten exactly if no two of the rows that are taken over have one id. -/
theorem forall_not_overwritten_iff {rows : List Article} :
    (∀ key, ¬Overwritten rows key) ↔
      (takenOver [] rows).Pairwise fun article later => article.id ≠ later.id := by
  constructor
  · intro kept
    rw [List.pairwise_iff_forall_sublist]
    intro article other both same
    obtain ⟨earlier, rest, split, first, second⟩ := List.cons_sublist_iff.mp both
    obtain ⟨before, after, rfl⟩ := List.append_of_mem first
    refine kept article.key ⟨before, article, after ++ rest, ?_, rfl, other, ?_, same.symm⟩
    · rw [split, List.append_assoc, List.cons_append]
    · exact List.mem_append_right _ (List.singleton_sublist.mp second)
  · rintro apart key ⟨earlier, article, later, split, _, other, member, same⟩
    rw [split] at apart
    have rest := (List.pairwise_append.mp apart).2.1
    exact (List.pairwise_cons.mp rest).1 other member same.symm

namespace Store

theorem foldl_takeArticle (rows : List Article) (s : Store) :
    (rows.foldl takeArticle s).articles = s.articles.putAll Article.id (takenOver s.keys rows) ∧
      ∀ key, key ∈ (rows.foldl takeArticle s).keys ↔
        key ∈ s.keys ∨ key ∈ (takenOver s.keys rows).map (·.key) := by
  induction rows generalizing s with
  | nil => simp [takenOver, Shelf.putAll]
  | cons article rest ih =>
    rw [List.foldl_cons]
    by_cases known : s.keys.contains article.key = true
    · rw [takeArticle, if_pos known, takenOver, if_pos known]
      exact ih s
    · obtain ⟨articles, keys⟩ := ih (s.takeArticle article)
      rw [takeArticle, if_neg known] at articles keys ⊢
      rw [takenOver, if_neg known]
      refine ⟨articles, fun key => ?_⟩
      rw [keys, List.map_cons, List.mem_cons, List.mem_cons]
      grind

section Loaded

variable {feeds : Table Feed} {table : Table Article} {key : ArticleKey}

theorem ofTables_articles : (ofTables feeds table).articles =
    (Shelf.empty.putAll Article.id (takenOver [] table.rows)) := by
  obtain ⟨articles, keys⟩ := foldl_takeFeed_articles feeds.rows
    { empty with lastFeedId := feeds.lastId, lastArticleId := table.lastId }
  have taken := (foldl_takeArticle table.rows (feeds.rows.foldl takeFeed
    { empty with lastFeedId := feeds.lastId, lastArticleId := table.lastId })).1
  rw [articles, keys] at taken
  exact taken

/-- The keys of a loaded store are those of the rows of the table. -/
theorem mem_ofTables_keys :
    key ∈ (ofTables feeds table).keys ↔ key ∈ (takenOver [] table.rows).map (·.key) := by
  have same := (foldl_takeFeed_articles feeds.rows
    { empty with lastFeedId := feeds.lastId, lastArticleId := table.lastId }).2
  have taken := (foldl_takeArticle table.rows (feeds.rows.foldl takeFeed
    { empty with lastFeedId := feeds.lastId, lastArticleId := table.lastId })).2 key
  rw [same] at taken
  exact taken.trans (or_iff_right List.not_mem_nil)

/-- A key has its article unless that was overwritten. -/
theorem exists_ofTables_article_iff :
    (∃ id article, (ofTables feeds table).articles.get? id = some article ∧ article.key = key) ↔
      key ∈ (takenOver [] table.rows).map (·.key) ∧ ¬Overwritten table.rows key := by
  have nodup := (takenOver_keys_nodup [] table.rows).1
  rw [ofTables_articles]
  simp only [Shelf.get?_putAll_empty_eq_some_iff]
  constructor
  · rintro ⟨_, article, ⟨rfl, earlier, later, split, last⟩, rfl⟩
    refine ⟨?_, ?_⟩
    · rw [split]
      simp
    · rintro ⟨before, same, after, splitToo, sameKey, other, member, sameId⟩
      -- Keys are not repeated, so this is the same row in the same place.
      have among : article ∈ takenOver [] table.rows := by simp [split]
      have amongToo : same ∈ takenOver [] table.rows := by simp [splitToo]
      obtain rfl := List.inj_on_of_nodup_map nodup amongToo among sameKey
      have places := nodup.of_map
      rw [split] at places
      obtain ⟨absent, _⟩ := List.nodup_cons.mp (List.nodup_middle.mp places)
      obtain ⟨notEarlier, notLater⟩ := not_or.mp (mt List.mem_append.mpr absent)
      obtain ⟨_, _, rfl⟩ :=
        (List.append_cons_inj_of_notMem notEarlier notLater).mp (split.symm.trans splitToo)
      exact last other member sameId
  · rintro ⟨has, kept⟩
    obtain ⟨article, member, rfl⟩ := List.mem_map.mp has
    obtain ⟨earlier, later, split⟩ := List.append_of_mem member
    refine ⟨article.id, article, ⟨rfl, earlier, later, split, ?_⟩, rfl⟩
    intro other among same
    exact kept ⟨earlier, article, later, split, rfl, other, among, same⟩

end Loaded

def Refuses (s : Store) (now : Timestamp) (draft : Draft) : Prop :=
  (s.createArticles now [draft]).1 = .answered (.ok [])

def Lists (s : Store) (draft : Draft) : Prop := draft.url ∈ s.articleUrls draft.feedId

theorem refuses_iff (s : Store) (now : Timestamp) (draft : Draft) :
    s.Refuses now draft ↔ draft.key ∈ s.keys := by
  unfold Refuses
  by_cases known : draft.key ∈ s.keys
  · simp [createArticles, addArticles, known]
  · simp [createArticles, addArticles, known]

/-- Whatever tables a store is loaded from, it refuses a draft exactly if it lists its link or has
overwritten the article, and it never has done both. So it refuses exactly what it lists if, and
only if, no two of the rows that it takes over have one id. -/
theorem ofTables_refuses_iff (feeds : Table Feed) (table : Table Article) (now : Timestamp) :
    (∀ draft, ((ofTables feeds table).Refuses now draft ↔
        (ofTables feeds table).Lists draft ∨ Overwritten table.rows draft.key) ∧
      ¬((ofTables feeds table).Lists draft ∧ Overwritten table.rows draft.key)) ∧
    ((∀ draft, (ofTables feeds table).Refuses now draft ↔ (ofTables feeds table).Lists draft) ↔
      (takenOver [] table.rows).Pairwise fun article later => article.id ≠ later.id) := by
  have lists : ∀ draft, (ofTables feeds table).Lists draft ↔
      draft.key ∈ (takenOver [] table.rows).map (·.key) ∧ ¬Overwritten table.rows draft.key :=
    fun draft => mem_articleUrls.trans exists_ofTables_article_iff
  have refuses : ∀ draft, (ofTables feeds table).Refuses now draft ↔
      draft.key ∈ (takenOver [] table.rows).map (·.key) :=
    fun draft => (refuses_iff _ now draft).trans mem_ofTables_keys
  have known : ∀ key, Overwritten table.rows key → key ∈ (takenOver [] table.rows).map (·.key) := by
    rintro _ ⟨earlier, article, later, split, rfl, _⟩
    simp [split]
  refine ⟨fun draft => ⟨?_, ?_⟩, ?_⟩
  · rw [refuses, lists]
    have := known draft.key
    tauto
  · rw [lists]
    tauto
  · rw [← forall_not_overwritten_iff]
    constructor
    · intro agree key overwritten
      let draft : Draft := ⟨key.feedId, "", key.url, none, none, .epoch⟩
      have stands := (agree draft).mp ((refuses draft).mpr (known key overwritten))
      exact ((lists draft).mp stands).2 overwritten
    · intro kept draft
      rw [refuses, lists]
      exact (and_iff_left (kept draft.key)).symm

/-! ## Two rows with one id -/

def twin (url : String) : Article :=
  ⟨1, 1, "T", url, none, none, .epoch, .epoch, .epoch, false, false, none, none, none⟩

/-- The link of the first of two rows with one id is refused, although it is not listed. -/
theorem not_forall_ofTables_refuses_iff_lists :
    ¬∀ feeds table now draft,
      (ofTables feeds table).Refuses now draft ↔ (ofTables feeds table).Lists draft := by
  intro agree
  have apart :=
    (agree .empty ⟨1, [twin "a", twin "b"]⟩ .epoch ⟨1, "T", "a", none, none, .epoch⟩).mp rfl
  exact absurd apart (by unfold Lists; decide)

end Store

end FeedIngest.Catalog
