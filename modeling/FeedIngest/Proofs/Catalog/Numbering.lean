import FeedIngest.Proofs.Catalog.Rollback
import FeedIngest.Proofs.Catalog.Traffic

/-!
# Numbered stores

Feeds and articles stand under their own ids, and no article stands under an id that is yet to be
given. This is all that a store of any history is sure of, whatever tables it was opened with and
whichever writes failed; and it is enough for a batch of articles to be taken back without a trace
but the ids that it used up.
-/

set_option autoImplicit false

namespace FeedIngest.Catalog

open Time (Timestamp)

/-- The keys that are not known, each where it comes first. -/
def newKeys (known : List ArticleKey) : List ArticleKey → List ArticleKey
  | [] => []
  | key :: rest =>
    if known.contains key then newKeys known rest else key :: newKeys (key :: known) rest

theorem mem_newKeys {known keys : List ArticleKey} {key : ArticleKey} :
    key ∈ newKeys known keys ↔ key ∈ keys ∧ key ∉ known := by
  induction keys generalizing known with
  | nil => simp [newKeys]
  | cons first rest ih =>
    unfold newKeys
    split
    · next skipped =>
      have skipped : first ∈ known := List.contains_iff_mem.mp skipped
      rw [ih, List.mem_cons]
      grind
    · next fresh =>
      have fresh : first ∉ known := mt List.contains_iff_mem.mpr fresh
      rw [List.mem_cons, ih, List.mem_cons, List.mem_cons]
      grind

/-- A row takes the place of one with its id. -/
def Change.KeepsId : Change → Prop
  | .feedUpdated before after => before.id = after.id
  | .articleUpdated before after => before.id = after.id
  | _ => True

namespace Store

variable {s next : Store}

structure Numbered (s : Store) : Prop where
  feeds : ∀ {id : Int} {feed : Feed}, s.feeds.get? id = some feed → feed.id = id
  articles : ∀ {id : Int} {article : Article}, s.articles.get? id = some article → article.id = id
  bounded : ∀ {id : Int} {article : Article}, s.articles.get? id = some article →
    id ≤ s.lastArticleId

theorem Indexed.numbered (indexed : s.Indexed) : s.Numbered :=
  ⟨indexed.feeds.own, indexed.articles.own, indexed.articles.bounded⟩

theorem Numbered.kept (numbered : s.Numbered) :
    s.articles.Kept (·.id) (·.id) s.lastArticleId where
  own := numbered.articles
  bounded := numbered.bounded
  distinct found foundToo same :=
    (numbered.articles found).symm.trans (same.trans (numbered.articles foundToo))

/-- The articles of a feed have different ids. -/
theorem Numbered.nodup_ids (numbered : s.Numbered) (feedId : Int) :
    ((s.articlesOf feedId).map (·.id)).Nodup :=
  List.pairwise_map.mpr ((numbered.kept.values_pairwise.filter _).imp And.left)

/-! ## A row for a feed -/

def withFeed (s : Store) (feed : Feed) : Store := { s with feeds := s.feeds.put feed.id feed }

theorem get?_withFeed (s : Store) (feed : Feed) :
    (s.withFeed feed).feeds.get? feed.id = some feed := by
  rw [withFeed, Shelf.get?_put, if_pos rfl]

theorem withFeed_of_get? {feed : Feed} (found : s.feeds.get? feed.id = some feed) :
    s.withFeed feed = s := by
  have same : s.feeds.put feed.id feed = s.feeds := by
    refine Shelf.eq_of_get? fun id => ?_
    rw [Shelf.get?_put]
    split
    · next here => rw [here, found]
    · rfl
  rw [withFeed, same]

private theorem withFeed_withFeed {feed later : Feed} (same : later.id = feed.id) :
    (s.withFeed feed).withFeed later = s.withFeed later := by
  have last : (s.feeds.put feed.id feed).put later.id later = s.feeds.put later.id later := by
    refine Shelf.eq_of_get? fun id => ?_
    rw [Shelf.get?_put, Shelf.get?_put, Shelf.get?_put, same]
    split <;> rfl
  exact congrArg (fun feeds => { s with feeds }) last

theorem updateFeed_of_get? (now : Timestamp) {feed before : Feed}
    (found : s.feeds.get? feed.id = some before) :
    s.updateFeed now feed =
      (.pending (.feedUpdated before { feed with updatedAt := now }) { feed with updatedAt := now },
        s.withFeed { feed with updatedAt := now }) := by
  rw [updateFeed, found]
  rfl

theorem undo_withFeed {before after : Feed} (same : before.id = after.id) :
    (s.withFeed after).undo (.feedUpdated before after) = s.withFeed before := by
  rw [undo, if_pos (s.get?_withFeed after), ← same]
  exact withFeed_withFeed same

theorem Numbered.withFeed (numbered : s.Numbered) (feed : Feed) : (s.withFeed feed).Numbered where
  feeds {id row} found := by
    rw [Store.withFeed, Shelf.get?_put] at found
    split at found
    · next here =>
      cases found
      exact here.symm
    · exact numbered.feeds found
  articles := numbered.articles
  bounded := numbered.bounded

/-- An article stands under its id, in the place of another one or in the last place of all. -/
theorem Numbered.putArticle (numbered : s.Numbered) (article : Article) {last : Int}
    (later : s.lastArticleId ≤ last) (within : article.id ≤ last) (keys : List ArticleKey) :
    Numbered
      { s with
        lastArticleId := last
        articles := s.articles.put article.id article
        keys } where
  feeds := numbered.feeds
  articles {id row} found := by
    rw [Shelf.get?_put] at found
    split at found
    · next here =>
      cases found
      exact here.symm
    · exact numbered.articles found
  bounded {id row} found := by
    rw [Shelf.get?_put] at found
    split at found
    · next here => exact here ▸ within
    · exact Int.le_trans (numbered.bounded found) later

/-! ## A row for an article -/

def withArticle (s : Store) (article : Article) : Store :=
  { s with articles := s.articles.put article.id article }

theorem updateArticle_of_get? (now : Timestamp) {article before : Article}
    (found : s.articles.get? article.id = some before) (same : before.key = article.key) :
    s.updateArticle now article =
      (.pending (.articleUpdated before { article with updatedAt := now })
          { article with updatedAt := now },
        s.withArticle { article with updatedAt := now }) := by
  rw [updateArticle, found]
  exact if_pos same

theorem undo_of_get? {before after : Article} (found : s.articles.get? after.id = some after)
    (same : before.id = after.id) :
    s.undo (.articleUpdated before after) = s.withArticle before := by
  rw [undo, if_pos found, ← same]
  rfl

theorem Numbered.withArticle (numbered : s.Numbered) {article before : Article}
    (found : s.articles.get? article.id = some before) : (s.withArticle article).Numbered :=
  numbered.putArticle article (Int.le_refl _) (numbered.bounded found) s.keys

theorem Numbered.mem_articlesOf (numbered : s.Numbered) {feedId : Int} {article : Article} :
    article ∈ s.articlesOf feedId ↔
      s.articles.get? article.id = some article ∧ article.feedId = feedId := by
  rw [articlesOf, List.mem_filter, Shelf.mem_values, beq_iff_eq]
  refine and_congr_left fun _ => ⟨?_, fun found => ⟨_, found⟩⟩
  rintro ⟨id, found⟩
  exact numbered.articles found ▸ found

/-- An article takes its place among the articles of its feed. -/
theorem Numbered.articlesOf_withArticle (numbered : s.Numbered) {article before : Article}
    (found : s.articles.get? article.id = some before) (same : article.feedId = before.feedId)
    (feedId : Int) :
    (s.withArticle article).articlesOf feedId =
      (s.articlesOf feedId).map fun other => if other.id = article.id then article else other := by
  rw [articlesOf, Store.withArticle, Shelf.values_put_of_get? numbered.articles found,
    List.filter_map, articlesOf]
  congr 1
  refine List.filter_congr fun other member => ?_
  obtain ⟨id, stands⟩ := Shelf.mem_values.mp member
  show ((if other.id = article.id then article else other).feedId == feedId) = _
  split
  · next here =>
    rw [← numbered.articles stands, here, found] at stands
    cases stands
    rw [same]
  · rfl

theorem Numbered.articlesOf_withArticle_own (numbered : s.Numbered) {feedId : Int}
    {article before : Article} {earlier later : List Article}
    (listed : s.articlesOf feedId = earlier ++ before :: later) (id : article.id = before.id)
    (same : article.feedId = before.feedId) :
    (s.withArticle article).articlesOf feedId = earlier ++ article :: later := by
  have found : s.articles.get? before.id = some before :=
    (numbered.mem_articlesOf.mp (listed ▸ List.mem_append_right _ List.mem_cons_self)).1
  have nodup := numbered.nodup_ids feedId
  rw [numbered.articlesOf_withArticle (id ▸ found) same, listed, List.map_append, List.map_cons,
    if_pos id.symm]
  rw [listed, List.map_append, List.map_cons] at nodup
  obtain ⟨_, tail, apart⟩ := List.nodup_append.mp nodup
  congr 1
  · refine (List.map_congr_left fun other member => if_neg ?_).trans (List.map_id earlier)
    exact id ▸ apart other.id (List.mem_map_of_mem member) before.id List.mem_cons_self
  · congr 1
    refine (List.map_congr_left fun other member => if_neg fun here => ?_).trans (List.map_id later)
    exact (List.nodup_cons.mp tail).1 (id ▸ here ▸ List.mem_map_of_mem member)

/-- The articles of the other feeds stay. -/
theorem Numbered.articlesOf_withArticle_of_ne (numbered : s.Numbered) {feedId : Int}
    {article before : Article} (found : s.articles.get? article.id = some before)
    (same : article.feedId = before.feedId) (other : before.feedId ≠ feedId) :
    (s.withArticle article).articlesOf feedId = s.articlesOf feedId := by
  rw [numbered.articlesOf_withArticle found same]
  refine (List.map_congr_left fun row member => if_neg fun here => other ?_).trans (List.map_id _)
  obtain ⟨stands, own⟩ := numbered.mem_articlesOf.mp member
  rw [here, found] at stands
  cases stands
  exact own

/-! ## A batch of articles -/

structure Takes (s : Store) (drafts : List Draft) (created : List Article) (next : Store) :
    Prop where
  feeds : next.feeds = s.feeds
  lastFeedId : next.lastFeedId = s.lastFeedId
  others : ∀ id, id ∉ created.map (·.id) → next.articles.get? id = s.articles.get? id
  newIds : ∀ article ∈ created, s.lastArticleId < article.id
  lastArticleId : s.lastArticleId ≤ next.lastArticleId
  keys : next.keys = (created.map (·.key)).reverse ++ s.keys
  created : created.map (·.key) = newKeys s.keys (drafts.map (·.key))

section Takes

variable {draft : Draft} {drafts : List Draft} {created : List Article} {article : Article}

private theorem takes_nil (s : Store) : s.Takes [] [] s where
  feeds := rfl
  lastFeedId := rfl
  others _ _ := rfl
  newIds article member := by cases member
  lastArticleId := Int.le_refl _
  keys := rfl
  created := rfl

private theorem Takes.cons_known (takes : s.Takes drafts created next)
    (known : s.keys.contains draft.key = true) : s.Takes (draft :: drafts) created next where
  feeds := takes.feeds
  lastFeedId := takes.lastFeedId
  others := takes.others
  newIds := takes.newIds
  lastArticleId := takes.lastArticleId
  keys := takes.keys
  created := by
    rw [List.map_cons, newKeys, if_pos known]
    exact takes.created

private theorem Takes.cons_new (takes : (s.place article).Takes drafts created next)
    (new : s.lastArticleId < article.id) (key : article.key = draft.key)
    (unknown : ¬s.keys.contains draft.key = true) :
    s.Takes (draft :: drafts) (article :: created) next where
  feeds := takes.feeds
  lastFeedId := takes.lastFeedId
  others := by
    intro id other
    obtain ⟨notFirst, notLater⟩ := not_or.mp (mt List.mem_cons.mpr other)
    exact (takes.others id notLater).trans ((Shelf.get?_put ..).trans (if_neg notFirst))
  newIds := by
    intro other member
    rcases List.mem_cons.mp member with rfl | later
    · exact new
    · exact Int.lt_trans new (takes.newIds other later)
  lastArticleId := Int.le_trans (Int.le_of_lt new) takes.lastArticleId
  keys := by
    rw [takes.keys, List.map_cons, List.reverse_cons, List.append_assoc]
    rfl
  created := by
    rw [List.map_cons, List.map_cons, newKeys, if_neg unknown, takes.created, ← key]
    rfl

theorem takes_addArticles (now : Timestamp) (drafts : List Draft) (s : Store) :
    s.Takes drafts (addArticles now drafts s).1 (addArticles now drafts s).2 := by
  induction drafts generalizing s with
  | nil => exact s.takes_nil
  | cons draft drafts ih =>
    unfold addArticles
    split
    · next known => exact (ih s).cons_known known
    · next unknown => exact (ih _).cons_new (Int.lt_succ _) rfl unknown

end Takes

namespace Takes

variable {drafts : List Draft} {created : List Article}

/-- A key that was asked for is known then. -/
theorem mem_keys (takes : s.Takes drafts created next) {key : ArticleKey} :
    key ∈ next.keys ↔ key ∈ s.keys ∨ ∃ draft ∈ drafts, draft.key = key := by
  rw [takes.keys, List.mem_append, List.mem_reverse, takes.created, mem_newKeys, List.mem_map]
  grind

/-- Articles stay where they are. -/
theorem get?_of_get? (takes : s.Takes drafts created next) (numbered : s.Numbered) {id : Int}
    {article : Article} (found : s.articles.get? id = some article) :
    next.articles.get? id = some article := by
  rw [takes.others, found]
  intro given
  obtain ⟨new, member, rfl⟩ := List.mem_map.mp given
  exact absurd (takes.newIds new member) (Int.not_lt.mpr (numbered.bounded found))

end Takes

private theorem Numbered.addArticles (numbered : s.Numbered) (now : Timestamp)
    (drafts : List Draft) :
    (addArticles now drafts s).2.Numbered := by
  induction drafts generalizing s with
  | nil => exact numbered
  | cons draft drafts ih =>
    unfold Store.addArticles
    split
    · exact ih numbered
    · exact ih (numbered.putArticle _ (Int.le_of_lt (Int.lt_succ _)) (Int.le_refl _) _)

private theorem foldl_removeArticle_keys (articles : List Article) (s : Store) :
    (articles.foldl removeArticle s).keys = s.keys.filter (· ∉ articles.map (·.key)) := by
  induction articles generalizing s with
  | nil => simp
  | cons article rest ih =>
    rw [List.foldl_cons, ih, removeArticle, List.filter_filter]
    refine List.filter_congr fun key _ => ?_
    simp only [List.map_cons, List.mem_cons, not_or]
    grind

/-- A batch is taken back as a whole; only the ids are not given again. -/
theorem Takes.undo {drafts : List Draft} {created : List Article}
    (takes : s.Takes drafts created next) (numbered : s.Numbered) :
    next.undo (.articlesCreated created) = { s with lastArticleId := next.lastArticleId } := by
  have lacks := lacks_removeArticle created next
  have articles : (created.foldl removeArticle next).articles = s.articles := by
    refine Shelf.eq_of_get? fun id => ?_
    rw [lacks.articles]
    split
    · next given =>
      obtain ⟨article, member, rfl⟩ := List.mem_map.mp given
      cases found : s.articles.get? article.id with
      | none => rfl
      | some old => exact absurd (numbered.bounded found) (Int.not_le.mpr (takes.newIds _ member))
    · next other => exact takes.others id other
  have keys : (created.foldl removeArticle next).keys = s.keys := by
    rw [foldl_removeArticle_keys, takes.keys, List.filter_append]
    have gone : (created.map (·.key)).reverse.filter (· ∉ created.map (·.key)) = [] := by
      simp only [List.filter_eq_nil_iff, List.mem_reverse, decide_not, Bool.not_eq_true',
        decide_eq_false_iff_not, not_not, imp_self, implies_true]
    have kept : s.keys.filter (· ∉ created.map (·.key)) = s.keys := by
      refine List.filter_eq_self.mpr fun key known => decide_eq_true fun again => ?_
      rw [takes.created] at again
      exact (mem_newKeys.mp again).2 known
    rw [gone, kept, List.nil_append]
  have whole : created.foldl removeArticle next =
      ⟨s.lastFeedId, s.feeds, next.lastArticleId, s.articles, s.keys⟩ := by
    rw [← lacks.lastArticleId, ← articles, ← keys, ← takes.feeds, ← takes.lastFeedId, ← lacks.feeds,
      ← lacks.lastFeedId]
  exact whole

/-! ## Drafts with different keys -/

/-- Drafts with different keys become articles, unless their keys are known, with one id after the
other. -/
theorem addArticles_created (now : Timestamp) {drafts : List Draft} (s : Store)
    (apart : (drafts.map (·.key)).Nodup) :
    (addArticles now drafts s).1 = (drafts.filter (·.key ∉ s.keys)).mapIdx fun n draft =>
      draft.toArticle (s.lastArticleId + 1 + n) now := by
  induction drafts generalizing s with
  | nil => rfl
  | cons draft drafts ih =>
    obtain ⟨first, others⟩ := List.nodup_cons.mp apart
    unfold addArticles
    split
    · next known =>
      have known : draft.key ∈ s.keys := List.contains_iff_mem.mp known
      rw [ih s others, List.filter_cons_of_neg (by simpa using known)]
    · next unknown =>
      have unknown : draft.key ∉ s.keys := mt List.contains_iff_mem.mpr unknown
      -- The key is known from now on, but none of the later drafts has it.
      have rest : drafts.filter (·.key ∉ draft.key :: s.keys) =
          drafts.filter (·.key ∉ s.keys) := by
        refine List.filter_congr fun other member => ?_
        have differs : other.key ≠ draft.key := fun same =>
          first (List.mem_map.mpr ⟨other, member, same⟩)
        simp [differs]
      have later := ih (s.place (draft.toArticle (s.lastArticleId + 1) now)) others
      rw [List.filter_cons_of_pos (by simpa using unknown), List.mapIdx_cons]
      refine congrArg₂ List.cons (by simp) (later.trans ?_)
      show (drafts.filter (·.key ∉ draft.key :: s.keys)).mapIdx _ = _
      rw [rest]
      congr 1
      funext n other
      show other.toArticle (s.lastArticleId + 1 + 1 + n) now = _
      congr 1
      omega

/-- New articles come behind all others. -/
theorem values_addArticles (now : Timestamp) (drafts : List Draft) (numbered : s.Numbered) :
    (addArticles now drafts s).2.articles.values =
      s.articles.values ++ (addArticles now drafts s).1 := by
  induction drafts generalizing s with
  | nil => exact (List.append_nil _).symm
  | cons draft drafts ih =>
    unfold addArticles
    split
    · exact ih numbered
    · let article := draft.toArticle (s.lastArticleId + 1) now
      have last : (s.place article).articles.values = s.articles.values ++ [article] :=
        numbered.kept.values_put_new article (Int.lt_succ s.lastArticleId)
      have placed : (s.place article).Numbered :=
        numbered.putArticle article (Int.le_of_lt (Int.lt_succ _)) (Int.le_refl _) _
      rw [ih placed, last, List.append_assoc]
      rfl

/-! ## Every store is numbered -/

private theorem Numbered.takeFeed (numbered : s.Numbered) (feed : Feed) :
    (s.takeFeed feed).Numbered :=
  ⟨(numbered.withFeed feed).feeds, numbered.articles, numbered.bounded⟩

private theorem Numbered.takeArticle (numbered : s.Numbered) (article : Article) :
    (s.takeArticle article).Numbered := by
  unfold Store.takeArticle
  split
  · exact numbered
  · exact numbered.putArticle article (Int.le_max_left _ _) (Int.le_max_right _ _) _

/-- Whatever rows the tables have, of one id or not. -/
theorem ofTables_numbered (feeds : Table Feed) (articles : Table Article) :
    (ofTables feeds articles).Numbered := by
  have bare : (bare feeds.lastId articles.lastId).Numbered := (bare_sound _ _).indexed.numbered
  have withFeeds :
      (feeds.rows.foldl Store.takeFeed (Store.bare feeds.lastId articles.lastId)).Numbered :=
    List.foldlRecOn _ _ bare fun _ numbered feed _ => numbered.takeFeed feed
  exact List.foldlRecOn _ _ withFeeds fun _ numbered article _ => numbered.takeArticle article

theorem Numbered.begin (numbered : s.Numbered) (now : Timestamp) (request : Request) :
    (request.begin now s).2.Numbered := by
  cases request with
  | insertFeed draft =>
    simp only [Request.begin, insertFeed]
    split
    · exact numbered
    · have added := numbered.withFeed (draft.toFeed (s.lastFeedId + 1) now)
      exact ⟨added.feeds, numbered.articles, numbered.bounded⟩
  | updateFeed feed =>
    simp only [Request.begin, updateFeed]
    split
    · exact numbered
    · exact numbered.withFeed { feed with updatedAt := now }
  | createArticles drafts =>
    have added := numbered.addArticles now drafts
    simp only [Request.begin, createArticles]
    split
    · next none =>
      rw [none] at added
      exact added
    · next some =>
      rw [some] at added
      exact added
  | updateArticle article =>
    simp only [Request.begin, updateArticle]
    split
    · exact numbered
    · next before found =>
      split
      · exact numbered.putArticle { article with updatedAt := now } (Int.le_refl _)
          (numbered.bounded found) _
      · exact numbered

private theorem Numbered.undo (numbered : s.Numbered) {change : Change} (keepsId : change.KeepsId) :
    (s.undo change).Numbered := by
  cases change with
  | feedInserted feed =>
    refine ⟨fun {id row} found => ?_, numbered.articles, numbered.bounded⟩
    rw [Store.undo, Shelf.get?_erase] at found
    split at found
    · cases found
    · exact numbered.feeds found
  | feedUpdated before after =>
    have same : before.id = after.id := keepsId
    simp only [Store.undo]
    split
    · rw [← same]
      exact numbered.withFeed before
    · exact numbered
  | articlesCreated articles =>
    have lacks := lacks_removeArticle articles s
    have before : ∀ {id : Int} {article : Article},
        (articles.foldl removeArticle s).articles.get? id = some article →
        s.articles.get? id = some article := by
      intro id article found
      rw [lacks.articles] at found
      split at found
      · cases found
      · exact found
    refine ⟨?_, fun found => numbered.articles (before found), fun found => ?_⟩
    · rw [Store.undo, lacks.feeds]
      exact numbered.feeds
    · rw [undo_lastArticleId]
      exact numbered.bounded (before found)
  | articleUpdated before after =>
    have same : before.id = after.id := keepsId
    simp only [Store.undo]
    split
    · next stands =>
      rw [← same] at stands ⊢
      exact numbered.putArticle before (Int.le_refl _) (numbered.bounded stands) _
    · exact numbered

end Store

private theorem Store.Numbered.begin_keepsId {s : Store} (numbered : s.Numbered) (now : Timestamp)
    (request : Request) : ∀ change ∈ (request.begin now s).1.change?, change.KeepsId := by
  cases request with
  | updateFeed feed =>
    intro change made
    simp only [Request.begin, Call.change?_map, Store.updateFeed] at made
    split at made
    · cases made
    · next before found =>
      cases made
      exact numbered.feeds found
  | insertFeed draft =>
    intro change made
    simp only [Request.begin, Call.change?_map, Store.insertFeed] at made
    split at made <;> cases made
    trivial
  | createArticles drafts =>
    intro change made
    simp only [Request.begin, Call.change?_map, Store.createArticles] at made
    split at made <;> cases made
    trivial
  | updateArticle article =>
    intro change made
    simp only [Request.begin, Call.change?_map, Store.updateArticle] at made
    split at made
    · cases made
    · next before found =>
      split at made <;> cases made
      exact numbered.articles found

namespace Traffic

structure Numbered (t : Traffic) : Prop where
  store : t.store.Numbered
  keepsId : ∀ visit ∈ t.visits, ∀ change, visit.phase.change? = some change → change.KeepsId

/-- One call goes on with its change, and the others stay where they are. -/
theorem Numbered.move {store storeToo : Store} {earlier later : List Visit} {visit moved : Visit}
    (numbered : Numbered ⟨store, earlier ++ visit :: later⟩)
    (same : moved.phase.change? = visit.phase.change?) (numberedToo : storeToo.Numbered) :
    Numbered ⟨storeToo, earlier ++ moved :: later⟩ where
  store := numberedToo
  keepsId other member := by
    rcases eq_or_mem member with rfl | among
    · rw [same]
      exact numbered.keepsId visit (by simp)
    · exact numbered.keepsId other (mem_of_among visit among)

theorem Numbered.step {t next : Traffic} (numbered : t.Numbered) (step : Step t next) :
    next.Numbered := by
  cases step with
  | @begin _ request now =>
    refine ⟨numbered.store.begin now request, fun visit member => ?_⟩
    rcases List.mem_append.mp member with old | new
    · exact numbered.keepsId visit old
    · cases List.mem_singleton.mp new
      rw [Phase.change?_ofCall]
      exact numbered.store.begin_keepsId now request
  | write => exact numbered.move rfl numbered.store
  | fail => exact numbered.move rfl numbered.store
  | undo =>
    have keepsId := numbered.keepsId _ (List.mem_append_right _ List.mem_cons_self) _ rfl
    exact numbered.move rfl (numbered.store.undo keepsId)

/-- Whatever tables a store is opened with, whatever calls are made to it in whatever order, and
whichever of them fail, it is numbered. -/
theorem numbered_of_run {feeds : Table Feed} {articles : Table Article} {t : Traffic}
    (run : Run (start (.ofTables feeds articles)) t) : t.store.Numbered := by
  have whole : t.Numbered := by
    induction run with
    | refl => exact ⟨Store.ofTables_numbered feeds articles, fun visit member => by cases member⟩
    | tail _ last ih => exact ih.step last
  exact whole.store

/-- A store in memory has no tables; it is opened as if they were empty. -/
example : Store.ofTables .empty .empty = .empty := rfl

end Traffic

end FeedIngest.Catalog
