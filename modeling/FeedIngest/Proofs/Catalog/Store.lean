import FeedIngest.Catalog.Store
import FeedIngest.Proofs.Catalog.Shelf

/-!
# Sound stores

A store is sound if its shelves are kept, feeds by their links and articles by their keys, and
its keys are those of its articles. Calls keep it so, and so does taking a change back whose rows
still stand.
-/

set_option autoImplicit false

namespace FeedIngest.Catalog

open Time (Timestamp)

def Change.feedIds : Change → List Int
  | .feedInserted feed => [feed.id]
  | _ => []

def Change.articleIds : Change → List Int
  | .articlesCreated articles => articles.map (·.id)
  | _ => []

def Change.keys : Change → List ArticleKey
  | .articlesCreated articles => articles.map (·.key)
  | _ => []

def Call.change? {α : Type} : Call α → Option Change
  | .answered _ => none
  | .pending change _ => some change

namespace Store

variable {s next : Store}

structure Sound (s : Store) : Prop where
  feeds : s.feeds.Kept Feed.id Feed.url s.lastFeedId
  articles : s.articles.Kept Article.id Article.key s.lastArticleId
  keys : ∀ {key : ArticleKey},
    key ∈ s.keys ↔ ∃ id article, s.articles.get? id = some article ∧ article.key = key

theorem empty_sound : empty.Sound where
  feeds := .empty
  articles := .empty
  keys := by simp [empty]

theorem mem_articleUrls {feedId : Int} {url : String} : url ∈ s.articleUrls feedId ↔
    ∃ id article, s.articles.get? id = some article ∧ article.key = ⟨feedId, url⟩ := by
  simp only [articleUrls, articlesOf, List.mem_map, List.mem_filter, Shelf.mem_values, beq_iff_eq]
  constructor
  · rintro ⟨article, ⟨⟨id, found⟩, rfl⟩, rfl⟩
    exact ⟨id, article, found, rfl⟩
  · rintro ⟨id, article, found, key⟩
    cases key
    exact ⟨article, ⟨⟨id, found⟩, rfl⟩, rfl⟩

/-! ## The index -/

/-- Rows stand under their own ids, articles differ in their keys, and the keys are those of the
articles. Feeds may have one link. -/
structure Indexed (s : Store) : Prop where
  feeds : s.feeds.Kept Feed.id Feed.id s.lastFeedId
  articles : s.articles.Kept Article.id Article.key s.lastArticleId
  keys : ∀ {key : ArticleKey},
    key ∈ s.keys ↔ ∃ id article, s.articles.get? id = some article ∧ article.key = key

theorem Sound.indexed (sound : s.Sound) : s.Indexed :=
  ⟨sound.feeds.by_id, sound.articles, sound.keys⟩

theorem Indexed.replaceFeed (indexed : s.Indexed) (feed : Feed) {before : Feed}
    (found : s.feeds.get? feed.id = some before) :
    Indexed { s with feeds := s.feeds.put feed.id feed } :=
  ⟨indexed.feeds.put_same found (indexed.feeds.own found).symm, indexed.articles, indexed.keys⟩

theorem Indexed.replaceArticle (indexed : s.Indexed) (article : Article) {before : Article}
    (found : s.articles.get? article.id = some before) (same : article.key = before.key) :
    Indexed { s with articles := s.articles.put article.id article } where
  feeds := indexed.feeds
  articles := indexed.articles.put_same found same
  keys {key} := by
    refine indexed.keys.trans ⟨?_, ?_⟩
    · rintro ⟨id, row, stands, rfl⟩
      obtain ⟨kept, standsToo, sameToo⟩ :=
        Shelf.KeepsBut.put_same found same id row stands List.not_mem_nil
      exact ⟨id, kept, standsToo, sameToo⟩
    · rintro ⟨id, row, stands, rfl⟩
      rw [Shelf.get?_put] at stands
      split at stands
      · cases stands
        exact ⟨_, before, found, same.symm⟩
      · exact ⟨id, row, stands, rfl⟩

/-- An article under a new id and with a new key comes to stand among the others. -/
theorem Indexed.shelve (indexed : s.Indexed) {article : Article} {last : Int}
    (later : s.lastArticleId ≤ last) (within : article.id ≤ last)
    (absent : s.articles.get? article.id = none) (unknown : article.key ∉ s.keys) :
    Indexed
      { s with
        lastArticleId := last
        articles := s.articles.put article.id article
        keys := article.key :: s.keys } where
  feeds := indexed.feeds
  articles := indexed.articles.put later within fun found same =>
    absurd (indexed.keys.mpr ⟨_, _, found, same⟩) unknown
  keys {key} := by
    have keeps : s.articles.KeepsBut Article.key [] (s.articles.put article.id article) :=
      .put_new article absent
    simp only [List.mem_cons, indexed.keys]
    constructor
    · rintro (rfl | ⟨id, row, stands, rfl⟩)
      · exact ⟨article.id, article, by rw [Shelf.get?_put, if_pos rfl], rfl⟩
      · exact Exists.intro id (keeps id row stands List.not_mem_nil)
    · rintro ⟨id, row, stands, rfl⟩
      rw [Shelf.get?_put] at stands
      split at stands
      · cases stands
        exact .inl rfl
      · exact .inr ⟨id, row, stands, rfl⟩

theorem Indexed.place (indexed : s.Indexed) (article : Article)
    (new : s.lastArticleId < article.id) (unknown : article.key ∉ s.keys) :
    (s.place article).Indexed :=
  indexed.shelve (Int.le_of_lt new) (Int.le_refl _) (indexed.articles.get?_of_last_lt new) unknown

/-- Rows stay, with their links and keys, but for those of some ids. -/
structure KeepsBut (feedIds articleIds : List Int) (s next : Store) : Prop where
  feeds : s.feeds.KeepsBut Feed.url feedIds next.feeds
  articles : s.articles.KeepsBut Article.key articleIds next.articles

theorem KeepsBut.trans {mid : Store} {feedIds feedIdsToo articleIds articleIdsToo : List Int}
    (first : s.KeepsBut feedIds articleIds mid)
    (second : mid.KeepsBut feedIdsToo articleIdsToo next) :
    s.KeepsBut (feedIds ++ feedIdsToo) (articleIds ++ articleIdsToo) next :=
  ⟨first.feeds.trans second.feeds, first.articles.trans second.articles⟩

/-- Keys stay with their articles. -/
theorem KeepsBut.mem_keys {feedIds : List Int} (keeps : s.KeepsBut feedIds [] next)
    (sound : s.Sound) (soundNext : next.Sound) {key : ArticleKey} (known : key ∈ s.keys) :
    key ∈ next.keys := by
  obtain ⟨id, row, found, rfl⟩ := sound.keys.mp known
  obtain ⟨kept, stands, same⟩ := keeps.articles id row found List.not_mem_nil
  exact soundNext.keys.mpr ⟨id, kept, stands, same⟩

/-- The rows that a change made still stand, and an update left the link or the key alone. -/
def Holds (s : Store) : Change → Prop
  | .feedInserted feed => ∃ row, s.feeds.get? feed.id = some row ∧ row.url = feed.url
  | .feedUpdated before after => before.id = after.id ∧ before.url = after.url
  | .articlesCreated articles => ∀ article ∈ articles,
      ∃ row, s.articles.get? article.id = some row ∧ row.key = article.key
  | .articleUpdated before after => before.id = after.id ∧ before.key = after.key

theorem Holds.keeps {change : Change} {feedIds articleIds : List Int} (holds : s.Holds change)
    (keeps : KeepsBut feedIds articleIds s next) (feeds : ∀ id ∈ change.feedIds, id ∉ feedIds)
    (articles : ∀ id ∈ change.articleIds, id ∉ articleIds) : next.Holds change := by
  cases change with
  | feedInserted feed =>
    obtain ⟨row, found, url⟩ := holds
    obtain ⟨kept, stands, same⟩ := keeps.feeds _ _ found (feeds feed.id List.mem_cons_self)
    exact ⟨kept, stands, same.trans url⟩
  | feedUpdated => exact holds
  | articlesCreated created =>
    intro article member
    obtain ⟨row, found, key⟩ := holds article member
    obtain ⟨kept, stands, same⟩ :=
      keeps.articles _ _ found (articles article.id (List.mem_map_of_mem member))
    exact ⟨kept, stands, same.trans key⟩
  | articleUpdated => exact holds

/-! ## Calls -/

/-- What a call does to a sound store. The ids that it gives to rows are new, and so are the keys
of the articles that it creates. -/
structure Begins {α : Type} (s : Store) (call : Call α) (next : Store) : Prop where
  sound : next.Sound
  keeps : s.KeepsBut [] [] next
  holds : ∀ change ∈ call.change?, next.Holds change
  keys : ∀ change ∈ call.change?, ∀ key ∈ change.keys, key ∉ s.keys
  feedIds : ∀ change ∈ call.change?, change.feedIds.Nodup ∧
    ∀ id ∈ change.feedIds, s.lastFeedId < id ∧ id ≤ next.lastFeedId
  articleIds : ∀ change ∈ call.change?, change.articleIds.Nodup ∧
    ∀ id ∈ change.articleIds, s.lastArticleId < id ∧ id ≤ next.lastArticleId
  lastFeedId : s.lastFeedId ≤ next.lastFeedId
  lastArticleId : s.lastArticleId ≤ next.lastArticleId

/-- A call that is answered at once changes nothing. -/
theorem Sound.begins_answered (sound : s.Sound) {α : Type} (answer : Except Fault α) :
    s.Begins (.answered answer) s where
  sound := sound
  keeps := ⟨.refl _, .refl _⟩
  holds _ made := by cases made
  keys _ made := by cases made
  feedIds _ made := by cases made
  articleIds _ made := by cases made
  lastFeedId := Int.le_refl _
  lastArticleId := Int.le_refl _

theorem Sound.insertFeed (sound : s.Sound) (now : Timestamp) (draft : DraftFeed) :
    s.Begins (s.insertFeed now draft).1 (s.insertFeed now draft).2 := by
  unfold Store.insertFeed
  split
  · exact sound.begins_answered _
  · next unknown =>
    have new : s.lastFeedId < s.lastFeedId + 1 := by omega
    have fresh : ∀ {other : Int} {same : Feed}, s.feeds.get? other = some same →
        same.url ≠ draft.url := by
      intro other same found
      have differs := List.find?_eq_none.mp unknown same (Shelf.mem_values.mpr ⟨other, found⟩)
      simpa using differs
    refine ⟨⟨sound.feeds.put_new (draft.toFeed (s.lastFeedId + 1) now) new fresh,
      sound.articles, sound.keys⟩, ⟨.put_new _ (sound.feeds.get?_of_last_lt new), .refl _⟩,
      ?_, ?_, ?_, ?_, Int.le_of_lt new, Int.le_refl _⟩
    · rintro _ ⟨⟩
      exact ⟨_, by rw [Shelf.get?_put, if_pos rfl], rfl⟩
    · rintro _ ⟨⟩ key given
      cases given
    · rintro _ ⟨⟩
      refine ⟨by simp [Change.feedIds], fun id member => ?_⟩
      cases List.mem_singleton.mp member
      exact ⟨new, Int.le_refl _⟩
    · rintro _ ⟨⟩
      exact ⟨.nil, fun id given => by cases given⟩

theorem Sound.replaceFeed (sound : s.Sound) (feed : Feed) {before : Feed}
    (found : s.feeds.get? feed.id = some before) (same : feed.url = before.url) :
    Sound { s with feeds := s.feeds.put feed.id feed } :=
  ⟨sound.feeds.put_same found same, sound.articles, sound.keys⟩

theorem Sound.replaceArticle (sound : s.Sound) (article : Article) {before : Article}
    (found : s.articles.get? article.id = some before) (same : article.key = before.key) :
    Sound { s with articles := s.articles.put article.id article } :=
  have indexed := sound.indexed.replaceArticle article found same
  ⟨sound.feeds, indexed.articles, indexed.keys⟩

/-- An update that keeps the link of the feed. -/
theorem Sound.updateFeed (sound : s.Sound) (now : Timestamp) {feed : Feed}
    (keepsUrl : ∀ row, s.feeds.get? feed.id = some row → row.url = feed.url) :
    s.Begins (s.updateFeed now feed).1 (s.updateFeed now feed).2 := by
  unfold Store.updateFeed
  split
  · exact sound.begins_answered _
  · next before found =>
    have same := keepsUrl before found
    refine ⟨sound.replaceFeed { feed with updatedAt := now } found same.symm,
      ⟨.put_same found same.symm, .refl _⟩, ?_, ?_, ?_, ?_, Int.le_refl _, Int.le_refl _⟩
    · rintro _ ⟨⟩
      exact ⟨sound.feeds.own found, same⟩
    · rintro _ ⟨⟩ key given
      cases given
    · rintro _ ⟨⟩
      exact ⟨.nil, fun id given => by cases given⟩
    · rintro _ ⟨⟩
      exact ⟨.nil, fun id given => by cases given⟩

theorem Sound.updateArticle (sound : s.Sound) (now : Timestamp) (article : Article) :
    s.Begins (s.updateArticle now article).1 (s.updateArticle now article).2 := by
  unfold Store.updateArticle
  split
  · exact sound.begins_answered _
  · next before found =>
    split
    · next same =>
      refine ⟨sound.replaceArticle { article with updatedAt := now } found same.symm,
        ⟨.refl _, .put_same found same.symm⟩, ?_, ?_, ?_, ?_, Int.le_refl _, Int.le_refl _⟩
      · rintro _ ⟨⟩
        exact ⟨sound.articles.own found, same⟩
      · rintro _ ⟨⟩ key given
        cases given
      · rintro _ ⟨⟩
        exact ⟨.nil, fun id given => by cases given⟩
      · rintro _ ⟨⟩
        exact ⟨.nil, fun id given => by cases given⟩
    · exact sound.begins_answered _

/-! ## Creating articles -/

/-- An article under a new id and with a new key comes to stand among the others. -/
theorem Sound.shelve (sound : s.Sound) {article : Article} {last : Int}
    (later : s.lastArticleId ≤ last) (within : article.id ≤ last)
    (absent : s.articles.get? article.id = none) (unknown : article.key ∉ s.keys) :
    Sound
      { s with
        lastArticleId := last
        articles := s.articles.put article.id article
        keys := article.key :: s.keys } :=
  have indexed := sound.indexed.shelve later within absent unknown
  ⟨sound.feeds, indexed.articles, indexed.keys⟩

theorem Sound.place (sound : s.Sound) (article : Article)
    (new : s.lastArticleId < article.id) (unknown : article.key ∉ s.keys) :
    (s.place article).Sound :=
  sound.shelve (Int.le_of_lt new) (Int.le_refl _) (sound.articles.get?_of_last_lt new) unknown

/-- What adding articles does to a sound store: the keys of all drafts are known then. -/
structure Adds (s : Store) (drafts : List Draft) (created : List Article) (next : Store) :
    Prop where
  begins : s.Begins (.pending (.articlesCreated created) created) next
  covers : ∀ draft ∈ drafts, draft.key ∈ next.keys

/-- Nothing is added for no drafts. -/
theorem Sound.adds_nil (sound : s.Sound) : s.Adds [] [] s := by
  refine ⟨⟨sound, ⟨.refl _, .refl _⟩, ?_, ?_, ?_, ?_, Int.le_refl _, Int.le_refl _⟩, ?_⟩
  · rintro _ ⟨⟩ article none
    cases none
  · rintro _ ⟨⟩ key given
    cases given
  · rintro _ ⟨⟩
    exact ⟨.nil, fun id given => by cases given⟩
  · rintro _ ⟨⟩
    exact ⟨.nil, fun id given => by cases given⟩
  · intro draft none
    cases none

/-- A draft whose key is known adds nothing. -/
theorem Adds.cons_known {draft : Draft} {drafts : List Draft} {created : List Article}
    (adds : s.Adds drafts created next) (sound : s.Sound) (known : draft.key ∈ s.keys) :
    s.Adds (draft :: drafts) created next where
  begins := adds.begins
  covers := by
    intro other member
    rcases List.mem_cons.mp member with rfl | member
    · exact adds.begins.keeps.mem_keys sound adds.begins.sound known
    · exact adds.covers other member

/-- A draft whose key is new adds an article, and the others follow. -/
theorem Adds.cons_new {draft : Draft} {drafts : List Draft} {created : List Article}
    {article : Article} (adds : (s.place article).Adds drafts created next) (sound : s.Sound)
    (new : article.id = s.lastArticleId + 1) (key : article.key = draft.key)
    (unknown : draft.key ∉ s.keys) :
    s.Adds (draft :: drafts) (article :: created) next := by
  have later : s.lastArticleId < article.id := by omega
  have absent := sound.articles.get?_of_last_lt later
  have soundPlaced := sound.place article later (key ▸ unknown)
  obtain ⟨begins, covers⟩ := adds
  have place : s.KeepsBut [] [] (s.place article) := ⟨.refl _, .put_new _ absent⟩
  have stands : (s.place article).articles.get? article.id = some article := by
    simp only [Store.place, Shelf.get?_put, if_pos]
  have lastPlaced : article.id ≤ next.lastArticleId := begins.lastArticleId
  refine ⟨⟨begins.sound, place.trans begins.keeps, ?_, ?_, ?_, ?_, begins.lastFeedId, by omega⟩, ?_⟩
  · rintro _ ⟨⟩ other member
    rcases List.mem_cons.mp member with rfl | member
    · exact begins.keeps.articles _ _ stands List.not_mem_nil
    · exact begins.holds _ rfl other member
  · rintro _ ⟨⟩ other given known
    rcases List.mem_cons.mp given with rfl | given
    · exact unknown (key ▸ known)
    · exact begins.keys _ rfl other given (List.mem_cons_of_mem _ known)
  · rintro _ ⟨⟩
    exact ⟨.nil, fun id given => by cases given⟩
  · rintro _ ⟨⟩
    obtain ⟨nodup, between⟩ := begins.articleIds _ rfl
    have above : ∀ id ∈ created.map (·.id), article.id < id ∧ id ≤ next.lastArticleId := between
    refine ⟨List.nodup_cons.mpr ⟨fun again => ?_, nodup⟩, fun id member => ?_⟩
    · exact absurd (above _ again).1 (Int.lt_irrefl _)
    · rcases List.mem_cons.mp member with rfl | member
      · exact ⟨later, lastPlaced⟩
      · exact ⟨Int.lt_trans later (above id member).1, (above id member).2⟩
  · intro other member
    rcases List.mem_cons.mp member with rfl | member
    · refine begins.keeps.mem_keys soundPlaced begins.sound ?_
      rw [← key]
      exact List.mem_cons_self
    · exact covers other member

theorem Sound.addArticles (now : Timestamp) (drafts : List Draft) (sound : s.Sound) :
    s.Adds drafts (addArticles now drafts s).1 (addArticles now drafts s).2 := by
  induction drafts generalizing s with
  | nil => exact sound.adds_nil
  | cons draft drafts ih =>
    unfold Store.addArticles
    split
    · next known => exact (ih sound).cons_known sound (by simpa using known)
    · next unknown =>
      have unknown : draft.key ∉ s.keys := by simpa using unknown
      have placed := sound.place (draft.toArticle (s.lastArticleId + 1) now) (Int.lt_succ _) unknown
      exact (ih placed).cons_new sound rfl rfl unknown

theorem Sound.createArticles (sound : s.Sound) (now : Timestamp) (drafts : List Draft) :
    s.Begins (s.createArticles now drafts).1 (s.createArticles now drafts).2 := by
  have adds := sound.addArticles now drafts
  unfold Store.createArticles
  split
  · next added =>
    rw [added] at adds
    refine ⟨adds.begins.sound, adds.begins.keeps, ?_, ?_, ?_, ?_, adds.begins.lastFeedId,
      adds.begins.lastArticleId⟩
    all_goals
      intro change made
      cases made
  · next added =>
    rw [added] at adds
    exact adds.begins

@[simp] theorem addArticles_feeds (now : Timestamp) (drafts : List Draft) :
    (addArticles now drafts s).2.feeds = s.feeds := by
  induction drafts generalizing s with
  | nil => rfl
  | cons draft drafts ih =>
    unfold Store.addArticles
    split
    · exact ih
    · exact ih

@[simp] theorem createArticles_feeds (now : Timestamp) (drafts : List Draft) :
    (s.createArticles now drafts).2.feeds = s.feeds := by
  rw [← addArticles_feeds (s := s) now drafts]
  unfold Store.createArticles
  split
  · next added => rw [added]
  · next added => rw [added]

@[simp] theorem updateArticle_feeds (now : Timestamp) (article : Article) :
    (s.updateArticle now article).2.feeds = s.feeds := by
  unfold Store.updateArticle
  split
  · rfl
  · split <;> rfl

/-! ## Taking changes back -/

structure Lacks (s : Store) (gone : List Article) (next : Store) : Prop where
  feeds : next.feeds = s.feeds
  lastFeedId : next.lastFeedId = s.lastFeedId
  lastArticleId : next.lastArticleId = s.lastArticleId
  articles : ∀ id, next.articles.get? id =
    if id ∈ gone.map (·.id) then none else s.articles.get? id
  keys : ∀ key, key ∈ next.keys ↔ key ∈ s.keys ∧ key ∉ gone.map (·.key)

theorem lacks_removeArticle (articles : List Article) (s : Store) :
    s.Lacks articles (articles.foldl removeArticle s) := by
  induction articles generalizing s with
  | nil => exact ⟨rfl, rfl, rfl, fun _ => by simp, fun _ => by simp⟩
  | cons article rest ih =>
    have lacks := ih (s.removeArticle article)
    refine ⟨lacks.feeds, lacks.lastFeedId, lacks.lastArticleId, fun id => ?_, fun key => ?_⟩
    · rw [List.foldl_cons, lacks.articles, List.map_cons]
      show (if id ∈ rest.map (·.id) then none else (s.articles.erase article.id).get? id) = _
      rw [Shelf.get?_erase]
      grind
    · rw [List.foldl_cons, lacks.keys, List.map_cons]
      show key ∈ s.keys.filter (· != article.key) ∧ _ ↔ _
      rw [List.mem_filter, List.mem_cons]
      grind

/-- Articles are taken away that stand, with their keys. -/
theorem Lacks.sound {articles : List Article} (lacks : s.Lacks articles next) (sound : s.Sound)
    (holds : s.Holds (.articlesCreated articles)) : next.Sound where
  feeds := by
    rw [lacks.feeds, lacks.lastFeedId]
    exact sound.feeds
  articles := by
    have before : ∀ {id row}, next.articles.get? id = some row → s.articles.get? id = some row := by
      intro id row found
      rw [lacks.articles] at found
      split at found
      · cases found
      · exact found
    rw [lacks.lastArticleId]
    exact ⟨fun found => sound.articles.own (before found),
      fun found => sound.articles.bounded (before found),
      fun found foundToo => sound.articles.distinct (before found) (before foundToo)⟩
  keys {key} := by
    rw [lacks.keys, sound.keys]
    constructor
    · rintro ⟨⟨id, row, found, rfl⟩, stays⟩
      refine ⟨id, row, ?_, rfl⟩
      rw [lacks.articles, if_neg, found]
      -- The article of that id would have had this key.
      intro gone
      obtain ⟨article, member, rfl⟩ := List.mem_map.mp gone
      obtain ⟨stood, stands, same⟩ := holds article member
      cases found.symm.trans stands
      exact stays (same ▸ List.mem_map_of_mem member)
    · rintro ⟨id, row, found, rfl⟩
      rw [lacks.articles] at found
      split at found
      · cases found
      · next stays =>
        refine ⟨⟨id, row, found, rfl⟩, fun gone => ?_⟩
        obtain ⟨article, member, same⟩ := List.mem_map.mp gone
        obtain ⟨stood, stands, sameToo⟩ := holds article member
        have here := sound.articles.distinct stands found (sameToo.trans same)
        exact stays (here ▸ List.mem_map_of_mem member)

/-- A change whose rows stand is taken back. -/
theorem Sound.undo (sound : s.Sound) {change : Change} (holds : s.Holds change) :
    (s.undo change).Sound := by
  cases change with
  | feedInserted feed => exact ⟨sound.feeds.erase _, sound.articles, sound.keys⟩
  | feedUpdated before after =>
    obtain ⟨id, url⟩ := holds
    simp only [Store.undo]
    split
    · next found =>
      rw [← id] at found ⊢
      exact sound.replaceFeed before found url
    · exact sound
  | articlesCreated articles => exact (lacks_removeArticle articles s).sound sound holds
  | articleUpdated before after =>
    obtain ⟨id, key⟩ := holds
    simp only [Store.undo]
    split
    · next found =>
      rw [← id] at found ⊢
      exact sound.replaceArticle before found key
    · exact sound

/-- Taking a change back spares all rows but those that it gave ids to. -/
theorem undo_keepsBut {change : Change} (holds : s.Holds change) :
    s.KeepsBut change.feedIds change.articleIds (s.undo change) := by
  cases change with
  | feedInserted feed => exact ⟨.erase _, .refl _⟩
  | feedUpdated before after =>
    obtain ⟨_, url⟩ := holds
    simp only [Store.undo]
    split
    · next found => exact ⟨.put_same found url, .refl _⟩
    · exact ⟨.refl _, .refl _⟩
  | articlesCreated articles =>
    have lacks := lacks_removeArticle articles s
    refine ⟨lacks.feeds ▸ .refl _, fun id row found stays => ⟨row, ?_, rfl⟩⟩
    exact (lacks.articles id).trans ((if_neg stays).trans found)
  | articleUpdated before after =>
    obtain ⟨_, key⟩ := holds
    simp only [Store.undo]
    split
    · next found => exact ⟨.refl _, .put_same found key⟩
    · exact ⟨.refl _, .refl _⟩

@[simp] theorem undo_lastFeedId (change : Change) : (s.undo change).lastFeedId = s.lastFeedId := by
  cases change with
  | articlesCreated articles => exact (lacks_removeArticle articles s).lastFeedId
  | feedInserted => rfl
  | feedUpdated | articleUpdated =>
    simp only [Store.undo]
    split <;> rfl

@[simp] theorem undo_lastArticleId (change : Change) :
    (s.undo change).lastArticleId = s.lastArticleId := by
  cases change with
  | articlesCreated articles => exact (lacks_removeArticle articles s).lastArticleId
  | feedInserted => rfl
  | feedUpdated | articleUpdated =>
    simp only [Store.undo]
    split <;> rfl

/-! ## Tables -/

theorem foldl_takeFeed_articles (rows : List Feed) (s : Store) :
    (rows.foldl takeFeed s).articles = s.articles ∧ (rows.foldl takeFeed s).keys = s.keys := by
  induction rows generalizing s with
  | nil => exact ⟨rfl, rfl⟩
  | cons feed rest ih => exact ih (s.takeFeed feed)

private theorem foldl_takeArticle_feeds (rows : List Article) (s : Store) :
    (rows.foldl takeArticle s).feeds = s.feeds ∧
      (rows.foldl takeArticle s).lastFeedId = s.lastFeedId := by
  induction rows generalizing s with
  | nil => exact ⟨rfl, rfl⟩
  | cons article rest ih =>
    obtain ⟨feeds, lastFeedId⟩ := ih (s.takeArticle article)
    rw [List.foldl_cons, feeds, lastFeedId, takeArticle]
    split <;> exact ⟨rfl, rfl⟩

def bare (lastFeedId lastArticleId : Int) : Store := { empty with lastFeedId, lastArticleId }

theorem bare_sound (lastFeedId lastArticleId : Int) : (bare lastFeedId lastArticleId).Sound :=
  ⟨.empty, .empty, empty_sound.keys⟩

theorem ofTables_feeds (feeds : Table Feed) (articles : Table Article) :
    (ofTables feeds articles).feeds =
        (feeds.rows.foldl takeFeed (bare feeds.lastId articles.lastId)).feeds ∧
      (ofTables feeds articles).lastFeedId =
        (feeds.rows.foldl takeFeed (bare feeds.lastId articles.lastId)).lastFeedId :=
  foldl_takeArticle_feeds _ _

private theorem Indexed.takeFeed (indexed : s.Indexed) (feed : Feed) :
    (s.takeFeed feed).Indexed where
  feeds := indexed.feeds.put (Int.le_max_left _ _) (Int.le_max_right _ _) fun found same =>
    (indexed.feeds.own found).symm.trans same
  articles := indexed.articles
  keys := indexed.keys

private theorem Indexed.takeFeeds (indexed : s.Indexed) (rows : List Feed) :
    (rows.foldl Store.takeFeed s).Indexed := by
  induction rows generalizing s with
  | nil => exact indexed
  | cons feed rest ih => exact ih (indexed.takeFeed feed)

private theorem Indexed.takeArticle (indexed : s.Indexed) {article : Article}
    (absent : s.articles.get? article.id = none) : (s.takeArticle article).Indexed := by
  unfold Store.takeArticle
  split
  · exact indexed
  · next unknown =>
    have unknown : article.key ∉ s.keys := by simpa using unknown
    exact indexed.shelve (Int.le_max_left _ _) (Int.le_max_right _ _) absent unknown

private theorem Indexed.takeArticles (indexed : s.Indexed) (rows : List Article)
    (apart : rows.Pairwise fun article later => article.id ≠ later.id)
    (absent : ∀ article ∈ rows, s.articles.get? article.id = none) :
    (rows.foldl Store.takeArticle s).Indexed := by
  induction rows generalizing s with
  | nil => exact indexed
  | cons article rest ih =>
    obtain ⟨first, others⟩ := List.pairwise_cons.mp apart
    obtain ⟨here, absent⟩ := List.forall_mem_cons.mp absent
    refine ih (indexed.takeArticle here) others fun later member => ?_
    unfold Store.takeArticle
    split
    · exact absent later member
    · exact (Shelf.get?_put ..).trans ((if_neg (first later member).symm).trans (absent later member))

/-- A store may be opened with the articles of an indexed store. -/
theorem Indexed.ofTables {articles : Store} (indexed : articles.Indexed) (feeds : Table Feed) :
    (ofTables feeds articles.articleTable).Indexed := by
  have opened := (bare_sound feeds.lastId articles.lastArticleId).indexed.takeFeeds feeds.rows
  refine opened.takeArticles _ (indexed.articles.values_pairwise.imp And.left) fun article _ => ?_
  have untouched :=
    (foldl_takeFeed_articles feeds.rows (bare feeds.lastId articles.lastArticleId)).1
  exact congrArg (Shelf.get? · article.id) untouched

private theorem Sound.takeFeed (sound : s.Sound) {feed : Feed}
    (newUrl : ∀ other ∈ s.feeds.values, feed.url ≠ other.url) : (s.takeFeed feed).Sound where
  feeds := sound.feeds.put (Int.le_max_left _ _) (Int.le_max_right _ _) fun found same =>
    absurd same.symm (newUrl _ (Shelf.mem_values.mpr ⟨_, found⟩))
  articles := sound.articles
  keys := sound.keys

private theorem Sound.takeFeeds (rows : List Feed) (sound : s.Sound)
    (apart : rows.Pairwise fun feed later => feed.url ≠ later.url)
    (newUrls : ∀ feed ∈ rows, ∀ other ∈ s.feeds.values, feed.url ≠ other.url) :
    (rows.foldl Store.takeFeed s).Sound := by
  induction rows generalizing s with
  | nil => exact sound
  | cons feed rest ih =>
    obtain ⟨first, others⟩ := List.pairwise_cons.mp apart
    refine ih (sound.takeFeed (newUrls feed List.mem_cons_self)) others
      fun later member other stands => ?_
    rcases Shelf.mem_values_put stands with rfl | old
    · exact (first later member).symm
    · exact newUrls later (List.mem_cons_of_mem _ member) other old

/-- A store may be opened with tables of sound stores. -/
theorem Sound.ofTables {feeds articles : Store} (sound : feeds.Sound) (soundToo : articles.Sound) :
    (ofTables feeds.feedTable articles.articleTable).Sound := by
  have soundFeeds := (bare_sound feeds.lastFeedId articles.lastArticleId).takeFeeds
    feeds.feeds.values (sound.feeds.values_pairwise.imp And.right)
    (fun _ _ _ stands => by cases stands)
  have indexed := soundToo.indexed.ofTables feeds.feedTable
  obtain ⟨sameFeeds, sameLast⟩ := ofTables_feeds feeds.feedTable articles.articleTable
  refine ⟨?_, indexed.articles, indexed.keys⟩
  rw [sameFeeds, sameLast]
  exact soundFeeds.feeds

end Store

end FeedIngest.Catalog
