import Mathlib.Logic.Relation
import FeedIngest.Proofs.Catalog.Index
import FeedIngest.Proofs.Ingest.Coverage

/-!
# How runs share the new articles

Any number of runs go on for one feed, over an archive without a directory, each with a document of
its own. A run drafts the links that were not stored when it looked; another run may have stored
some of them before the drafts are filed, and the store leaves those out. So what the runs return is
a partition of what they add to the feed, however they come in between each other.
-/

set_option autoImplicit false

namespace FeedIngest.Ingest

open Catalog (Access Archive Article ArticleKey Call Change Draft DraftFeed Feed Store Validators)
open Syndication (FeedDocument FeedItem)
open Time (Timestamp)

def links (document : FeedDocument) : List String := document.items.filterMap itemLink?

namespace Run

def created (r : Run) : List Article :=
  match r.stage with
  | .filing _ _ created _ | .remembering _ created _ | .marking _ created
  | .finished (.ok created) => created
  | _ => []

def distance (r : Run) : Nat :=
  match r.stage with
  | .loading => 9
  | .fetching _ => 8
  | _ => r.stagesLeft

theorem step_distance {σ : Type} (c : Access σ) (now : Timestamp) {r : Run} (s : σ)
    (waits : ∀ feed, r.stage ≠ .fetching feed) (goes : r.result? = none) :
    (r.step c now s).1.distance < r.distance := by
  obtain ⟨feedId, stage⟩ := r
  cases stage with
  | loading =>
    simp only [step]
    split <;> simp [goTo, distance, stagesLeft]
  | fetching feed => exact absurd rfl (waits feed)
  | describing feed document validators =>
    simp only [step]
    split
    · simp [goTo, distance, stagesLeft]
    · split <;> simp [goTo, distance, stagesLeft]
  | noting change described feed document validators =>
    simp only [step]
    split <;> simp [goTo, distance, stagesLeft]
  | listing feed document validators =>
    simp only [step]
    split <;> simp [goTo, distance, stagesLeft]
  | creating feed fresh validators =>
    cases fresh with
    | nil => simp [step, goTo, distance, stagesLeft]
    | cons draft drafts =>
      simp only [step]
      split <;> simp [goTo, distance, stagesLeft]
  | filing change feed created validators =>
    simp only [step]
    split <;> simp [goTo, distance, stagesLeft]
  | remembering feed created validators =>
    simp only [step]
    split
    · simp [goTo, distance, stagesLeft]
    · split <;> simp [goTo, distance, stagesLeft]
  | marking change created =>
    simp [step, goTo, distance, stagesLeft]
  | finished result => cases goes

end Run

/-! ## One run -/

def articleKeys (feedId : Int) (document : FeedDocument) : List ArticleKey :=
  (links document).map fun link => ⟨feedId, link⟩

structure Ready (feedId : Int) (a : Archive) : Prop where
  directory : a.directory = none
  indexed : a.store.Indexed
  feed : ∃ feed, a.store.feeds.get? feedId = some feed

/-- What a run has in its hands: its document, and then drafts for those of the links that are not
stored. At last all of them are. -/
def Stage.Diligent (s : Store) (feedId : Int) (document : FeedDocument) : Stage → Prop
  | .loading | .fetching _ => True
  | .describing _ heard _ | .noting _ _ _ heard _ | .listing _ heard _ => heard = document
  | .creating _ fresh _ =>
    (∀ key ∈ articleKeys feedId document, key ∈ s.keys ∨ ∃ draft ∈ fresh, draft.key = key) ∧
      ∀ draft ∈ fresh, draft.key ∈ articleKeys feedId document
  | .filing _ _ _ _ | .remembering _ _ _ | .marking _ _ | .finished (.ok _) =>
    ∀ key ∈ articleKeys feedId document, key ∈ s.keys
  | .finished (.error _) => False

section Turns

variable {feedId : Int} {a next : Archive} {run : Run} {document : FeedDocument}

private theorem Ready.unsettled (ready : Ready feedId a) (unsettled : Nat) :
    Ready feedId { a with unsettled } :=
  ⟨ready.directory, ready.indexed, ready.feed⟩

private theorem Ready.settle (ready : Ready feedId a) (change : Change) :
    ∃ unsettled, Archive.access.settle change a = (.ok (), { a with unsettled }) :=
  ⟨a.unsettled - 1, Archive.settle_of_no_directory ready.directory change⟩

private theorem Ready.updateFeed (ready : Ready feedId a) (now : Timestamp) (feed : Feed) :
    Ready feedId (a.updateFeed now feed).2 ∧
      (a.updateFeed now feed).2.store.articles = a.store.articles := by
  have same : (a.updateFeed now feed).2.store = (a.store.updateFeed now feed).2 :=
    (Catalog.Traffic.begin_archive (Store.updateFeed now feed) a).2
  have stays : ∃ kept, (a.store.updateFeed now feed).2.feeds.get? feedId = some kept := by
    obtain ⟨row, found⟩ := ready.feed
    unfold Store.updateFeed
    split
    · exact ⟨row, found⟩
    · simp only [Catalog.Shelf.get?_put]
      split
      · exact ⟨_, rfl⟩
      · exact ⟨row, found⟩
  refine ⟨⟨?_, ?_, ?_⟩, ?_⟩
  · exact (Archive.begin_directory _ _).trans ready.directory
  · rw [same]
    exact ready.indexed.updateFeed now feed
  · rw [same]
    exact stays
  · rw [same, Store.updateFeed_articles]

/-- The articles that a call creates come last, and the keys of all drafts are known then. -/
theorem Ready.createArticles (ready : Ready feedId a) (now : Timestamp) (drafts : List Draft) :
    ∃ created next, Ready feedId next ∧ a.store.Appends drafts created next.store ∧
      (a.createArticles now drafts = (.pending (.articlesCreated created) created, next) ∨
        created = [] ∧ a.createArticles now drafts = (.answered (.ok []), next)) := by
  obtain ⟨created, appends, call⟩ := ready.indexed.createArticles now drafts
  obtain ⟨sameCall, same⟩ := Catalog.Traffic.begin_archive (Store.createArticles now drafts) a
  refine ⟨created, (a.createArticles now drafts).2, ⟨?_, ?_, ?_⟩, ?_, ?_⟩
  · exact (Archive.begin_directory _ _).trans ready.directory
  · rw [Archive.createArticles, same]
    exact appends.indexed
  · rw [Archive.createArticles, same, appends.feeds]
    exact ready.feed
  · rw [Archive.createArticles, same]
    exact appends
  · refine call.imp (fun pending => ?_) (And.imp_right fun answered => ?_)
    · exact Prod.ext (sameCall.trans pending) rfl
    · exact Prod.ext (sameCall.trans answered) rfl

/-- Keys stay where the articles do. -/
theorem Ready.mem_keys (ready : Ready feedId a) (readyNext : Ready feedId next)
    (same : next.store.articles = a.store.articles) {key : ArticleKey} :
    key ∈ next.store.keys ↔ key ∈ a.store.keys := by
  rw [readyNext.indexed.keys, ready.indexed.keys, same]

private theorem mem_keys_freshDrafts {s : Store} (indexed : s.Indexed) (now : Timestamp)
    {key : ArticleKey} (asked : key ∈ articleKeys feedId document) : key ∈ s.keys ∨
      ∃ draft ∈ freshDrafts feedId now (s.articleUrls feedId) document.items, draft.key = key := by
  obtain ⟨link, member, rfl⟩ := List.mem_map.mp asked
  obtain ⟨item, among, linked⟩ := List.mem_filterMap.mp member
  exact (mem_freshDrafts now among linked).imp_left indexed.keys.mpr

private theorem freshDrafts_key {known : List String} {now : Timestamp} {draft : Draft}
    (fresh : draft ∈ freshDrafts feedId now known document.items) :
    draft.key ∈ articleKeys feedId document := by
  obtain ⟨item, among, drafted⟩ := List.mem_filterMap.mp (mem_of_mem_unseen fresh)
  obtain ⟨link, linked, rfl⟩ := Option.map_eq_some_iff.mp drafted
  exact List.mem_map.mpr ⟨link, List.mem_filterMap.mpr ⟨item, among, linked⟩, rfl⟩

/-- What comes of a stage: the articles that the run has created since come last in the store. -/
structure Works (a : Archive) (run : Run) (document : FeedDocument) (after : Run × Archive) :
    Prop where
  ready : Ready run.feedId after.2
  feedId : after.1.feedId = run.feedId
  articles : ∃ new, after.1.created = run.created ++ new ∧
    after.2.store.articles.values = a.store.articles.values ++ new ∧
    ∀ article ∈ new, article.key ∈ articleKeys run.feedId document
  diligent : after.1.stage.Diligent after.2.store run.feedId document

/-- A stage that leaves the articles alone. -/
theorem Works.of_same_articles (ready : Ready run.feedId next)
    (same : next.store.articles = a.store.articles) {stage : Stage}
    (created : (run.goTo stage).created = run.created)
    (diligent : stage.Diligent next.store run.feedId document) :
    Works a run document (run.goTo stage, next) where
  ready := ready
  feedId := rfl
  articles := by
    refine ⟨[], ?_, ?_, fun article member => by cases member⟩
    · rw [List.append_nil]
      exact created
    · rw [List.append_nil, same]
  diligent := diligent

theorem Stage.Diligent.step (diligent : run.stage.Diligent a.store run.feedId document)
    (ready : Ready run.feedId a) (now : Timestamp) :
    Works a run document (run.step Archive.access now a) := by
  obtain ⟨feedId, stage⟩ := run
  cases stage with
  | loading =>
    obtain ⟨feed, found⟩ := ready.feed
    have told : Archive.access.feed feedId a = (.ok feed, a) := by
      simp only [Archive.access, Store.feed, found]
    simp only [Run.step, told]
    exact .of_same_articles ready rfl rfl trivial
  | fetching feed => exact .of_same_articles ready rfl rfl trivial
  | describing feed heard v =>
    simp only [Run.step]
    split
    · exact .of_same_articles ready rfl rfl diligent
    · obtain ⟨readyNext, same⟩ := ready.updateFeed now (describe feed heard)
      rcases begun : a.updateFeed now (describe feed heard) with ⟨call, next⟩
      rw [begun] at readyNext same
      have told : Archive.access.updateFeed now (describe feed heard) a = (call, next) := begun
      rw [told]
      rcases call with (_ | _) | _
      all_goals exact .of_same_articles readyNext same rfl diligent
  | noting change described feed heard v =>
    obtain ⟨unsettled, settled⟩ := ready.settle change
    simp only [Run.step, settled]
    apply Works.of_same_articles (ready.unsettled unsettled)
    · rfl
    · rfl
    · exact diligent
  | listing feed heard v =>
    cases diligent
    refine .of_same_articles ready rfl rfl ⟨?_, ?_⟩
    · intro key asked
      exact mem_keys_freshDrafts ready.indexed now asked
    · intro draft fresh
      exact freshDrafts_key fresh
  | creating feed fresh v =>
    obtain ⟨covers, drafted⟩ := diligent
    cases fresh with
    | nil =>
      refine .of_same_articles ready rfl rfl ?_
      intro key asked
      rcases covers key asked with known | ⟨_, none, _⟩
      · exact known
      · cases none
    | cons draft drafts =>
      obtain ⟨created, next, readyNext, appends, begun⟩ :=
        ready.createArticles now (draft :: drafts)
      have stored : ∀ key ∈ articleKeys feedId document, key ∈ next.store.keys := by
        intro key asked
        rcases covers key asked with known | ⟨made, among, rfl⟩
        · exact (appends.mem_keys ready.indexed).mpr (.inl known)
        · exact appends.covers made among
      have own : ∀ article ∈ created, article.key ∈ articleKeys feedId document := by
        intro article member
        obtain ⟨made, among, same⟩ := appends.drafted article member
        exact same ▸ drafted made among
      rcases begun with begun | ⟨rfl, begun⟩
      all_goals
        have told : Archive.access.createArticles now (draft :: drafts) a = _ := begun
        simp only [Run.step, told]
        exact ⟨readyNext, rfl, ⟨_, rfl, appends.articles, own⟩, stored⟩
  | filing change feed created v =>
    obtain ⟨unsettled, settled⟩ := ready.settle change
    simp only [Run.step, settled]
    apply Works.of_same_articles (ready.unsettled unsettled)
    · rfl
    · rfl
    · exact diligent
  | remembering feed created v =>
    simp only [Run.step]
    split
    · exact .of_same_articles ready rfl rfl diligent
    · obtain ⟨readyNext, same⟩ :=
        ready.updateFeed now { feed with etag := v.etag, lastModified := v.lastModified }
      rcases begun : a.updateFeed now
        { feed with etag := v.etag, lastModified := v.lastModified } with ⟨call, next⟩
      rw [begun] at readyNext same
      have stored : ∀ key ∈ articleKeys feedId document, key ∈ next.store.keys :=
        fun key asked => (ready.mem_keys readyNext same).mpr (diligent key asked)
      have told : Archive.access.updateFeed now
        { feed with etag := v.etag, lastModified := v.lastModified } a = (call, next) := begun
      rw [told]
      cases call
      all_goals exact .of_same_articles readyNext same rfl stored
  | marking change created =>
    obtain ⟨unsettled, settled⟩ := ready.settle change
    simp only [Run.step, settled]
    apply Works.of_same_articles (ready.unsettled unsettled)
    · rfl
    · rfl
    · exact diligent
  | finished result => exact .of_same_articles ready rfl rfl diligent

/-- A run that waits for its document hears it. -/
theorem Works.hear {feed : Feed} (ready : Ready run.feedId a)
    (waits : run.stage = .fetching feed) (v : Validators) :
    Works a run document (run.hear (.ok (.fetched document v)), a) := by
  obtain ⟨feedId, stage⟩ := run
  cases waits
  exact .of_same_articles ready rfl rfl rfl

/-- What a run has in its hands it has in a store with more keys, too. -/
theorem Stage.Diligent.grows {s next : Store} {stage : Stage}
    (diligent : stage.Diligent s feedId document) (grows : ∀ key ∈ s.keys, key ∈ next.keys) :
    stage.Diligent next feedId document := by
  unfold Stage.Diligent at diligent ⊢
  split at diligent
  case h_6 =>
    obtain ⟨covers, drafted⟩ := diligent
    exact ⟨fun key asked => (covers key asked).imp_left (grows key), drafted⟩
  case h_7 | h_8 | h_9 | h_10 =>
    intro key asked
    exact grows key (diligent key asked)
  all_goals exact diligent

end Turns

/-! ## Any number of runs -/

structure Assignment where
  run : Run
  document : FeedDocument
  validators : Validators

namespace Assignment

/-- The run hears its document if it waits for it, and otherwise takes a stage. -/
def turn (now : Timestamp) (x : Assignment) (a : Archive) : Assignment × Archive :=
  match x.run.stage with
  | .fetching _ => ({ x with run := x.run.hear (.ok (.fetched x.document x.validators)) }, a)
  | _ =>
    let (run, a) := x.run.step Archive.access now a
    ({ x with run }, a)

private theorem turn_document (now : Timestamp) (x : Assignment) (a : Archive) :
    (x.turn now a).1.document = x.document := by
  unfold turn
  split <;> rfl

private theorem turn_works {x : Assignment} {a : Archive} (ready : Ready x.run.feedId a)
    (diligent : x.run.stage.Diligent a.store x.run.feedId x.document) (now : Timestamp) :
    Works a x.run x.document ((x.turn now a).1.run, (x.turn now a).2) := by
  unfold turn
  split
  · next waits => exact .hear ready waits x.validators
  · exact diligent.step ready now

private theorem turn_distance (now : Timestamp) {x : Assignment} (a : Archive)
    (goes : x.run.result? = none) : (x.turn now a).1.run.distance < x.run.distance := by
  unfold turn
  split
  · next feed waits => simp [Run.hear, waits, Run.goTo, Run.distance, Run.stagesLeft]
  · next waits => exact Run.step_distance _ now a waits goes

end Assignment

structure RunsOfFeed where
  archive : Archive
  assignments : List Assignment

namespace RunsOfFeed

def start (a : Archive) (feedId : Int) (deliveries : List (FeedDocument × Validators)) :
    RunsOfFeed where
  archive := a
  assignments := deliveries.map fun delivery => ⟨.start feedId, delivery.1, delivery.2⟩

inductive Step : RunsOfFeed → RunsOfFeed → Prop where
  | turn {a : Archive} {earlier later : List Assignment} {x : Assignment} {now : Timestamp} :
      Step ⟨a, earlier ++ x :: later⟩ ⟨(x.turn now a).2, earlier ++ (x.turn now a).1 :: later⟩

abbrev Course : RunsOfFeed → RunsOfFeed → Prop := Relation.ReflTransGen Step

def results (p : RunsOfFeed) : List (Option (Except Fault (List Article))) :=
  p.assignments.map (·.run.result?)

def IsOver (p : RunsOfFeed) : Prop := ∀ result ∈ p.results, result.isSome

instance (p : RunsOfFeed) : Decidable p.IsOver := inferInstanceAs (Decidable (∀ _ ∈ _, _))

def created (p : RunsOfFeed) : List Article := p.assignments.flatMap (·.run.created)

/-- Whatever turns were taken, there are turns after which all runs have returned. -/
theorem exists_over (p : RunsOfFeed) : ∃ q, Course p q ∧ q.IsOver := by
  -- The runs come nearer to their ends with every turn of one that has not returned.
  generalize left : (p.assignments.map (·.run.distance)).sum = distance
  induction distance using Nat.strongRecOn generalizing p with
  | ind distance ih =>
    by_cases ended : p.IsOver
    · exact ⟨p, .refl, ended⟩
    · obtain ⟨a, assignments⟩ := p
      simp only [IsOver, results, List.mem_map, not_forall] at ended
      obtain ⟨_, ⟨x, member, rfl⟩, goes⟩ := ended
      obtain ⟨earlier, later, rfl⟩ := List.append_of_mem member
      have goes : x.run.result? = none := by simpa using goes
      have nearer := x.turn_distance .epoch a goes
      have less : ((earlier ++ (x.turn .epoch a).1 :: later).map (·.run.distance)).sum <
          distance := by
        simp only [List.map_append, List.map_cons, List.sum_append, List.sum_cons] at left ⊢
        omega
      obtain ⟨q, course, ended⟩ := ih _ less ⟨(x.turn .epoch a).2, _⟩ rfl
      exact ⟨q, .head .turn course, ended⟩

/-- The articles of the feed are those that it had and those that the runs have created. -/
structure Sound (a : Archive) (feedId : Int) (documents : List FeedDocument) (p : RunsOfFeed) :
    Prop where
  ready : Ready feedId p.archive
  delivered : p.assignments.map (·.document) = documents
  ofFeed : ∀ x ∈ p.assignments, x.run.feedId = feedId
  diligent : ∀ x ∈ p.assignments, x.run.stage.Diligent p.archive.store feedId x.document
  drafted : ∀ article ∈ p.created,
    ∃ document ∈ documents, article.key ∈ articleKeys feedId document
  articles : (a.store.articlesOf feedId ++ p.created).Perm (p.archive.store.articlesOf feedId)

section Sound

variable {a : Archive} {feedId : Int} {documents : List FeedDocument} {p next : RunsOfFeed}

private theorem start_sound (ready : Ready feedId a)
    (deliveries : List (FeedDocument × Validators)) :
    Sound a feedId (deliveries.map (·.1)) (start a feedId deliveries) where
  ready := ready
  delivered := by simp [start]
  ofFeed x member := by
    obtain ⟨delivery, _, rfl⟩ := List.mem_map.mp member
    rfl
  diligent x member := by
    obtain ⟨delivery, _, rfl⟩ := List.mem_map.mp member
    trivial
  drafted article member := by
    obtain ⟨x, among, inside⟩ := List.mem_flatMap.mp member
    obtain ⟨delivery, _, rfl⟩ := List.mem_map.mp among
    cases inside
  articles := by
    have none : (start a feedId deliveries).created = [] := by
      simp [created, start, List.flatMap_map, Run.start, Run.created]
    rw [none, List.append_nil]
    exact .refl _

theorem Sound.step (sound : p.Sound a feedId documents) (step : Step p next) :
    next.Sound a feedId documents := by
  cases step with
  | @turn archive earlier later x now =>
    have among : x ∈ earlier ++ x :: later := by simp
    obtain rfl := sound.ofFeed x among
    obtain ⟨ready, feedId, ⟨new, created, appended, own⟩, diligent⟩ :=
      x.turn_works sound.ready (sound.diligent x among) now
    rcases moved : x.turn now archive with ⟨y, after⟩
    have document := x.turn_document now archive
    simp only [moved] at ready feedId created appended diligent document
    have grows : ∀ key ∈ archive.store.keys, key ∈ after.store.keys := by
      intro key known
      obtain ⟨article, member, same⟩ := sound.ready.indexed.mem_keys.mp known
      exact ready.indexed.mem_keys.mpr
        ⟨article, appended ▸ List.mem_append_left _ member, same⟩
    have allOfFeed : new.filter (·.feedId == x.run.feedId) = new := by
      apply List.filter_eq_self.mpr
      intro article member
      obtain ⟨link, _, same⟩ := List.mem_map.mp (own article member)
      have here : x.run.feedId = article.feedId := congrArg ArticleKey.feedId same
      simp [here]
    refine ⟨ready, ?_, ?_, ?_, ?_, ?_⟩
    · rw [← sound.delivered]
      simp [document]
    · intro other member
      rcases List.mem_append.mp member with first | rest
      · exact sound.ofFeed other (List.mem_append_left _ first)
      · rcases List.mem_cons.mp rest with rfl | last
        · exact feedId
        · exact sound.ofFeed other (by simp [last])
    · intro other member
      rcases List.mem_append.mp member with first | rest
      · exact (sound.diligent other (List.mem_append_left _ first)).grows grows
      · rcases List.mem_cons.mp rest with rfl | last
        · exact document ▸ diligent
        · exact (sound.diligent other (by simp [last])).grows grows
    · intro article member
      have old := sound.drafted article
      simp only [RunsOfFeed.created, List.flatMap_append, List.flatMap_cons, created,
        List.mem_append] at member old
      rcases member with first | (same | fresh) | last
      · exact old (.inl first)
      · exact old (.inr (.inl same))
      · exact ⟨x.document, sound.delivered ▸ List.mem_map_of_mem among, own article fresh⟩
      · exact old (.inr (.inr last))
    · have before := sound.articles
      simp only [Store.articlesOf, appended, List.filter_append, allOfFeed, RunsOfFeed.created,
        List.flatMap_append, List.flatMap_cons, created] at before ⊢
      simp only [List.perm_iff_count, List.count_append] at before ⊢
      intro article
      have := before article
      omega

private theorem Sound.course (sound : p.Sound a feedId documents) (course : Course p next) :
    next.Sound a feedId documents := by
  induction course with
  | refl => exact sound
  | tail _ last ih => exact ih.step last

private theorem result?_eq_created {x : Assignment} {s : Store}
    (diligent : x.run.stage.Diligent s feedId x.document) (ended : x.run.result?.isSome) :
    x.run.result? = some (.ok x.run.created) ∧ ∀ key ∈ articleKeys feedId x.document, key ∈ s.keys := by
  obtain ⟨⟨_, stage⟩, document, validators⟩ := x
  cases stage with
  | finished result =>
    cases result with
    | ok created => exact ⟨rfl, diligent⟩
    | error fault => exact absurd diligent id
  | _ => cases ended

end Sound

/-- However the runs for a feed come in between each other, they can all return; and when they have,
each has returned the articles that it created. The feed then has the links that it had and those of
all documents, each on one article, and each of the new links is on one article of one run. -/
theorem created_partition {a : Archive} (inMemory : a.InMemory) {feedId : Int} {feed : Feed}
    (found : a.store.feed feedId = .ok feed) {deliveries : List (FeedDocument × Validators)}
    {p : RunsOfFeed} (course : Course (start a feedId deliveries) p) :
    (∃ q, Course p q ∧ q.IsOver) ∧
    (p.IsOver → ∃ returned : List (List Article),
      p.results = returned.map (fun created => some (.ok created)) ∧
      (p.archive.store.articlesOf feedId).Perm (a.store.articlesOf feedId ++ returned.flatten) ∧
      (p.archive.store.articleUrls feedId).Nodup ∧
      (∀ url, url ∈ p.archive.store.articleUrls feedId ↔
        url ∈ a.store.articleUrls feedId ∨ ∃ delivery ∈ deliveries, url ∈ links delivery.1) ∧
      (returned.flatten.map (·.url)).Nodup ∧
      ∀ url, url ∈ returned.flatten.map (·.url) ↔
        url ∈ p.archive.store.articleUrls feedId ∧ url ∉ a.store.articleUrls feedId) := by
  have ready : Ready feedId a := by
    refine ⟨inMemory.directory, inMemory.indexed, feed, ?_⟩
    unfold Store.feed at found
    split at found
    · next stands =>
      cases found
      exact stands
    · cases found
  have sound := (start_sound ready deliveries).course course
  refine ⟨p.exists_over, fun ended => ?_⟩
  have returns : ∀ x ∈ p.assignments, x.run.result? = some (.ok x.run.created) ∧
      ∀ key ∈ articleKeys feedId x.document, key ∈ p.archive.store.keys :=
    fun x member => result?_eq_created (sound.diligent x member) (ended _ (List.mem_map_of_mem member))
  have urls : (p.archive.store.articleUrls feedId).Perm
      (a.store.articleUrls feedId ++ p.created.map (·.url)) := by
    have := sound.articles.symm.map (·.url)
    rwa [List.map_append] at this
  have nodup := sound.ready.indexed.articleUrls_nodup feedId
  obtain ⟨_, nodupCreated, apart⟩ := List.nodup_append.mp (urls.nodup_iff.mp nodup)
  have all : (p.assignments.map (·.run.created)).flatten = p.created := List.flatMap_def.symm
  refine ⟨p.assignments.map (·.run.created), ?_, ?_, nodup, ?_, ?_, ?_⟩
  · rw [results, List.map_map]
    exact List.map_congr_left fun x member => (returns x member).1
  · rw [all]
    exact sound.articles.symm
  · intro url
    constructor
    · intro stored
      rcases List.mem_append.mp (urls.mem_iff.mp stored) with old | new
      · exact .inl old
      · obtain ⟨article, member, rfl⟩ := List.mem_map.mp new
        obtain ⟨document, given, among⟩ := sound.drafted article member
        obtain ⟨delivery, delivered, rfl⟩ := List.mem_map.mp given
        obtain ⟨link, linked, same⟩ := List.mem_map.mp among
        cases congrArg ArticleKey.url same
        exact .inr ⟨delivery, delivered, linked⟩
    · rintro (old | ⟨delivery, delivered, linked⟩)
      · exact urls.mem_iff.mpr (List.mem_append_left _ old)
      · obtain ⟨x, member, same⟩ :=
          List.mem_map.mp (sound.delivered ▸ List.mem_map_of_mem delivered)
        have known := (returns x member).2 ⟨feedId, url⟩ (List.mem_map_of_mem (same ▸ linked))
        exact Store.mem_articleUrls.mpr (sound.ready.indexed.keys.mp known)
  · rw [all]
    exact nodupCreated
  · intro url
    rw [all, urls.mem_iff, List.mem_append]
    constructor
    · intro new
      exact ⟨.inr new, fun old => apart url old url new rfl⟩
    · rintro ⟨old | new, unknown⟩
      · exact absurd old unknown
      · exact new

/-! ## Two runs with a common link -/

def turnAt (p : RunsOfFeed) (place : Nat) : RunsOfFeed :=
  match p.assignments.splitAt place with
  | (earlier, x :: later) =>
    ⟨(x.turn .epoch p.archive).2, earlier ++ (x.turn .epoch p.archive).1 :: later⟩
  | _ => p

private theorem course_turns (p : RunsOfFeed) (places : List Nat) :
    Course p (places.foldl turnAt p) := by
  induction places generalizing p with
  | nil => exact .refl
  | cons place places ih =>
    refine .trans ?_ (ih (p.turnAt place))
    obtain ⟨a, assignments⟩ := p
    unfold turnAt
    split
    · next earlier x later split =>
      have whole : assignments = earlier ++ x :: later := by
        have taken := congrArg Prod.fst split
        have dropped := congrArg Prod.snd split
        simp only [List.splitAt_eq] at taken dropped
        rw [← taken, ← dropped, List.take_append_drop]
      subst whole
      exact .single .turn
    · exact .refl

def circulated : Archive :=
  (ArchiveRuns.stocked.createArticles .epoch [Catalog.Traffic.sketch "a"]).2

theorem stocked_inMemory : ArchiveRuns.stocked.InMemory :=
  @Archive.InMemory.begin .inMemory .epoch (.insertFeed ⟨"u", "T", none⟩) .empty

theorem circulated_inMemory : circulated.InMemory :=
  @Archive.InMemory.begin ArchiveRuns.stocked .epoch (.createArticles [Catalog.Traffic.sketch "a"])
    stocked_inMemory

def bulletinOf (urls : List String) : FeedDocument :=
  ⟨"", none, urls.map fun url => ⟨"A", some url, none, none, none⟩⟩

def simultaneous : RunsOfFeed :=
  [0, 0, 0, 0, 1, 1, 1, 1, 0, 0, 0, 0, 1, 1, 1, 1].foldl turnAt
    (start circulated 1
      [(bulletinOf [" a ", "b", " "], ArchiveRuns.version "x"),
        (bulletinOf ["c", "b", "c"], ArchiveRuns.version "y")])

def urlsOf : Option (Except Fault (List Article)) → List String
  | some (.ok created) => created.map (·.url)
  | _ => []

/-- The link that both documents have is on an article of the first run alone. -/
theorem simultaneous_partition :
    ∃ returned : List (List Article),
      simultaneous.results = returned.map (fun created => some (.ok created)) ∧
      returned.map (·.map (·.url)) = [["b"], ["c"]] ∧
      simultaneous.archive.store.articleUrls 1 = ["a", "b", "c"] ∧
      (simultaneous.archive.store.articlesOf 1).Perm
        (circulated.store.articlesOf 1 ++ returned.flatten) := by
  have found : circulated.store.feed 1 = .ok ArchiveRuns.bareFeed := rfl
  have course := course_turns (start circulated 1
    [(bulletinOf [" a ", "b", " "], ArchiveRuns.version "x"),
      (bulletinOf ["c", "b", "c"], ArchiveRuns.version "y")])
    [0, 0, 0, 0, 1, 1, 1, 1, 0, 0, 0, 0, 1, 1, 1, 1]
  obtain ⟨_, partition⟩ := created_partition circulated_inMemory found course
  obtain ⟨returned, results, articles, _⟩ := partition (by decide)
  have urls : simultaneous.results.map urlsOf = returned.map (·.map (·.url)) := by
    rw [simultaneous, results, List.map_map]
    rfl
  exact ⟨returned, results, urls.symm.trans (by decide), by decide, articles⟩

end RunsOfFeed

end FeedIngest.Ingest
