import FeedIngest.Proofs.Ingest.Account

/-!
# The same document again

A run whose writes succeed leaves its feed just as the document describes it, with the validators of
the document, and the articles of all links stored or refused. A later run that gets the same
document, or hears that it has not changed, finds nothing to write at any of its stages, and so it
leaves the archive exactly as it was.
-/

set_option autoImplicit false

namespace FeedIngest.Ingest

open Catalog (Archive Article Draft Feed Store Validators newKeys)
open Syndication (FeedDocument)
open Time (Timestamp)

structure UpToDate (s : Store) (feedId : Int) (document : FeedDocument) (v : Validators) :
    Prop where
  feed : ∃ feed, s.feeds.get? feedId = some feed ∧ describe feed document = feed ∧
    feed.validators = v
  articles : ∀ key ∈ articleKeys feedId document, s.Has (.article key) ∨ key ∈ s.keys

/-- There is nothing new in what a run gets for its document. -/
def NothingNew (s : Store) (feedId : Int) : Except Fault FeedFetch → Prop
  | .ok (.fetched document v) => UpToDate s feedId document v
  | .ok .notModified => ∃ feed, s.feeds.get? feedId = some feed
  | .error _ => False

section UpToDate

variable {dates : Timestamp → Prop} {sure : Prop} {a b : Archive} {feedId : Int}
  {document : FeedDocument} {v : Validators} {fetch : Except Fault FeedFetch} {stage : Stage}

private theorem Brought.articles {s next : Store} {feed : Feed} {created : List Article}
    (brought : Brought dates sure s feedId document feed created next) (numbered : s.Numbered) :
    ∀ key ∈ articleKeys feedId document, next.Has (.article key) ∨ key ∈ next.keys := by
  intro key asked
  obtain ⟨link, member, rfl⟩ := List.mem_map.mp asked
  obtain ⟨item, among, linked⟩ := List.mem_filterMap.mp member
  obtain ⟨drafts, takes, _, date, drafted⟩ := brought.takes
  rcases mem_freshDrafts date among linked with ⟨id, article, found, same⟩ | ⟨draft, fresh, same⟩
  · have stays := takes.get?_of_get? (numbered.withFeed feed) found
    exact .inl ⟨id, article, stays, same⟩
  · exact .inr (takes.mem_keys.mpr (.inr ⟨draft, drafted ▸ fresh, same⟩))

/-- A run whose writes succeed leaves nothing of its document to be done. -/
theorem Follows.upToDate {created : List Article} (certain : sure) (numbered : a.store.Numbered)
    (follows : Follows dates sure a feedId (.ok (.fetched document v)) b
      (.finished (.ok created))) :
    UpToDate b.store feedId document v := by
  cases follows with
  | unmodified _ same => cases same
  | @complete _ feed last _ _ _ s heard brought marked validators stored =>
    cases heard
    have own : last.id = feedId := marked.id.trans (brought.told.id numbered)
    refine ⟨⟨last, ?_, marked.describe (brought.told.described certain), validators certain⟩, ?_⟩
    · rw [stored, ← own]
      exact s.get?_withFeed last
    · rw [stored]
      exact brought.articles numbered

/-! ## Runs that write nothing -/

inductive Idle (s : Store) (feedId : Int) (fetch : Except Fault FeedFetch) : Stage → Prop where
  | loading : Idle s feedId fetch .loading
  | fetching {feed : Feed} : s.feeds.get? feedId = some feed → Idle s feedId fetch (.fetching feed)
  | describing {feed : Feed} {document : FeedDocument} {v : Validators} :
      fetch = .ok (.fetched document v) → s.feeds.get? feedId = some feed →
      Idle s feedId fetch (.describing feed document v)
  | listing {feed : Feed} {document : FeedDocument} {v : Validators} :
      fetch = .ok (.fetched document v) → s.feeds.get? feedId = some feed →
      Idle s feedId fetch (.listing feed document v)
  | creating {feed : Feed} {fresh : List Draft} {document : FeedDocument} {v : Validators} :
      fetch = .ok (.fetched document v) → s.feeds.get? feedId = some feed →
      (∀ draft ∈ fresh, draft.key ∈ s.keys) → Idle s feedId fetch (.creating feed fresh v)
  | remembering {feed : Feed} {document : FeedDocument} {v : Validators} :
      fetch = .ok (.fetched document v) → s.feeds.get? feedId = some feed →
      Idle s feedId fetch (.remembering feed [] v)
  | finished : Idle s feedId fetch (.finished (.ok []))

private theorem addArticles_known (now : Timestamp) {drafts : List Draft} {s : Store}
    (known : ∀ draft ∈ drafts, draft.key ∈ s.keys) : Store.addArticles now drafts s = ([], s) := by
  induction drafts with
  | nil => rfl
  | cons draft drafts ih =>
    obtain ⟨here, others⟩ := List.forall_mem_cons.mp known
    rw [Store.addArticles, if_pos (List.contains_iff_mem.mpr here), ih others]

/-- An up-to-date store refuses whatever is still drafted. -/
theorem UpToDate.fresh_known {s : Store} (upToDate : UpToDate s feedId document v)
    (now : Timestamp) :
    ∀ draft ∈ freshDrafts feedId now (s.articleUrls feedId) document.items, draft.key ∈ s.keys := by
  intro draft fresh
  have among : draft.key ∈ newKeys (storedKeys s feedId) (articleKeys feedId document) := by
    rw [storedKeys, ← freshDrafts_keys now]
    exact List.mem_map_of_mem fresh
  obtain ⟨asked, notStored⟩ := Catalog.mem_newKeys.mp among
  rcases upToDate.articles draft.key asked with stored | known
  · obtain ⟨link, _, key⟩ := List.mem_map.mp asked
    rw [← key] at stored notStored
    exact absurd (mem_storedKeys.mpr stored) notStored
  · exact known

/-- A stage of a run that finds nothing new leaves the archive as it is. -/
theorem Idle.step (idle : Idle a.store feedId fetch stage)
    (nothing : NothingNew a.store feedId fetch) (now : Timestamp) :
    ∃ next, Run.step Archive.access now ⟨feedId, stage⟩ a = (⟨feedId, next⟩, a) ∧
      Idle a.store feedId fetch next := by
  cases idle with
  | loading =>
    have known : ∃ feed, a.store.feeds.get? feedId = some feed := by
      cases fetch with
      | error fault => cases nothing
      | ok fetch =>
        cases fetch with
        | notModified => exact nothing
        | fetched document v =>
          obtain ⟨feed, found, _⟩ := nothing.feed
          exact ⟨feed, found⟩
    obtain ⟨feed, found⟩ := known
    have told : Archive.access.feed feedId a = (.ok feed, a) := by
      simp only [Archive.access, Store.feed, found]
    simp only [Run.step, told]
    exact ⟨_, rfl, .fetching found⟩
  | fetching found => exact ⟨_, rfl, .fetching found⟩
  | describing heard found =>
    cases heard
    obtain ⟨_, foundToo, described, _⟩ := nothing.feed
    cases found.symm.trans foundToo
    simp only [Run.step, described, if_true]
    exact ⟨_, rfl, .listing rfl found⟩
  | listing heard found =>
    cases heard
    exact ⟨_, rfl, .creating rfl found (nothing.fresh_known now)⟩
  | @creating feed fresh document v heard found known =>
    cases fresh with
    | nil => exact ⟨_, rfl, .remembering heard found⟩
    | cons draft drafts =>
      have call : Archive.access.createArticles now (draft :: drafts) a =
          (.answered (.ok []), a) := by
        show a.begin (Store.createArticles now (draft :: drafts)) = _
        simp only [Archive.begin, Store.createArticles, addArticles_known now known]
      simp only [Run.step, call]
      exact ⟨_, rfl, .remembering heard found⟩
  | remembering heard found =>
    cases heard
    obtain ⟨_, foundToo, _, validators⟩ := nothing.feed
    cases found.symm.trans foundToo
    simp only [Run.step, validators, if_true]
    exact ⟨_, rfl, .finished⟩
  | finished => exact ⟨_, rfl, .finished⟩

private theorem Idle.hear (idle : Idle a.store feedId fetch stage)
    (nothing : NothingNew a.store feedId fetch) :
    ∃ next, Run.hear fetch ⟨feedId, stage⟩ = ⟨feedId, next⟩ ∧ Idle a.store feedId fetch next := by
  cases stage with
  | fetching feed =>
    cases idle with
    | fetching found =>
      cases fetch with
      | error fault => cases nothing
      | ok fetch =>
        cases fetch with
        | notModified => exact ⟨_, rfl, .finished⟩
        | fetched document v => exact ⟨_, rfl, .describing rfl found⟩
  | _ => exact ⟨_, rfl, idle⟩

private theorem idle_of_turns {after : Run × Archive}
    (turns : Run.Turns Archive.access fetch dates (.start feedId, a) after)
    (nothing : NothingNew a.store feedId fetch) :
    ∃ stage, after = (⟨feedId, stage⟩, a) ∧ Idle a.store feedId fetch stage := by
  induction turns with
  | refl => exact ⟨.loading, rfl, .loading⟩
  | tail _ last ih =>
    obtain ⟨stage, rfl, idle⟩ := ih
    cases last with
    | hear =>
      obtain ⟨next, heard, idleNext⟩ := idle.hear nothing
      exact ⟨next, by rw [heard], idleNext⟩
    | step =>
      obtain ⟨next, stepped, idleNext⟩ := idle.step nothing _
      exact ⟨next, stepped, idleNext⟩

end UpToDate

/-! ## Two runs -/

section Service

variable {a b : Archive} {feedId : Int} {document : FeedDocument} {validators : Validators}

/-- A run that finds nothing new returns no articles and leaves the archive as it is, whatever
becomes of writes. -/
theorem ingest_idle {v : Service Archive} {fetch : Except Fault FeedFetch} {now : Nat}
    {moments : List Nat} (delivers : v.Delivers feedId a fetch)
    (nothing : NothingNew a.store feedId fetch) (enough : 4 ≤ moments.length) :
    v.ingest now moments feedId a = (some (.ok []), a) := by
  obtain ⟨⟨r, turns, ended⟩, returns⟩ := delivers.turns now moments
  obtain ⟨stage, same, idle⟩ := idle_of_turns turns nothing
  have returned := returns enough
  obtain ⟨rfl, stays⟩ := Prod.mk.inj same
  rw [← ended] at returned
  cases idle with
  | finished => exact Prod.ext ended.symm stays
  | _ => cases returned

/-- A run with a document, all of whose writes succeed, returns what it created. Whatever run comes
after it with the same document, or hears that it has not changed, returns no articles and leaves
the archive exactly as it is. -/
theorem ingest_again {v : Service Archive} (now : Nat) {moments : List Nat} {feed : Feed}
    (numbered : a.store.Numbered) (reliable : a.Reliable) (found : a.store.feed feedId = .ok feed)
    (delivers : v.Delivers feedId a (.ok (.fetched document validators)))
    (enough : 4 ≤ moments.length) :
    ∃ created b, v.ingest now moments feedId a = (some (.ok created), b) ∧
      ∀ (w : Service Archive) (fetch : FeedFetch),
        fetch = .fetched document validators ∨ fetch = .notModified →
        w.Delivers feedId b (.ok fetch) → ∀ (later : Nat) (momentsToo : List Nat),
          4 ≤ momentsToo.length → w.ingest later momentsToo feedId b = (some (.ok []), b) := by
  obtain ⟨result, b, returned⟩ := delivers.exists_result now enough
  have follows :
      Follows _ True a feedId (.ok (.fetched document validators)) b (.finished result) :=
    delivers.follows numbered (fun _ => reliable) returned
  have outcome := follows.outcome trivial
  simp only [expected, found] at outcome
  cases result with
  | error fault => cases outcome
  | ok created =>
    have upToDate := follows.upToDate trivial numbered
    refine ⟨created, b, returned, ?_⟩
    intro w fetch same deliversToo later momentsToo enoughToo
    apply ingest_idle deliversToo _ enoughToo
    rcases same with rfl | rfl
    · exact upToDate
    · obtain ⟨last, stands, _⟩ := upToDate.feed
      exact ⟨last, stands⟩

end Service

/-! ## A document with an old link, a new one twice, and a blank one -/

def press (fetch : Except Fault FeedFetch) : Service Archive where
  access := Archive.access
  source _ _ _ a := ((some 5, fetch), a)
  checker := none
  date _ := .epoch

theorem press_delivers (feedId : Int) (a : Archive) (fetch : Except Fault FeedFetch) :
    (press fetch).Delivers feedId a fetch :=
  ⟨rfl, fun _ _ _ => ⟨5, rfl⟩⟩

/-- An archive with a feed and an article in a directory of its own. -/
def housed (d : Catalog.Directory) : Archive := { RunsOfFeed.circulated with directory := some d }

theorem housed_numbered (d : Catalog.Directory) : (housed d).store.Numbered :=
  RunsOfFeed.circulated_inMemory.indexed.numbered

private theorem ofEntries_nil_intact : (Catalog.Directory.ofEntries []).Intact where
  present := rfl
  quiet _ planned := by cases planned
  files _ := nofun
  draftFiles _ := nofun

theorem reliable_of_empty {a : Archive} (empty : a.directory = some (.ofEntries [])) :
    a.Reliable := by
  intro d kept
  cases empty.symm.trans kept
  exact ofEntries_nil_intact.reliable

def issue : FeedFetch :=
  .fetched { RunsOfFeed.bulletinOf [" a ", "b", " ", "c", "b"] with title := "N" }
    (ArchiveRuns.version "x")

/-- The first run brings two articles; the runs after it bring nothing. -/
theorem issue_again :
    ∃ created b,
      (press (.ok issue)).ingest 0 [5, 6, 7, 8] 1 (housed (.ofEntries [])) =
        (some (.ok created), b) ∧
      created.map (·.url) = ["b", "c"] ∧
      (press (.ok issue)).ingest 9 [14, 15, 16, 17] 1 b = (some (.ok []), b) ∧
      (press (.ok .notModified)).ingest 9 [14, 15, 16, 17] 1 b = (some (.ok []), b) := by
  have enough : 4 ≤ [5, 6, 7, 8].length := Nat.le_refl 4
  obtain ⟨created, b, returned, again⟩ := ingest_again 0 (housed_numbered _)
    (reliable_of_empty rfl) rfl (press_delivers 1 _ (.ok issue)) enough
  have urls : RunsOfFeed.urlsOf
      ((press (.ok issue)).ingest 0 [5, 6, 7, 8] 1 (housed (.ofEntries []))).1 =
      ["b", "c"] := by rfl
  rw [returned] at urls
  refine ⟨created, b, returned, urls, ?_, ?_⟩
  · exact again _ _ (.inl rfl) (press_delivers 1 b _) 9 _ (by decide)
  · exact again _ _ (.inr rfl) (press_delivers 1 b _) 9 _ (by decide)

end FeedIngest.Ingest
