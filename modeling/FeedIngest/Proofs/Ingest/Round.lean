import Mathlib.Algebra.GroupWithZero.Nat
import Mathlib.Data.List.Forall2
import Mathlib.Logic.Relation
import FeedIngest.Proofs.Ingest.Mark

/-!
# Rounds

A round is a refresh that has the catalog for itself. It lists the articles of a feed and checks a
few of them at once. What a check has found is put into the row, and the row is written, or taken
back because it could not be written, while other articles are at other points of the same way.
Whichever of them is faster, a round comes to an end and reports, and each article of the feed is
left as its own check and its own write say; all else is left as it was.
-/

set_option autoImplicit false

namespace FeedIngest.Catalog.Store

/-- Articles of one feed may have changed, each under its id, and nothing else. -/
structure Frame (feedId : Int) (s next : Store) : Prop where
  feeds : next.feeds = s.feeds
  lastFeedId : next.lastFeedId = s.lastFeedId
  lastArticleId : next.lastArticleId = s.lastArticleId
  keys : next.keys = s.keys
  ids : next.articles.ids = s.articles.ids
  others : ∀ other, other ≠ feedId → next.articlesOf other = s.articlesOf other

theorem Frame.refl (feedId : Int) (s : Store) : s.Frame feedId s where
  feeds := rfl
  lastFeedId := rfl
  lastArticleId := rfl
  keys := rfl
  ids := rfl
  others _ _ := rfl

private theorem Frame.withArticle {s next : Store} {feedId : Int} {article before : Article}
    (frame : s.Frame feedId next) (numbered : next.Numbered)
    (found : next.articles.get? article.id = some before) (own : before.feedId = feedId)
    (same : article.feedId = before.feedId) : s.Frame feedId (next.withArticle article) where
  feeds := frame.feeds
  lastFeedId := frame.lastFeedId
  lastArticleId := frame.lastArticleId
  keys := frame.keys
  ids := (Shelf.ids_put_of_get? found article).trans frame.ids
  others other differs := by
    rw [numbered.articlesOf_withArticle_of_ne found same (own ▸ differs.symm)]
    exact frame.others other differs

end FeedIngest.Catalog.Store

namespace FeedIngest.Ingest

open Catalog (Access Archive Article Call Change Phase Store)
open Crawl (Staleness)
open Time (Timestamp)

/-! ## Reports -/

namespace RefreshReport

private theorem foldl_count (outcomes : List RefreshOutcome) (r : RefreshReport) :
    outcomes.foldl count r =
      ⟨r.checked + outcomes.length, r.changed + outcomes.count .changed,
        r.unchanged + outcomes.count .unchanged, r.denied + outcomes.count .denied,
        r.failed + outcomes.count .failed⟩ := by
  induction outcomes generalizing r with
  | nil => rfl
  | cons outcome rest ih =>
    rw [List.foldl_cons, ih]
    cases outcome <;> simp [count] <;> omega

theorem ofOutcomes_eq (outcomes : List RefreshOutcome) :
    ofOutcomes outcomes =
      ⟨outcomes.length, outcomes.count .changed, outcomes.count .unchanged,
        outcomes.count .denied, outcomes.count .failed⟩ := by
  rw [ofOutcomes, foldl_count]
  simp [empty]

/-- Each article is counted once. -/
theorem ofOutcomes_checked (outcomes : List RefreshOutcome) :
    (ofOutcomes outcomes).checked = (ofOutcomes outcomes).changed +
      (ofOutcomes outcomes).unchanged + (ofOutcomes outcomes).denied +
      (ofOutcomes outcomes).failed := by
  rw [ofOutcomes_eq]
  show outcomes.length = outcomes.count .changed + outcomes.count .unchanged +
    outcomes.count .denied + outcomes.count .failed
  induction outcomes with
  | nil => rfl
  | cons outcome rest ih => cases outcome <;> simp [ih] <;> omega

end RefreshReport

/-! ## The steps of a round -/

/-- What the checks of the articles come to, and which rows can be written. -/
structure Conditions where
  answer : Article → Except Fault Staleness
  isWritten : Article → Bool

inductive Revisit where
  | waiting
  | checking
  | found (finding : Staleness) (refreshed : Article)
  | storing (finding : Staleness) (phase : Phase)
  | refused (fault : Fault)

namespace Revisit

def heard (date : Timestamp) (copy : Article) : Except Fault Staleness → Revisit
  | .ok finding => .found finding (finding.applyTo date copy)
  | .error fault => .refused fault

def outcome? : Revisit → Option RefreshOutcome
  | .storing finding (.written _ _) | .storing finding (.answered (.ok _)) =>
    some (.ofFinding finding)
  | .storing _ (.undone _ _) | .storing _ (.answered (.error _)) => some .failed
  | .refused (.robotsDenied _) => some .denied
  | .refused _ => some .failed
  | _ => none

def left : Revisit → Nat
  | .waiting => 5
  | .checking => 4
  | .found _ _ => 3
  | .storing _ (.writing _ _) => 2
  | .storing _ (.failing _ _) => 1
  | _ => 0

end Revisit

structure Station where
  copy : Article
  revisit : Revisit

structure Round where
  store : Store
  stations : Option (List Station)

namespace Round

def start (s : Store) : Round := ⟨s, none⟩

/-- All articles are through that are not checked together with the next one. -/
def MayCheck (earlier : List Station) : Prop :=
  ∀ station ∈ earlier.take (earlier.length / Overlap.checksAtOnce * Overlap.checksAtOnce),
    station.revisit.outcome?.isSome

inductive Step (c : Conditions) (feedId : Int) : Round → Round → Prop where
  | list {s : Store} :
      Step c feedId ⟨s, none⟩ ⟨s, some ((s.articlesOf feedId).map (⟨·, .waiting⟩))⟩
  | check {s : Store} {earlier later : List Station} {copy : Article} : MayCheck earlier →
      Step c feedId ⟨s, some (earlier ++ ⟨copy, .waiting⟩ :: later)⟩
        ⟨s, some (earlier ++ ⟨copy, .checking⟩ :: later)⟩
  | hear {s : Store} {earlier later : List Station} {copy : Article} {date : Timestamp} :
      Step c feedId ⟨s, some (earlier ++ ⟨copy, .checking⟩ :: later)⟩
        ⟨s, some (earlier ++ ⟨copy, .heard date copy (c.answer copy)⟩ :: later)⟩
  | begin {s : Store} {earlier later : List Station} {copy refreshed : Article}
      {finding : Staleness} {now : Timestamp} :
      Step c feedId ⟨s, some (earlier ++ ⟨copy, .found finding refreshed⟩ :: later)⟩
        ⟨(s.updateArticle now refreshed).2, some (earlier ++
          ⟨copy, .storing finding (.ofCall ((s.updateArticle now refreshed).1.map .article))⟩ ::
            later)⟩
  | write {s : Store} {earlier later : List Station} {copy : Article} {finding : Staleness}
      {change : Change} {reply : Catalog.Reply} : c.isWritten copy = true →
      Step c feedId ⟨s, some (earlier ++ ⟨copy, .storing finding (.writing change reply)⟩ :: later)⟩
        ⟨s, some (earlier ++ ⟨copy, .storing finding (.written change reply)⟩ :: later)⟩
  | fail {s : Store} {earlier later : List Station} {copy : Article} {finding : Staleness}
      {change : Change} {reply : Catalog.Reply} {reason : String} : c.isWritten copy = false →
      Step c feedId ⟨s, some (earlier ++ ⟨copy, .storing finding (.writing change reply)⟩ :: later)⟩
        ⟨s, some (earlier ++ ⟨copy, .storing finding (.failing change reason)⟩ :: later)⟩
  | undo {s : Store} {earlier later : List Station} {copy : Article} {finding : Staleness}
      {change : Change} {reason : String} :
      Step c feedId
        ⟨s, some (earlier ++ ⟨copy, .storing finding (.failing change reason)⟩ :: later)⟩
        ⟨s.undo change, some (earlier ++ ⟨copy, .storing finding (.undone change reason)⟩ :: later)⟩

abbrev Run (c : Conditions) (feedId : Int) : Round → Round → Prop :=
  Relation.ReflTransGen (Step c feedId)

def report? (p : Round) : Option RefreshReport :=
  p.stations.bind fun stations =>
    if stations.all (·.revisit.outcome?.isSome) then
      some (.ofOutcomes (stations.filterMap (·.revisit.outcome?)))
    else none

def outcome? (p : Round) (id : Int) : Option RefreshOutcome :=
  ((p.stations.getD []).find? (·.copy.id == id)).bind (·.revisit.outcome?)

theorem report?_eq_some_iff {store : Store} {stations : List Station} {report : RefreshReport} :
    report? ⟨store, some stations⟩ = some report ↔
      (∀ station ∈ stations, station.revisit.outcome?.isSome) ∧
        .ofOutcomes (stations.filterMap (·.revisit.outcome?)) = report := by
  simp [report?]

/-! ## Rounds end -/

def left (feedId : Int) (p : Round) : Nat :=
  match p.stations with
  | none => 5 * (p.store.articlesOf feedId).length + 1
  | some stations => (stations.map (·.revisit.left)).sum

section Ends

variable {c : Conditions} {feedId : Int} {p next : Round} {s store : Store}
  {earlier later : List Station} {copy : Article} {revisit moved : Revisit}

private theorem left_exchange (less : moved.left < revisit.left) :
    left feedId ⟨store, some (earlier ++ ⟨copy, moved⟩ :: later)⟩ <
      left feedId ⟨s, some (earlier ++ ⟨copy, revisit⟩ :: later)⟩ := by
  simp only [left, List.map_append, List.map_cons, List.sum_append, List.sum_cons]
  omega

theorem Step.left_lt (step : Step c feedId p next) : next.left feedId < p.left feedId := by
  cases step with
  | list => simp [left, Function.comp_def, Revisit.left, Nat.mul_comm]
  | check => exact left_exchange (by decide)
  | @hear _ _ _ copy =>
    refine left_exchange ?_
    cases c.answer copy <;> simp [Revisit.heard, Revisit.left]
  | @begin s _ _ _ refreshed _ now =>
    refine left_exchange ?_
    cases (s.updateArticle now refreshed).1 <;>
      simp [Catalog.Call.map, Phase.ofCall, Revisit.left]
  | write | fail | undo => exact left_exchange (by simp [Revisit.left])

/-- No round goes on for ever. -/
theorem wellFounded_step (c : Conditions) (feedId : Int) :
    WellFounded fun next p => Step c feedId p next :=
  Subrelation.wf (fun step => step.left_lt) (measure (left feedId)).wf

theorem exists_step_of_undecided (ready : MayCheck earlier) (undecided : revisit.outcome? = none) :
    ∃ next, Step c feedId ⟨s, some (earlier ++ ⟨copy, revisit⟩ :: later)⟩ next := by
  cases revisit with
  | waiting => exact ⟨_, .check ready⟩
  | checking => exact ⟨_, @Step.hear _ _ _ _ _ _ .epoch⟩
  | found finding refreshed => exact ⟨_, @Step.begin _ _ _ _ _ _ _ _ .epoch⟩
  | storing finding phase =>
    cases phase with
    | writing change reply =>
      cases decided : c.isWritten copy with
      | true => exact ⟨_, .write decided⟩
      | false => exact ⟨_, @Step.fail _ _ _ _ _ _ _ _ _ "" decided⟩
    | failing change reason => exact ⟨_, .undo⟩
    | answered answer => cases answer <;> cases undecided
    | written | undone => cases undecided
  | refused fault => cases fault <;> cases undecided

/-- A round that does not report goes on with the first article that it is not through with. -/
theorem exists_step (c : Conditions) (feedId : Int) (silent : p.report? = none) :
    ∃ next, Step c feedId p next := by
  obtain ⟨s, _ | stations⟩ := p
  · exact ⟨_, .list⟩
  · have undecided : ∃ station ∈ stations, station.revisit.outcome?.isNone = true := by
      simpa [report?] using silent
    obtain ⟨station, first⟩ := Option.isSome_iff_exists.mp (List.find?_isSome.mpr undecided)
    obtain ⟨unheard, earlier, later, rfl, through⟩ := List.find?_eq_some_iff_append.mp first
    -- All articles before the first one are through, so that it may be checked.
    refine exists_step_of_undecided (fun other member => ?_) (Option.isNone_iff_eq_none.mp unheard)
    simpa using through other (List.mem_of_mem_take member)

/-- Every round can be brought to its end. -/
theorem exists_reported (c : Conditions) (feedId : Int) (p : Round) :
    ∃ q, Run c feedId p q ∧ q.report?.isSome := by
  induction p using (wellFounded_step c feedId).induction with
  | _ p ih =>
    cases reported : p.report? with
    | some report => exact ⟨p, .refl, by rw [reported]; rfl⟩
    | none =>
      obtain ⟨next, step⟩ := exists_step c feedId reported
      obtain ⟨q, run, ended⟩ := ih next step
      exact ⟨q, .head step run, ended⟩

end Ends

/-! ## What a round leaves -/

inductive Standing (c : Conditions) (copy : Article) : Revisit → Article → Prop where
  | waiting : Standing c copy .waiting copy
  | checking : Standing c copy .checking copy
  | found {finding : Staleness} {date : Timestamp} : c.answer copy = .ok finding →
      Standing c copy (.found finding (finding.applyTo date copy)) copy
  | writing {finding : Staleness} {date now : Timestamp} {reply : Catalog.Reply} :
      c.answer copy = .ok finding →
      Standing c copy (.storing finding
          (.writing (.articleUpdated copy ((finding.applyTo date copy).stamped now)) reply))
        ((finding.applyTo date copy).stamped now)
  | written {finding : Staleness} {date now : Timestamp} {change : Change}
      {reply : Catalog.Reply} : c.answer copy = .ok finding → c.isWritten copy = true →
      Standing c copy (.storing finding (.written change reply))
        ((finding.applyTo date copy).stamped now)
  | failing {finding : Staleness} {date now : Timestamp} {reason : String} :
      c.answer copy = .ok finding → c.isWritten copy = false →
      Standing c copy (.storing finding
          (.failing (.articleUpdated copy ((finding.applyTo date copy).stamped now)) reason))
        ((finding.applyTo date copy).stamped now)
  | undone {finding : Staleness} {change : Change} {reason : String} :
      c.answer copy = .ok finding → c.isWritten copy = false →
      Standing c copy (.storing finding (.undone change reason)) copy
  | refused {fault : Fault} : c.answer copy = .error fault → Standing c copy (.refused fault) copy

/-- How the round ends for an article: the outcome that is counted, and the row that is left. -/
inductive Ending (c : Conditions) (article : Article) : RefreshOutcome → Article → Prop where
  | changed {validators : Catalog.Validators} {content : Option String}
      {checkedAt updatedAt : Timestamp} :
      c.answer article = .ok (.changed validators content) → c.isWritten article = true →
      Ending c article .changed
        { article with
          etag := validators.etag
          lastModified := validators.lastModified
          content := content <|> article.content
          lastCheckedAt := some checkedAt
          updatedAt }
  | unchanged {checkedAt updatedAt : Timestamp} :
      c.answer article = .ok .unchanged → c.isWritten article = true →
      Ending c article .unchanged { article with lastCheckedAt := some checkedAt, updatedAt }
  | denied {url : String} : c.answer article = .error (.robotsDenied url) →
      Ending c article .denied article
  | failed {fault : Fault} : c.answer article = .error fault → (∀ url, fault ≠ .robotsDenied url) →
      Ending c article .failed article
  | unwritten {finding : Staleness} : c.answer article = .ok finding →
      c.isWritten article = false → Ending c article .failed article

section Standing

variable {c : Conditions} {copy row : Article} {revisit : Revisit}

theorem Standing.own (stands : Standing c copy revisit row) :
    row.id = copy.id ∧ row.feedId = copy.feedId := by
  cases stands with
  | @writing finding | @written finding | @failing finding => cases finding <;> exact ⟨rfl, rfl⟩
  | _ => exact ⟨rfl, rfl⟩

theorem Standing.ending {outcome : RefreshOutcome} (stands : Standing c copy revisit row)
    (arrived : revisit.outcome? = some outcome) : Ending c copy outcome row := by
  cases stands with
  | waiting | checking | found | writing | failing => cases arrived
  | @written finding _ _ _ _ answered isWritten =>
    cases arrived
    cases finding with
    | unchanged => exact .unchanged answered isWritten
    | changed validators content => exact .changed answered isWritten
  | undone answered unwritten =>
    cases arrived
    exact .unwritten answered unwritten
  | @refused fault answered =>
    cases fault with
    | robotsDenied url =>
      cases arrived
      exact .denied answered
    | _ =>
      cases arrived
      exact .failed answered nofun

end Standing

/-- The row of each article is where the round has come with it, and the rest is as it was. -/
structure Underway (c : Conditions) (feedId : Int) (s store : Store) (stations : List Station) :
    Prop where
  numbered : store.Numbered
  frame : s.Frame feedId store
  copies : stations.map (·.copy) = s.articlesOf feedId
  rows : List.Forall₂ (fun station row => Standing c station.copy station.revisit row) stations
    (store.articlesOf feedId)

section Underway

variable {c : Conditions} {feedId : Int} {s store : Store} {stations earlier later : List Station}
  {copy row : Article} {revisit moved : Revisit}

theorem exists_row {R : Station → Article → Prop} {station : Station} {rows : List Article}
    (all : List.Forall₂ R (earlier ++ station :: later) rows) :
    ∃ before row after, rows = before ++ row :: after ∧ R station row ∧ ∀ moved rowToo,
      R moved rowToo → List.Forall₂ R (earlier ++ moved :: later) (before ++ rowToo :: after) := by
  induction earlier generalizing rows with
  | nil =>
    cases all with
    | @cons _ row _ after here rest =>
      exact ⟨[], row, after, rfl, here, fun moved rowToo stands => .cons stands rest⟩
  | cons first earlier ih =>
    cases all with
    | @cons _ firstRow _ rows here rest =>
      obtain ⟨before, row, after, rfl, stands, exchange⟩ := ih rest
      exact ⟨firstRow :: before, row, after, rfl, stands,
        fun moved rowToo stands => .cons here (exchange moved rowToo stands)⟩

namespace Underway

private theorem listed (numbered : s.Numbered) :
    Underway c feedId s s ((s.articlesOf feedId).map (⟨·, .waiting⟩)) where
  numbered := numbered
  frame := .refl feedId s
  copies := by
    rw [List.map_map]
    exact List.map_id _
  rows := by
    rw [List.forall₂_map_left_iff]
    exact List.forall₂_same.mpr fun copy _ => .waiting

/-- The round goes on with an article without touching its row. -/
theorem move (underway : Underway c feedId s store (earlier ++ ⟨copy, revisit⟩ :: later))
    (stands : ∀ row, Standing c copy revisit row → Standing c copy moved row) :
    Underway c feedId s store (earlier ++ ⟨copy, moved⟩ :: later) where
  numbered := underway.numbered
  frame := underway.frame
  copies := by simpa using underway.copies
  rows := by
    obtain ⟨before, row, after, same, here, exchange⟩ := exists_row underway.rows
    rw [same]
    exact exchange ⟨copy, moved⟩ row (stands row here)

/-- The row of an article is found under its id. -/
theorem exists_standing
    (underway : Underway c feedId s store (earlier ++ ⟨copy, revisit⟩ :: later)) :
    ∃ row, store.articles.get? copy.id = some row ∧ Standing c copy revisit row := by
  obtain ⟨before, row, after, same, here, _⟩ := exists_row underway.rows
  have listed : row ∈ store.articlesOf feedId := same ▸ List.mem_append_right _ List.mem_cons_self
  exact ⟨row, here.own.1 ▸ (underway.numbered.mem_articlesOf.mp listed).1, here⟩

/-- The round goes on with an article and puts another row in place of its own one. -/
theorem replace (underway : Underway c feedId s store (earlier ++ ⟨copy, revisit⟩ :: later))
    (stands : Standing c copy moved row) :
    Underway c feedId s (store.withArticle row) (earlier ++ ⟨copy, moved⟩ :: later) := by
  obtain ⟨before, old, after, same, here, exchange⟩ := exists_row underway.rows
  have listed : old ∈ store.articlesOf feedId := same ▸ List.mem_append_right _ List.mem_cons_self
  obtain ⟨found, own⟩ := underway.numbered.mem_articlesOf.mp listed
  -- Both rows have the id of the copy, and no other row of the feed has it.
  have id : row.id = old.id := stands.own.1.trans here.own.1.symm
  have feed : row.feedId = old.feedId := stands.own.2.trans here.own.2.symm
  rw [← id] at found
  refine ⟨underway.numbered.withArticle found,
    underway.frame.withArticle underway.numbered found own feed, ?_, ?_⟩
  · simpa using underway.copies
  · rw [underway.numbered.articlesOf_withArticle_own same id feed]
    exact exchange ⟨copy, moved⟩ row stands

theorem begin {refreshed : Article} {finding : Staleness} (now : Timestamp)
    (underway : Underway c feedId s store (earlier ++ ⟨copy, .found finding refreshed⟩ :: later)) :
    Underway c feedId s (store.updateArticle now refreshed).2
      (earlier ++
        ⟨copy, .storing finding (.ofCall ((store.updateArticle now refreshed).1.map .article))⟩ ::
          later) := by
  obtain ⟨row, found, here⟩ := underway.exists_standing
  cases here with
  | @found _ date answered =>
    have own : copy.id = (finding.applyTo date copy).id := by cases finding <;> rfl
    have key : copy.key = (finding.applyTo date copy).key := by cases finding <;> rfl
    rw [Store.updateArticle_of_get? now (own ▸ found) key]
    exact underway.replace (.writing answered)

private theorem undo {finding : Staleness} {change : Change} {reason : String}
    (underway : Underway c feedId s store
      (earlier ++ ⟨copy, .storing finding (.failing change reason)⟩ :: later)) :
    Underway c feedId s (store.undo change)
      (earlier ++ ⟨copy, .storing finding (.undone change reason)⟩ :: later) := by
  obtain ⟨row, found, here⟩ := underway.exists_standing
  have own : row.id = copy.id := here.own.1
  cases here with
  | failing answered unwritten =>
    rw [Store.undo_of_get? (own ▸ found) own.symm]
    exact underway.replace (.undone answered unwritten)

end Underway

theorem exists_endings {rows : List Article}
    (all : List.Forall₂ (fun station row => Standing c station.copy station.revisit row) stations
      rows)
    (through : ∀ station ∈ stations, station.revisit.outcome?.isSome) :
    ∃ endings : List (RefreshOutcome × Article),
      stations.filterMap (·.revisit.outcome?) = endings.map (·.1) ∧ rows = endings.map (·.2) ∧
      List.Forall₂ (fun article ending => Ending c article ending.1 ending.2)
        (stations.map (·.copy)) endings := by
  induction all with
  | nil => exact ⟨[], rfl, rfl, .nil⟩
  | @cons station row stations rows here rest ih =>
    obtain ⟨decided, others⟩ := List.forall_mem_cons.mp through
    obtain ⟨outcome, arrived⟩ := Option.isSome_iff_exists.mp decided
    obtain ⟨endings, outcomes, left, ended⟩ := ih others
    refine ⟨(outcome, row) :: endings, ?_, ?_, .cons (here.ending arrived) ended⟩
    · simp only [List.filterMap_cons, arrived, outcomes, List.map_cons]
    · rw [left, List.map_cons]

end Underway

inductive Sound (c : Conditions) (feedId : Int) (s : Store) : Round → Prop where
  | unlisted : Sound c feedId s (start s)
  | underway {store : Store} {stations : List Station} :
      Underway c feedId s store stations → Sound c feedId s ⟨store, some stations⟩

structure Refreshed (c : Conditions) (feedId : Int) (s next : Store) (report : RefreshReport) :
    Prop where
  checked : report.checked = (s.articlesOf feedId).length
  counted : report.checked = report.changed + report.unchanged + report.denied + report.failed
  rows : ∃ endings : List (RefreshOutcome × Article),
    report = .ofOutcomes (endings.map (·.1)) ∧ next.articlesOf feedId = endings.map (·.2) ∧
    List.Forall₂ (fun article ending => Ending c article ending.1 ending.2)
      (s.articlesOf feedId) endings
  frame : s.Frame feedId next

section Sound

variable {c : Conditions} {feedId : Int} {s : Store} {p next : Round}

theorem Sound.step (sound : Sound c feedId s p) (numbered : s.Numbered)
    (step : Step c feedId p next) : Sound c feedId s next := by
  cases sound with
  | unlisted =>
    cases step with
    | list => exact .underway (.listed numbered)
  | underway underway =>
    cases step with
    | check =>
      refine .underway (underway.move fun row stands => ?_)
      cases stands with
      | waiting => exact .checking
    | @hear _ _ _ copy =>
      refine .underway (underway.move fun row stands => ?_)
      cases stands with
      | checking =>
        cases answered : c.answer copy with
        | ok finding => exact .found answered
        | error fault => exact .refused answered
    | begin => exact .underway (underway.begin _)
    | write isWritten =>
      refine .underway (underway.move fun row stands => ?_)
      cases stands with
      | writing answered => exact .written answered isWritten
    | fail unwritten =>
      refine .underway (underway.move fun row stands => ?_)
      cases stands with
      | writing answered => exact .failing answered unwritten
    | undo => exact .underway underway.undo

theorem Sound.run (numbered : s.Numbered) (run : Run c feedId (start s) p) :
    Sound c feedId s p := by
  induction run with
  | refl => exact .unlisted
  | tail _ last ih => exact ih.step numbered last

/-- In a round that reports, each article is left as its outcome says. -/
theorem Sound.ended (sound : Sound c feedId s p) (numbered : s.Numbered)
    (reported : p.report?.isSome) {article : Article} (listed : article ∈ s.articlesOf feedId) :
    p.store.Numbered ∧ ∃ outcome row, p.outcome? article.id = some outcome ∧
      row ∈ p.store.articlesOf feedId ∧ Ending c article outcome row := by
  cases sound with
  | unlisted => cases reported
  | @underway store stations underway =>
    obtain ⟨report, reported⟩ := Option.isSome_iff_exists.mp reported
    obtain ⟨through, _⟩ := report?_eq_some_iff.mp reported
    obtain ⟨station, member, rfl⟩ := List.mem_map.mp (underway.copies ▸ listed)
    obtain ⟨outcome, arrived⟩ := Option.isSome_iff_exists.mp (through station member)
    have nodup : (stations.map (·.copy.id)).Nodup := by
      have ids := numbered.nodup_ids feedId
      rwa [← underway.copies, List.map_map] at ids
    obtain ⟨earlier, later, rfl⟩ := List.append_of_mem member
    rw [List.map_append, List.map_cons] at nodup
    have apart := (List.nodup_append.mp nodup).2.2
    have first : (earlier ++ station :: later).find? (·.copy.id == station.copy.id) =
        some station := by
      refine List.find?_eq_some_iff_append.mpr ⟨beq_self_eq_true _, earlier, later, rfl, ?_⟩
      intro other early
      simpa using apart _ (List.mem_map_of_mem early) _ List.mem_cons_self
    obtain ⟨before, row, after, same, here, _⟩ := exists_row underway.rows
    refine ⟨underway.numbered, outcome, row, ?_, ?_, here.ending arrived⟩
    · simp only [outcome?, Option.getD_some, first]
      exact arrived
    · rw [same]
      exact List.mem_append_right _ List.mem_cons_self

private theorem Sound.refreshed (sound : Sound c feedId s p) {report : RefreshReport}
    (reported : p.report? = some report) : Refreshed c feedId s p.store report := by
  cases sound with
  | unlisted => cases reported
  | underway underway =>
    obtain ⟨through, rfl⟩ := report?_eq_some_iff.mp reported
    obtain ⟨endings, outcomes, left, ended⟩ := exists_endings underway.rows through
    rw [underway.copies] at ended
    rw [outcomes]
    refine ⟨?_, RefreshReport.ofOutcomes_checked _, ⟨endings, rfl, left, ended⟩, underway.frame⟩
    rw [RefreshReport.ofOutcomes_eq, ended.length_eq]
    exact List.length_map _

end Sound

/-- No round goes on for ever, and none stops before it reports. Its report counts each article of
the feed once, and the articles are left as their outcomes say. -/
theorem round_reports (c : Conditions) (feedId : Int) {s : Store} (numbered : s.Numbered) :
    (WellFounded fun next p => Step c feedId p next) ∧
    ∀ p, Run c feedId (start s) p →
      (p.report? = none → ∃ next, Step c feedId p next) ∧
      ∀ report, p.report? = some report → Refreshed c feedId s p.store report :=
  ⟨wellFounded_step c feedId, fun _ run =>
    ⟨exists_step c feedId, fun _ reported => (Sound.run numbered run).refreshed reported⟩⟩

/-! ## A refresh of an archive -/

section Alone

variable {answer : Article → Except Fault Staleness}

/-- A finding is stored as an archive stores it, whether it can be written or not. -/
theorem run_storeFinding (feedId : Int) (now : Timestamp) (copy : Article) (finding : Staleness)
    (a : Archive) (earlier later : List Station) :
    ∃ isWritten revisit,
      revisit.outcome? = some (storeFinding Archive.access now copy finding a).1 ∧
      ∀ c : Conditions, c.isWritten copy = isWritten →
        Run c feedId
          ⟨a.store, some (earlier ++ ⟨copy, .found finding (finding.applyTo now copy)⟩ :: later)⟩
          ⟨(storeFinding Archive.access now copy finding a).2.store,
            some (earlier ++ ⟨copy, revisit⟩ :: later)⟩ := by
  obtain ⟨sameCall, sameStore⟩ :=
    Catalog.Traffic.begin_archive (Store.updateArticle now (finding.applyTo now copy)) a
  have begun : ∀ c : Conditions, Step c feedId _ _ :=
    fun c => @Step.begin c feedId a.store earlier later copy (finding.applyTo now copy) finding now
  rw [← sameCall, ← sameStore] at begun
  rcases updated : a.begin (Store.updateArticle now (finding.applyTo now copy)) with ⟨call, b⟩
  rw [updated] at begun
  have updatedToo : Archive.access.updateArticle now (finding.applyTo now copy) a = (call, b) :=
    updated
  simp only [storeFinding, updatedToo]
  cases call with
  | answered answer =>
    refine ⟨true, .storing finding (.answered (answer.map .article)), ?_, fun c _ => ?_⟩
    · cases answer <;> rfl
    · cases answer <;> exact .single (begun c)
  | pending change row =>
    rcases settled : b.settle change with ⟨result, d⟩
    have settledToo : Archive.access.settle change b = (result, d) := settled
    simp only [Access.finish, settledToo]
    rcases Catalog.Traffic.settle_cases b change with ⟨told, same⟩ | ⟨reason, told, same⟩
    · rw [settled] at told same
      obtain rfl : result = .ok () := told
      obtain same : d.store = b.store := same
      refine ⟨true, .storing finding (.written change (.article row)), rfl, fun c written => ?_⟩
      show Run c feedId _ ⟨d.store, _⟩
      rw [same]
      exact .tail (.single (begun c)) (.write written)
    · rw [settled] at told same
      obtain rfl : result = .error (.persistence reason) := told
      obtain same : d.store = b.store.undo change := same
      refine ⟨false, .storing finding (.undone change reason), rfl, fun c unwritten => ?_⟩
      show Run c feedId _ ⟨d.store, _⟩
      rw [same]
      exact .tail (.tail (.single (begun c)) (.fail unwritten)) .undo

/-- If nobody comes in between, an article is refreshed as a whole. -/
theorem run_refreshArticle {check : Article → Archive → Except Fault Staleness × Archive}
    (answers : ∀ article a, check article a = (answer article, a)) (feedId : Int) (now : Timestamp)
    (copy : Article) (a : Archive) {earlier : List Station} (ready : MayCheck earlier)
    (later : List Station) :
    ∃ isWritten revisit,
      revisit.outcome? = some (refreshArticle Archive.access check now copy a).1 ∧
      ∀ c : Conditions, c.answer = answer → c.isWritten copy = isWritten →
        Run c feedId ⟨a.store, some (earlier ++ ⟨copy, .waiting⟩ :: later)⟩
          ⟨(refreshArticle Archive.access check now copy a).2.store,
            some (earlier ++ ⟨copy, revisit⟩ :: later)⟩ := by
  have heard : ∀ c : Conditions, c.answer = answer →
      Run c feedId ⟨a.store, some (earlier ++ ⟨copy, .waiting⟩ :: later)⟩
        ⟨a.store, some (earlier ++ ⟨copy, .heard now copy (answer copy)⟩ :: later)⟩ := by
    rintro c rfl
    exact .tail (.single (.check ready)) .hear
  rw [refreshArticle, answers]
  cases answered : answer copy with
  | ok finding =>
    obtain ⟨isWritten, revisit, outcome, stored⟩ :=
      run_storeFinding feedId now copy finding a earlier later
    rw [answered] at heard
    refine ⟨isWritten, revisit, outcome, fun c same written => ?_⟩
    exact (heard c same).trans (stored c written)
  | error fault =>
    rw [answered] at heard
    cases fault with
    | robotsDenied url => exact ⟨true, _, rfl, fun c same _ => heard c same⟩
    | _ => exact ⟨true, _, rfl, fun c same _ => heard c same⟩

theorem run_refreshAll {check : Article → Archive → Except Fault Staleness × Archive}
    (answers : ∀ article a, check article a = (answer article, a)) (feedId : Int) (now : Timestamp)
    {copies : List Article} (once : copies.Nodup) (a : Archive) {earlier : List Station}
    (through : ∀ station ∈ earlier, station.revisit.outcome?.isSome) :
    ∃ (isWritten : Article → Bool) (stations : List Station),
      stations.map (·.revisit.outcome?) =
        (refreshAll Archive.access check now copies a).1.map some ∧
      ∀ c : Conditions, c.answer = answer → (∀ copy ∈ copies, c.isWritten copy = isWritten copy) →
        Run c feedId ⟨a.store, some (earlier ++ copies.map (⟨·, .waiting⟩))⟩
          ⟨(refreshAll Archive.access check now copies a).2.store, some (earlier ++ stations)⟩ := by
  induction copies generalizing a earlier with
  | nil => exact ⟨fun _ => true, [], rfl, fun c _ _ => .refl⟩
  | cons copy copies ih =>
    obtain ⟨new, onceRest⟩ := List.nodup_cons.mp once
    have ready : MayCheck earlier := fun station member =>
      through station (List.mem_of_mem_take member)
    obtain ⟨first, revisit, outcome, run⟩ :=
      run_refreshArticle answers feedId now copy a ready (copies.map (⟨·, .waiting⟩))
    have throughToo : ∀ station ∈ earlier ++ [⟨copy, revisit⟩],
        station.revisit.outcome?.isSome := by
      refine List.forall_mem_append.mpr ⟨through, List.forall_mem_singleton.mpr ?_⟩
      rw [outcome]
      rfl
    obtain ⟨isWritten, stations, outcomes, rest⟩ :=
      ih onceRest (refreshArticle Archive.access check now copy a).2 throughToo
    -- The articles differ, so what becomes of this one's row can be chosen apart from the others.
    refine ⟨fun article => if article = copy then first else isWritten article,
      ⟨copy, revisit⟩ :: stations, ?_, fun c same written => ?_⟩
    · rw [List.map_cons, outcome, outcomes]
      rfl
    · have head := run c same ((written copy List.mem_cons_self).trans (if_pos rfl))
      have tail := rest c same fun other member =>
        (written other (List.mem_cons_of_mem _ member)).trans
          (if_neg fun here : other = copy => new (here ▸ member))
      rw [List.append_assoc, List.append_assoc] at tail
      exact head.trans tail

private theorem decided_of_map {stations : List Station} {outcomes : List RefreshOutcome}
    (same : stations.map (·.revisit.outcome?) = outcomes.map some) :
    (∀ station ∈ stations, station.revisit.outcome?.isSome) ∧
      stations.filterMap (·.revisit.outcome?) = outcomes := by
  constructor
  · intro station member
    have decided : station.revisit.outcome? ∈ outcomes.map some := same ▸ List.mem_map_of_mem member
    obtain ⟨outcome, _, told⟩ := List.mem_map.mp decided
    rw [← told]
    rfl
  · have mapped : (stations.map (·.revisit.outcome?)).filterMap id = outcomes := by
      rw [same, List.filterMap_map]
      exact List.filterMap_some
    rwa [List.filterMap_map] at mapped

/-- If nobody comes in between, a refresh of an archive is a round, and reports as it does. -/
theorem run_refreshFeed {check : Article → Archive → Except Fault Staleness × Archive}
    (answers : ∀ article a, check article a = (answer article, a)) (feedId : Int) (now : Timestamp)
    {a : Archive} (numbered : a.store.Numbered) :
    ∃ (isWritten : Article → Bool) (p : Round) (report : RefreshReport),
      Run ⟨answer, isWritten⟩ feedId (start a.store) p ∧ p.report? = some report ∧
      (refreshFeed Archive.access check now feedId a).1 = .ok report ∧
      (refreshFeed Archive.access check now feedId a).2.store = p.store := by
  obtain ⟨isWritten, stations, outcomes, run⟩ :=
    run_refreshAll answers feedId now (numbered.nodup_ids feedId).of_map a
      (fun station (member : station ∈ []) => by cases member)
  obtain ⟨decided, same⟩ := decided_of_map outcomes
  have whole := run ⟨answer, isWritten⟩ rfl fun _ _ => rfl
  refine ⟨isWritten, ⟨_, some stations⟩, _, .head .list whole,
    report?_eq_some_iff.mpr ⟨decided, rfl⟩, ?_, rfl⟩
  rw [same]
  rfl

end Alone

/-! ## One article more than are checked at once -/

def shelved : Archive :=
  (ArchiveRuns.stocked.createArticles .epoch (["a", "b", "c", "d", "e"].map Catalog.Traffic.sketch)).2

private theorem shelved_numbered : shelved.store.Numbered := by
  have shelved : shelved.InMemory := @Archive.InMemory.begin ArchiveRuns.stocked .epoch
    (.createArticles (["a", "b", "c", "d", "e"].map Catalog.Traffic.sketch))
    RunsOfFeed.stocked_inMemory
  exact shelved.indexed.numbered

def replies (article : Article) : Except Fault Staleness :=
  match article.url with
  | "a" => .ok Overlap.revised
  | "b" => .error (.robotsDenied "b")
  | "c" => .error (.network "")
  | _ => .ok .unchanged

theorem round_reports_shelved : ∃ isWritten p,
    Run ⟨replies, isWritten⟩ 1 (start shelved.store) p ∧
    Refreshed ⟨replies, isWritten⟩ 1 shelved.store p.store ⟨5, 1, 2, 1, 1⟩ := by
  let check (article : Article) (a : Archive) := (replies article, a)
  have answers : ∀ article a, check article a = (replies article, a) := fun _ _ => rfl
  obtain ⟨isWritten, p, report, run, reported, told, _⟩ :=
    run_refreshFeed answers 1 .epoch shelved_numbered
  have counts : (refreshFeed Archive.access check .epoch 1 shelved).1 =
      .ok ⟨5, 1, 2, 1, 1⟩ := by rfl
  rw [counts] at told
  cases told
  exact ⟨isWritten, p, run, ((round_reports _ 1 shelved_numbered).2 p run).2 _ reported⟩

end Round

end FeedIngest.Ingest
