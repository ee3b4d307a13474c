import Mathlib.Logic.Relation
import FeedIngest.Ingest.Refresh
import FeedIngest.Proofs.Catalog.Numbering
import FeedIngest.Proofs.Catalog.Reliability
import FeedIngest.Proofs.Ingest.Partition

/-!
# Marks on articles that are being refreshed

A refresh lists the articles of a feed, checks a few of them at once, and writes each back as it was
listed, with what its check has found. Somebody else marks one of the articles as read or starred
meanwhile, on the row as it stands then. All writes succeed. What a check has found is never lost,
for whoever marks a row after it was written back takes it from there. But a row that was marked
after it was listed loses the mark again when it is written back.
-/

set_option autoImplicit false

namespace FeedIngest.Catalog

open Time (Timestamp)

def Article.stamped (now : Timestamp) (article : Article) : Article :=
  { article with updatedAt := now }

namespace Archive

structure Replaces (a : Archive) (article : Article) (b : Archive) : Prop where
  articles : ∀ id, b.store.articles.get? id =
    if id = article.id then some article else a.store.articles.get? id
  directory : b.directory = a.directory

/-- An article is replaced, or it is unknown or has another key and nothing changes. -/
theorem updateArticle_cases (a : Archive) (now : Timestamp) (article : Article) :
    (∃ fault, a.updateArticle now article = (.answered (.error fault), a) ∧
        ∀ row, a.store.articles.get? article.id = some row → row.key ≠ article.key) ∨
      ∃ change b, a.updateArticle now article = (.pending change (article.stamped now), b) ∧
        a.Replaces (article.stamped now) b := by
  unfold updateArticle begin Store.updateArticle
  cases found : a.store.articles.get? article.id with
  | none => exact .inl ⟨_, rfl, fun row known => by cases known⟩
  | some row =>
    by_cases same : row.key = article.key
    · simp only [if_pos same]
      exact .inr ⟨_, _, rfl, fun id => Shelf.get?_put .., rfl⟩
    · simp only [if_neg same]
      refine .inl ⟨_, rfl, fun other foundToo => ?_⟩
      cases foundToo
      exact same

theorem updateArticle_numbered {a : Archive} (numbered : a.store.Numbered) (now : Timestamp)
    (article : Article) : (a.updateArticle now article).2.store.Numbered := by
  have kept := numbered.begin now (.updateArticle article)
  rw [updateArticle, (Traffic.begin_archive (Store.updateArticle now article) a).2]
  exact kept

end Archive

end FeedIngest.Catalog

namespace FeedIngest.Ingest

open Catalog (Access Archive Article Call Change Store)
open Crawl (Staleness)
open Time (Timestamp)

inductive Mark where
  | read
  | starred
deriving DecidableEq

def Mark.on : Mark → Article → Bool
  | .read, article => article.read
  | .starred, article => article.starred

def Mark.set (value : Bool) : Mark → Article → Article
  | .read, article => { article with read := value }
  | .starred, article => { article with starred := value }

namespace Mark

private theorem on_marked (mark : Mark) (value : Bool) (now : Timestamp) (article : Article) :
    mark.on ((mark.set value article).stamped now) = value := by
  cases mark <;> rfl

private theorem set_id (mark : Mark) (value : Bool) (article : Article) :
    (mark.set value article).id = article.id := by
  cases mark <;> rfl

private theorem set_key (mark : Mark) (value : Bool) (article : Article) :
    (mark.set value article).key = article.key := by
  cases mark <;> rfl

/-- A refresh does not look at the marks. -/
theorem on_refreshed (mark : Mark) (found : Staleness) (date now : Timestamp) (copy : Article) :
    mark.on ((found.applyTo date copy).stamped now) = mark.on copy := by
  cases mark <;> cases found <;> rfl

end Mark

/-- Somebody wants an article of a feed to have this mark, or not to have it. -/
structure MarkOrder where
  feedId : Int
  articleId : Int
  mark : Mark
  value : Bool

/-! ## A refresh step by step -/

inductive Review where
  | waiting
  | checking
  | checked (found : Staleness) (refreshed : Article)
  | writing (found : Staleness) (change : Change)
  | stored (found : Staleness)
  | passed (outcome : RefreshOutcome)

namespace Review

def outcome? : Review → Option RefreshOutcome
  | .stored found => some (.ofFinding found)
  | .passed outcome => some outcome
  | _ => none

/-- What has been written back, whether the write is settled or not. -/
def written? : Review → Option Staleness
  | .writing found _ | .stored found => some found
  | _ => none

def heard (date : Timestamp) (copy : Article) : Except Fault Staleness → Review
  | .ok found => .checked found (found.applyTo date copy)
  | .error (.robotsDenied _) => .passed .denied
  | .error _ => .passed .failed

def called (found : Staleness) : Call Article → Review
  | .pending change _ => .writing found change
  | .answered (.ok _) => .stored found
  | .answered (.error _) => .passed .failed

def settled (found : Staleness) : Except Fault Unit → Review
  | .ok () => .stored found
  | .error _ => .passed .failed

end Review

structure Sheet where
  copy : Article
  review : Review

inductive Marking where
  | due
  | writing (change : Change)
  | made

def Marking.called : Call Article → Marking
  | .pending change _ => .writing change
  | .answered _ => .made

/-- An archive, the articles that a refresh has listed, if it has, and those among them, as they
were listed, that were written back since the mark was made. -/
structure Overlap where
  archive : Archive
  sheets : Option (List Sheet)
  marking : Marking
  since : List Article

def HasFinding (row copy : Article) : Staleness → Prop
  | .unchanged => True
  | .changed validators content =>
    row.validators = validators ∧ row.content = (content <|> copy.content)

private theorem hasFinding_refreshed (found : Staleness) (date now : Timestamp) (copy : Article) :
    HasFinding ((found.applyTo date copy).stamped now) copy found := by
  cases found with
  | unchanged => trivial
  | changed validators content => exact ⟨rfl, rfl⟩

private theorem HasFinding.marked {row copy : Article} {found : Staleness}
    (has : HasFinding row copy found) (mark : Mark) (value : Bool) (now : Timestamp) :
    HasFinding ((mark.set value row).stamped now) copy found := by
  cases found with
  | unchanged => trivial
  | changed validators content =>
    cases mark with
    | read => exact has
    | starred => exact has

namespace Overlap

def checksAtOnce : Nat := 4

/-- All articles are through that are not checked together with the next one. -/
def MayCheck (earlier : List Sheet) : Prop :=
  ∀ sheet ∈ earlier.take (earlier.length / checksAtOnce * checksAtOnce),
    sheet.review.outcome?.isSome

def start (a : Archive) : Overlap := ⟨a, none, .due, []⟩

inductive Step (o : MarkOrder) : Overlap → Overlap → Prop where
  | list {a : Archive} {marking : Marking} {since : List Article} :
      Step o ⟨a, none, marking, since⟩
        ⟨a, some ((a.store.articlesOf o.feedId).map (⟨·, .waiting⟩)), marking, since⟩
  | check {a : Archive} {earlier later : List Sheet} {copy : Article} {marking : Marking}
      {since : List Article} : MayCheck earlier →
      Step o ⟨a, some (earlier ++ ⟨copy, .waiting⟩ :: later), marking, since⟩
        ⟨a, some (earlier ++ ⟨copy, .checking⟩ :: later), marking, since⟩
  | hear {a : Archive} {earlier later : List Sheet} {copy : Article} {marking : Marking}
      {since : List Article} {answer : Except Fault Staleness} {date : Timestamp} :
      Step o ⟨a, some (earlier ++ ⟨copy, .checking⟩ :: later), marking, since⟩
        ⟨a, some (earlier ++ ⟨copy, .heard date copy answer⟩ :: later), marking, since⟩
  | store {a : Archive} {earlier later : List Sheet} {copy refreshed : Article}
      {found : Staleness} {marking : Marking} {since : List Article} {now : Timestamp} :
      Step o ⟨a, some (earlier ++ ⟨copy, .checked found refreshed⟩ :: later), marking, since⟩
        ⟨(a.updateArticle now refreshed).2,
          some (earlier ++ ⟨copy, .called found (a.updateArticle now refreshed).1⟩ :: later),
          marking, since ++ ((a.updateArticle now refreshed).1.change?.map fun _ => copy).toList⟩
  | settle {a : Archive} {earlier later : List Sheet} {copy : Article} {found : Staleness}
      {change : Change} {marking : Marking} {since : List Article} :
      Step o ⟨a, some (earlier ++ ⟨copy, .writing found change⟩ :: later), marking, since⟩
        ⟨(a.settle change).2, some (earlier ++ ⟨copy, .settled found (a.settle change).1⟩ :: later),
          marking, since⟩
  /-- Somebody takes the row as it stands, marks it and has it written. -/
  | mark {a : Archive} {sheets : Option (List Sheet)} {since : List Article} {row : Article}
      {now : Timestamp} : a.store.articles.get? o.articleId = some row →
      Step o ⟨a, sheets, .due, since⟩
        ⟨(a.updateArticle now (o.mark.set o.value row)).2, sheets,
          .called (a.updateArticle now (o.mark.set o.value row)).1, []⟩
  | settleMark {a : Archive} {sheets : Option (List Sheet)} {change : Change}
      {since : List Article} :
      Step o ⟨a, sheets, .writing change, since⟩ ⟨(a.settle change).2, sheets, .made, since⟩

abbrev Run (o : MarkOrder) : Overlap → Overlap → Prop := Relation.ReflTransGen (Step o)

def sheetList (p : Overlap) : List Sheet := p.sheets.getD []

/-- The refresh has listed the articles and is through with them, and the mark is settled. -/
structure IsOver (p : Overlap) : Prop where
  marked : p.marking = .made
  listed : p.sheets.isSome
  reviewed : ∀ sheet ∈ p.sheetList, sheet.review.outcome?.isSome

/-! ## Nobody else -/

section Alone

variable {o : MarkOrder} {check : Article → Archive → Except Fault Staleness × Archive}

theorem run_storeFinding (now : Timestamp) (copy : Article) (found : Staleness) (a : Archive)
    (earlier later : List Sheet) (marking : Marking) (since : List Article) :
    ∃ review sinceToo,
      review.outcome? = some (storeFinding Archive.access now copy found a).1 ∧
      Run o ⟨a, some (earlier ++ ⟨copy, .checked found (found.applyTo now copy)⟩ :: later), marking,
          since⟩
        ⟨(storeFinding Archive.access now copy found a).2,
          some (earlier ++ ⟨copy, review⟩ :: later), marking, sinceToo⟩ := by
  have stored := @Step.store o a earlier later copy (found.applyTo now copy) found marking since now
  rcases begun : a.updateArticle now (found.applyTo now copy) with ⟨call, b⟩
  rw [begun] at stored
  have begunToo : Archive.access.updateArticle now (found.applyTo now copy) a = (call, b) := begun
  simp only [storeFinding, begunToo]
  cases call with
  | answered answer =>
    cases answer with
    | ok row => exact ⟨.stored found, _, rfl, .single stored⟩
    | error fault => exact ⟨.passed .failed, _, rfl, .single stored⟩
  | pending change row =>
    have settled := Relation.ReflTransGen.tail (.single stored) .settle
    rcases finished : b.settle change with ⟨result, c⟩
    rw [finished] at settled
    have finishedToo : Archive.access.settle change b = (result, c) := finished
    simp only [Access.finish, finishedToo]
    cases result with
    | ok => exact ⟨.stored found, _, rfl, settled⟩
    | error fault => exact ⟨.passed .failed, _, rfl, settled⟩

/-- If nobody comes in between, an article is refreshed as a whole. -/
theorem run_refreshArticle (quiet : ∀ article a, (check article a).2 = a) (now : Timestamp)
    (copy : Article) (a : Archive) {earlier : List Sheet} (ready : MayCheck earlier)
    (later : List Sheet) (marking : Marking) (since : List Article) :
    ∃ review sinceToo, review.outcome? =
        some (refreshArticle Archive.access check now copy a).1 ∧
      Run o ⟨a, some (earlier ++ ⟨copy, .waiting⟩ :: later), marking, since⟩
        ⟨(refreshArticle Archive.access check now copy a).2,
          some (earlier ++ ⟨copy, review⟩ :: later), marking, sinceToo⟩ := by
  have unmoved := quiet copy a
  have heard : ∀ answer, Run o ⟨a, some (earlier ++ ⟨copy, .waiting⟩ :: later), marking, since⟩
      ⟨a, some (earlier ++ ⟨copy, .heard now copy answer⟩ :: later), marking, since⟩ :=
    fun _ => .tail (.single (.check ready)) .hear
  unfold refreshArticle
  split
  · next found after checked =>
    rw [checked] at unmoved
    subst unmoved
    obtain ⟨review, sinceToo, same, stored⟩ :=
      run_storeFinding now copy found after earlier later marking since
    exact ⟨review, sinceToo, same, (heard (.ok found)).trans stored⟩
  · next url after checked =>
    rw [checked] at unmoved
    subst unmoved
    exact ⟨.passed .denied, since, rfl, heard (.error (.robotsDenied url))⟩
  · next fault after notDenied checked =>
    rw [checked] at unmoved
    subst unmoved
    refine ⟨.passed .failed, since, rfl, ?_⟩
    have failed : Review.heard now copy (.error fault) = .passed .failed := by
      unfold Review.heard
      split
      · next same => cases same
      · next same => exact absurd (by cases same; rfl) (notDenied _)
      · rfl
    exact failed ▸ heard (.error fault)

theorem run_refreshAll (quiet : ∀ article a, (check article a).2 = a) (now : Timestamp)
    (copies : List Article) (a : Archive) {earlier : List Sheet}
    (through : ∀ sheet ∈ earlier, sheet.review.outcome?.isSome) (marking : Marking)
    (since : List Article) :
    ∃ sheets sinceToo,
      sheets.map (·.review.outcome?) = (refreshAll Archive.access check now copies a).1.map some ∧
      Run o ⟨a, some (earlier ++ copies.map (⟨·, .waiting⟩)), marking, since⟩
        ⟨(refreshAll Archive.access check now copies a).2, some (earlier ++ sheets), marking,
          sinceToo⟩ := by
  induction copies generalizing a earlier since with
  | nil => exact ⟨[], since, rfl, .refl⟩
  | cons copy copies ih =>
    have ready : MayCheck earlier := fun sheet member => through sheet (List.mem_of_mem_take member)
    obtain ⟨review, sinceFirst, outcome, first⟩ :=
      run_refreshArticle quiet now copy a ready (copies.map (⟨·, .waiting⟩)) marking since
    have throughToo : ∀ sheet ∈ earlier ++ [⟨copy, review⟩], sheet.review.outcome?.isSome := by
      refine List.forall_mem_append.mpr ⟨through, List.forall_mem_singleton.mpr ?_⟩
      rw [outcome]
      rfl
    obtain ⟨sheets, sinceLast, outcomes, rest⟩ :=
      ih (refreshArticle Archive.access check now copy a).2 throughToo sinceFirst
    rw [List.append_assoc, List.append_assoc] at rest
    refine ⟨⟨copy, review⟩ :: sheets, sinceLast, ?_, first.trans rest⟩
    rw [List.map_cons, outcome, outcomes]
    rfl

/-- If nobody comes in between, a refresh is a run, and reports how it went with each article. -/
theorem run_refreshFeed (quiet : ∀ article a, (check article a).2 = a) (now : Timestamp)
    (a : Archive) :
    ∃ sheets since outcomes,
      (refreshFeed Archive.access check now o.feedId a).1 = .ok (.ofOutcomes outcomes) ∧
      sheets.map (·.review.outcome?) = outcomes.map some ∧
      Run o (start a)
        ⟨(refreshFeed Archive.access check now o.feedId a).2, some sheets, .due, since⟩ := by
  obtain ⟨sheets, since, outcomes, run⟩ :=
    run_refreshAll quiet now (a.store.articlesOf o.feedId) a
      (fun sheet (member : sheet ∈ []) => by cases member) .due []
  exact ⟨sheets, since, _, rfl, outcomes, .head .list run⟩

end Alone

/-! ## Sheets -/

section Sheets

variable {sheet moved : Sheet} {sheets earlier later : List Sheet} {since : List Article}

theorem mem_exchange {other : Sheet} (moved : Sheet) (member : other ∈ earlier ++ sheet :: later) :
    other = sheet ∨ other ∈ earlier ++ moved :: later :=
  (Catalog.Traffic.eq_or_mem member).imp_right (Catalog.Traffic.mem_of_among moved)

/-- No article is listed twice, what is about to be written back comes from the sheet, and what was
written back since the mark is on a sheet that says so. -/
structure Tidy (sheets : List Sheet) (since : List Article) : Prop where
  once : (sheets.map (·.copy.id)).Nodup
  refreshed : ∀ sheet ∈ sheets, ∀ found refreshed, sheet.review = .checked found refreshed →
    ∃ date, refreshed = found.applyTo date sheet.copy
  since : ∀ copy ∈ since, ∃ sheet ∈ sheets, sheet.copy = copy ∧ sheet.review.written?.isSome

private theorem Tidy.nil : Tidy [] [] where
  once := List.nodup_nil
  refreshed sheet member := by cases member
  since copy member := by cases member

theorem Tidy.move (tidy : Tidy (earlier ++ sheet :: later) since) (copy : moved.copy = sheet.copy)
    (written : sheet.review.written?.isSome → moved.review.written?.isSome)
    (refreshed : ∀ found refreshed, moved.review = .checked found refreshed →
      ∃ date, refreshed = found.applyTo date moved.copy) :
    Tidy (earlier ++ moved :: later) since where
  once := by
    have ids := tidy.once
    rw [List.map_append, List.map_cons, ← copy] at ids
    rw [List.map_append, List.map_cons]
    exact ids
  refreshed other member := by
    rcases mem_exchange sheet member with rfl | old
    · exact refreshed
    · exact tidy.refreshed other old
  since original member := by
    obtain ⟨other, old, same, writtenBack⟩ := tidy.since original member
    rcases mem_exchange moved old with rfl | new
    · exact ⟨moved, List.mem_append_right _ List.mem_cons_self, copy.trans same,
        written writtenBack⟩
    · exact ⟨other, new, same, writtenBack⟩

private theorem Tidy.forget (tidy : Tidy sheets since) : Tidy sheets [] where
  once := tidy.once
  refreshed := tidy.refreshed
  since copy member := by cases member

private theorem Tidy.remember (tidy : Tidy sheets since) (member : sheet ∈ sheets)
    (written : sheet.review.written?.isSome) : Tidy sheets (since ++ [sheet.copy]) where
  once := tidy.once
  refreshed := tidy.refreshed
  since := List.forall_mem_append.mpr
    ⟨tidy.since, List.forall_mem_singleton.mpr ⟨sheet, member, rfl, written⟩⟩

theorem Tidy.eq_of_id (tidy : Tidy sheets since) (member : sheet ∈ sheets)
    (memberToo : moved ∈ sheets) (same : sheet.copy.id = moved.copy.id) : sheet = moved :=
  List.inj_on_of_nodup_map tidy.once member memberToo same

/-- A copy that is yet to be written back was not written back before. -/
theorem Tidy.new (tidy : Tidy sheets since) (member : sheet ∈ sheets)
    (unwritten : sheet.review.written? = none) : ∀ copy ∈ since, copy.id ≠ sheet.copy.id := by
  intro copy old same
  obtain ⟨other, memberToo, rfl, written⟩ := tidy.since copy old
  rw [tidy.eq_of_id memberToo member same, unwritten] at written
  cases written

private theorem listed_tidy {s : Store} (numbered : s.Numbered) (feedId : Int) :
    Tidy ((s.articlesOf feedId).map (⟨·, .waiting⟩)) [] where
  once := by
    rw [List.map_map]
    exact numbered.nodup_ids feedId
  refreshed sheet member := by
    obtain ⟨copy, _, rfl⟩ := List.mem_map.mp member
    exact fun found refreshed early => by cases early
  since copy member := by cases member

end Sheets

/-! ## Somebody else -/

section Others

variable {o : MarkOrder} {p next : Overlap} {a b : Archive} {sheets earlier later : List Sheet}
  {sheet moved : Sheet} {marking : Marking} {since : List Article} {row : Article}

/-- The row has the mark as it was ordered, unless a copy that has it otherwise was written back
since, and it has all that was found and written back. -/
structure Shows (o : MarkOrder) (sheets : List Sheet) (marking : Marking) (since : List Article)
    (row : Article) : Prop where
  mark : marking ≠ .due → (o.mark.on row = o.value ↔
    ∀ copy ∈ since, copy.id = o.articleId → o.mark.on copy = o.value)
  findings : ∀ sheet ∈ sheets, sheet.copy.id = o.articleId → ∀ found,
    sheet.review.written? = some found → HasFinding row sheet.copy found

private theorem Shows.move (shows : Shows o (earlier ++ sheet :: later) marking since row)
    (copy : moved.copy = sheet.copy) (written : moved.review.written? = sheet.review.written?) :
    Shows o (earlier ++ moved :: later) marking since row where
  mark := shows.mark
  findings other member := by
    rcases mem_exchange sheet member with rfl | old
    · rw [copy, written]
      exact shows.findings sheet (List.mem_append_right _ List.mem_cons_self)
    · exact shows.findings other old

/-- An article that is written back has the mark as it was listed. -/
theorem Shows.here {copy : Article} (tidy : Tidy sheets (since ++ [copy]))
    (here : copy.id = o.articleId) (first : ∀ other ∈ since, other.id ≠ copy.id) (found : Staleness)
    (date now : Timestamp) (member : sheet ∈ sheets) (same : sheet.copy = copy)
    (written : sheet.review.written? = some found) :
    Shows o sheets marking (since ++ [copy])
      ((found.applyTo date copy).stamped now) where
  mark _ := by
    rw [Mark.on_refreshed]
    constructor
    -- the article was not written back earlier, so this is the only copy of it
    · intro marked other old concerns
      rcases List.mem_append.mp old with earlier | last
      · exact absurd (concerns.trans here.symm) (first other earlier)
      · rw [List.mem_singleton.mp last, marked]
    · intro all
      exact all copy (List.mem_append_right _ List.mem_cons_self) here
  findings other listed concerns foundToo writtenToo := by
    obtain rfl := tidy.eq_of_id listed member (concerns.trans (same ▸ here.symm))
    rw [written] at writtenToo
    cases writtenToo
    rw [same]
    exact hasFinding_refreshed found date now copy

private theorem Shows.elsewhere {copy : Article}
    (shows : Shows o (earlier ++ sheet :: later) marking since row)
    (elsewhere : copy.id ≠ o.articleId) (same : moved.copy = copy) :
    Shows o (earlier ++ moved :: later) marking (since ++ [copy]) row where
  mark begun := by
    rw [shows.mark begun, List.forall_mem_append, List.forall_mem_singleton]
    exact ⟨fun all => ⟨all, fun concerns => absurd concerns elsewhere⟩, And.left⟩
  findings other member concerns := by
    rcases mem_exchange sheet member with rfl | old
    · exact absurd (same ▸ concerns) elsewhere
    · exact shows.findings other old concerns

structure Sound (o : MarkOrder) (p : Overlap) : Prop where
  numbered : p.archive.store.Numbered
  reliable : p.archive.Reliable
  tidy : Tidy p.sheetList p.since
  stands : ∃ row, p.archive.store.articles.get? o.articleId = some row ∧
    Shows o p.sheetList p.marking p.since row

theorem Sound.move (sound : Sound o ⟨a, some (earlier ++ sheet :: later), marking, since⟩)
    (copy : moved.copy = sheet.copy) (written : moved.review.written? = sheet.review.written?)
    (refreshed : ∀ found refreshed, moved.review = .checked found refreshed →
      ∃ date, refreshed = found.applyTo date moved.copy) :
    Sound o ⟨a, some (earlier ++ moved :: later), marking, since⟩ := by
  obtain ⟨row, found, shows⟩ := sound.stands
  exact ⟨sound.numbered, sound.reliable, sound.tidy.move copy (written ▸ id) refreshed, row, found,
    shows.move copy written⟩

private theorem Sound.settle {sheets : Option (List Sheet)}
    (sound : Sound o ⟨a, sheets, marking, since⟩) (store : b.store = a.store)
    (reliable : b.Reliable) : Sound o ⟨b, sheets, marking, since⟩ := by
  obtain ⟨row, found, shows⟩ := sound.stands
  exact ⟨store ▸ sound.numbered, reliable, sound.tidy, row, store ▸ found, shows⟩

private theorem Sound.store {copy refreshed : Article} {found : Staleness}
    (sound : Sound o
      ⟨a, some (earlier ++ ⟨copy, .checked found refreshed⟩ :: later), marking, since⟩)
    (now : Timestamp) :
    Sound o ⟨(a.updateArticle now refreshed).2,
      some (earlier ++ ⟨copy, .called found (a.updateArticle now refreshed).1⟩ :: later), marking,
      since ++ ((a.updateArticle now refreshed).1.change?.map fun _ => copy).toList⟩ := by
  have listed : (⟨copy, .checked found refreshed⟩ : Sheet) ∈
      earlier ++ ⟨copy, .checked found refreshed⟩ :: later :=
    List.mem_append_right _ List.mem_cons_self
  have derived : ∃ date, refreshed = found.applyTo date copy :=
    sound.tidy.refreshed _ listed found refreshed rfl
  obtain ⟨date, rfl⟩ := derived
  have numbered := Archive.updateArticle_numbered sound.numbered now (found.applyTo date copy)
  rcases a.updateArticle_cases now (found.applyTo date copy) with
    ⟨fault, same, _⟩ | ⟨change, b, same, replaces⟩
  · rw [same]
    simp only [Call.change?, Option.map_none, Option.toList_none, List.append_nil]
    exact sound.move rfl rfl fun _ _ early => by cases early
  · rw [same] at numbered ⊢
    have own : ((found.applyTo date copy).stamped now).id = copy.id := by cases found <;> rfl
    have first : ∀ other ∈ since, other.id ≠ copy.id := sound.tidy.new listed rfl
    have written : (⟨copy, .writing found change⟩ : Sheet) ∈
        earlier ++ ⟨copy, .writing found change⟩ :: later :=
      List.mem_append_right _ List.mem_cons_self
    have moved : Tidy (earlier ++ ⟨copy, .writing found change⟩ :: later) since :=
      sound.tidy.move rfl (fun _ => rfl) fun _ _ early => by cases early
    have tidy := moved.remember written rfl
    refine ⟨numbered, sound.reliable.congr replaces.directory, tidy, ?_⟩
    by_cases here : copy.id = o.articleId
    · refine ⟨(found.applyTo date copy).stamped now, ?_,
        .here tidy here first found date now written rfl rfl⟩
      rw [replaces.articles, if_pos]
      exact here.symm.trans own.symm
    · obtain ⟨row, stands, shows⟩ := sound.stands
      refine ⟨row, ?_, shows.elsewhere here rfl⟩
      rw [replaces.articles, if_neg]
      · exact stands
      · exact fun same => here (own.symm.trans same.symm)

private theorem Sound.mark {sheets : Option (List Sheet)} (sound : Sound o ⟨a, sheets, .due, since⟩)
    (stands : a.store.articles.get? o.articleId = some row) (now : Timestamp) :
    Sound o ⟨(a.updateArticle now (o.mark.set o.value row)).2, sheets,
      .called (a.updateArticle now (o.mark.set o.value row)).1, []⟩ := by
  have numbered := Archive.updateArticle_numbered sound.numbered now (o.mark.set o.value row)
  have own : (o.mark.set o.value row).id = o.articleId := by
    rw [Mark.set_id]
    exact sound.numbered.articles stands
  rcases a.updateArticle_cases now (o.mark.set o.value row) with
    ⟨fault, _, differs⟩ | ⟨change, b, same, replaces⟩
  -- the row is there under its own id, and a mark keeps its key
  · exact absurd (Mark.set_key ..).symm (differs row (own ▸ stands))
  · rw [same] at numbered ⊢
    obtain ⟨rowToo, standsToo, shows⟩ := sound.stands
    obtain rfl : row = rowToo := Option.some.inj (stands.symm.trans standsToo)
    refine ⟨numbered, sound.reliable.congr replaces.directory, sound.tidy.forget,
      (o.mark.set o.value row).stamped now, ?_, ?_, ?_⟩
    · rw [replaces.articles, if_pos]
      exact own.symm
    · intro _
      rw [Mark.on_marked]
      exact iff_of_true rfl (fun copy member => by cases member)
    · intro sheet member concerns found written
      exact (shows.findings sheet member concerns found written).marked o.mark o.value now

private theorem Sound.list (sound : Sound o ⟨a, none, marking, since⟩) :
    Sound o ⟨a, some ((a.store.articlesOf o.feedId).map (⟨·, .waiting⟩)), marking, since⟩ := by
  obtain ⟨row, stands, shows⟩ := sound.stands
  -- what is not listed yet was not written back either
  have nothing : since = [] := by
    refine List.eq_nil_iff_forall_not_mem.mpr fun copy member => ?_
    obtain ⟨sheet, listed, _⟩ := sound.tidy.since copy member
    cases listed
  subst nothing
  refine ⟨sound.numbered, sound.reliable, listed_tidy sound.numbered o.feedId, row, stands,
    shows.mark, ?_⟩
  intro sheet member concerns found written
  obtain ⟨copy, _, rfl⟩ := List.mem_map.mp member
  cases written

private theorem Sound.hear {copy : Article}
    (sound : Sound o ⟨a, some (earlier ++ ⟨copy, .checking⟩ :: later), marking, since⟩)
    (date : Timestamp) (answer : Except Fault Staleness) :
    Sound o ⟨a, some (earlier ++ ⟨copy, .heard date copy answer⟩ :: later), marking, since⟩ := by
  unfold Review.heard
  split
  · refine sound.move rfl rfl fun found refreshed checked => ?_
    cases checked
    exact ⟨date, rfl⟩
  · exact sound.move rfl rfl fun _ _ denied => by cases denied
  · exact sound.move rfl rfl fun _ _ failed => by cases failed

theorem Sound.step (sound : Sound o p) (step : Step o p next) : Sound o next := by
  cases step with
  | list => exact sound.list
  | check ready => exact sound.move rfl rfl fun _ _ early => by cases early
  | hear => exact sound.hear _ _
  | store => exact sound.store _
  | @settle a earlier later copy found change marking since =>
    obtain ⟨b, settled, store, reliable⟩ := sound.reliable.settle change
    have moved : Sound o ⟨a, some (earlier ++ ⟨copy, .stored found⟩ :: later), marking, since⟩ :=
      sound.move rfl rfl fun _ _ early => by cases early
    rw [settled]
    exact moved.settle store reliable
  | mark stands => exact sound.mark stands _
  | @settleMark a sheets change since =>
    obtain ⟨b, settled, store, reliable⟩ := sound.reliable.settle change
    obtain ⟨row, stands, shows⟩ := sound.stands
    have made : Sound o ⟨a, sheets, .made, since⟩ :=
      ⟨sound.numbered, sound.reliable, sound.tidy, row, stands, fun _ => shows.mark nofun,
        shows.findings⟩
    rw [settled]
    exact made.settle store reliable

private theorem start_sound (numbered : a.store.Numbered) (reliable : a.Reliable)
    (stands : a.store.articles.get? o.articleId = some row) : Sound o (start a) where
  numbered := numbered
  reliable := reliable
  tidy := .nil
  stands := ⟨row, stands, fun begun => absurd rfl begun, fun _ member => by cases member⟩

theorem Sound.run (sound : Sound o p) (run : Run o p next) : Sound o next := by
  induction run with
  | refl => exact sound
  | tail _ last ih => exact ih.step last

end Others

/-! ## What becomes of the mark -/

/-- When the refresh and the other caller are through, the article is marked as it was ordered if
and only if it was not written back since from a copy that had the mark otherwise; and in any case
it has what its check has found, if the refresh reports it as changed. -/
theorem mark_stands_iff {o : MarkOrder} {a : Archive} {p : Overlap} {before : Article}
    (numbered : a.store.Numbered) (reliable : a.Reliable)
    (stored : a.store.articles.get? o.articleId = some before) (run : Run o (start a) p)
    (ended : p.IsOver) :
    ∃ row, p.archive.store.articles.get? o.articleId = some row ∧
      (o.mark.on row = o.value ↔
        ∀ copy ∈ p.since, copy.id = o.articleId → o.mark.on copy = o.value) ∧
      ∀ sheet ∈ p.sheetList, sheet.copy.id = o.articleId → ∀ validators content,
        sheet.review = .stored (.changed validators content) →
        row.validators = validators ∧ row.content = (content <|> sheet.copy.content) := by
  have sound := (start_sound numbered reliable stored).run run
  obtain ⟨row, stands, shows⟩ := sound.stands
  refine ⟨row, stands, shows.mark ?_, ?_⟩
  · rw [ended.marked]
    exact nofun
  · intro sheet member concerns validators content review
    refine shows.findings sheet member concerns (.changed validators content) ?_
    rw [review]
    rfl

/-! ## Before and after -/

def readOrder : MarkOrder := ⟨1, 1, .read, true⟩

/-- The article that is stored, before anybody does anything to it. -/
def untouched : Article := (Catalog.Traffic.sketch "a").toArticle 1 .epoch

def revised : Staleness := .changed (ArchiveRuns.version "v") (some "new")

theorem mayCheck_nil : MayCheck [] := fun sheet member => by cases member

/-- The article may be marked after it was written back. -/
theorem exists_mark_after : ∃ p, Run readOrder (start RunsOfFeed.circulated) p ∧ p.IsOver ∧
    p.sheets = some [⟨untouched, .stored revised⟩] ∧ p.since = [] := by
  have run : Run readOrder (start RunsOfFeed.circulated) _ :=
    .head .list <| .head (@Step.check _ _ [] [] untouched _ _ mayCheck_nil) <|
    .head (@Step.hear _ _ [] [] untouched _ _ (.ok revised) .epoch) <|
    .head (@Step.store _ _ [] [] untouched _ _ _ _ .epoch) <|
    .head (@Step.settle _ _ [] [] untouched _ _ _ _) <|
    .head (@Step.mark _ _ _ _ _ .epoch rfl) <| .single .settleMark
  exact ⟨_, run, ⟨rfl, rfl, by decide⟩, rfl, rfl⟩

theorem mark_after_stands : ∃ p row, Run readOrder (start RunsOfFeed.circulated) p ∧ p.IsOver ∧
    p.archive.store.articles.get? 1 = some row ∧ row.read = true ∧
    row.validators = ArchiveRuns.version "v" ∧ row.content = some "new" := by
  obtain ⟨p, run, ended, sheets, since⟩ := exists_mark_after
  have inMemory := RunsOfFeed.circulated_inMemory
  have stored : RunsOfFeed.circulated.store.articles.get? readOrder.articleId = some untouched :=
    rfl
  obtain ⟨row, stands, mark, findings⟩ :=
    mark_stands_iff inMemory.indexed.numbered inMemory.reliable stored run ended
  have listed : (⟨untouched, .stored revised⟩ : Sheet) ∈ p.sheetList := by
    rw [sheetList, sheets]
    exact List.mem_cons_self
  obtain ⟨validators, content⟩ := findings _ listed rfl _ _ rfl
  refine ⟨p, row, run, ended, stands, mark.mpr ?_, validators, content⟩
  rw [since]
  exact fun copy member => by cases member

/-- The article may be marked while the check goes on, and is written back as it was listed. -/
theorem exists_mark_before : ∃ p row, Run readOrder (start RunsOfFeed.circulated) p ∧ p.IsOver ∧
    p.archive.store.articles.get? 1 = some row ∧ row.read = false := by
  have run : Run readOrder (start RunsOfFeed.circulated) _ :=
    .head .list <| .head (@Step.check _ _ [] [] untouched _ _ mayCheck_nil) <|
    .head (@Step.mark _ _ _ _ _ .epoch rfl) <| .head .settleMark <|
    .head (@Step.hear _ _ [] [] untouched _ _ (.ok revised) .epoch) <|
    .head (@Step.store _ _ [] [] untouched _ _ _ _ .epoch) <|
    .single (@Step.settle _ _ [] [] untouched _ _ _ _)
  exact ⟨_, _, run, ⟨rfl, rfl, by decide⟩, rfl, rfl⟩

/-- Not every mark is there when all is over. -/
theorem not_forall_mark_stands :
    ¬ ∀ (o : MarkOrder) (a : Archive) (p : Overlap) (before : Article), a.store.Numbered →
      a.Reliable → a.store.articles.get? o.articleId = some before → before.feedId = o.feedId →
      Run o (start a) p → p.IsOver →
      ∃ row, p.archive.store.articles.get? o.articleId = some row ∧ o.mark.on row = o.value := by
  intro all
  obtain ⟨p, row, run, ended, stands, unread⟩ := exists_mark_before
  have inMemory := RunsOfFeed.circulated_inMemory
  obtain ⟨rowToo, standsToo, read⟩ := all readOrder RunsOfFeed.circulated p untouched
    inMemory.indexed.numbered inMemory.reliable rfl rfl run ended
  cases stands.symm.trans standsToo
  exact Bool.noConfusion (unread.symm.trans read)

end Overlap

end FeedIngest.Ingest
