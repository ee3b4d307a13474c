import FeedIngest.Catalog.Access
import FeedIngest.Crawl.Staleness

/-!
# Refreshing

A refresh checks the stored articles of a feed, one after the other, and stores what the checks
find. An article that may not be checked, or whose check fails, stays as it is.
-/

set_option autoImplicit false

namespace FeedIngest.Ingest

open Catalog (Access Article)
open Crawl (Staleness)
open Time (Timestamp)

inductive RefreshOutcome where
  | changed
  | unchanged
  | denied
  | failed
deriving DecidableEq, Repr

structure RefreshReport where
  checked : Nat
  changed : Nat
  unchanged : Nat
  denied : Nat
  failed : Nat
deriving DecidableEq, Repr

namespace RefreshReport

def empty : RefreshReport := ⟨0, 0, 0, 0, 0⟩

def count (r : RefreshReport) (outcome : RefreshOutcome) : RefreshReport :=
  let r := { r with checked := r.checked + 1 }
  match outcome with
  | .changed => { r with changed := r.changed + 1 }
  | .unchanged => { r with unchanged := r.unchanged + 1 }
  | .denied => { r with denied := r.denied + 1 }
  | .failed => { r with failed := r.failed + 1 }

def ofOutcomes (outcomes : List RefreshOutcome) : RefreshReport := outcomes.foldl count empty

end RefreshReport

/-- The outcome that a finding leads to once it is stored. -/
def RefreshOutcome.ofFinding : Staleness → RefreshOutcome
  | .unchanged => .unchanged
  | .changed _ _ => .changed

variable {σ : Type}

def storeFinding (c : Access σ) (now : Timestamp) (article : Article) (found : Staleness)
    (s : σ) : RefreshOutcome × σ :=
  let (call, s) := c.updateArticle now (found.applyTo now article) s
  match c.finish call s with
  | (.ok _, s) => (.ofFinding found, s)
  | (.error _, s) => (.failed, s)

def refreshArticle (c : Access σ) (check : Article → σ → Except Fault Staleness × σ)
    (now : Timestamp) (article : Article) (s : σ) : RefreshOutcome × σ :=
  match check article s with
  | (.ok found, s) => storeFinding c now article found s
  | (.error (.robotsDenied _), s) => (.denied, s)
  | (.error _, s) => (.failed, s)

def refreshAll (c : Access σ) (check : Article → σ → Except Fault Staleness × σ)
    (now : Timestamp) : List Article → σ → List RefreshOutcome × σ
  | [], s => ([], s)
  | article :: rest, s =>
    let (outcome, s) := refreshArticle c check now article s
    let (outcomes, s) := refreshAll c check now rest s
    (outcome :: outcomes, s)

def refreshFeed (c : Access σ) (check : Article → σ → Except Fault Staleness × σ)
    (now : Timestamp) (feedId : Int) (s : σ) : Except Fault RefreshReport × σ :=
  match c.articles feedId s with
  | (.ok articles, s) =>
    let (outcomes, s) := refreshAll c check now articles s
    (.ok (.ofOutcomes outcomes), s)
  | (.error fault, s) => (.error fault, s)

end FeedIngest.Ingest
