import FeedIngest.Delivery.Workshop
import FeedIngest.Ingest.Refresh
import FeedIngest.Ingest.Run

/-!
# The ingestion service

A service has access to a catalog and knows where documents come from; it may have a checker.
It runs ingestions, and it handles jobs: the ingestion of a feed, and a refresh after it if
there is a checker. Waiting for a document takes time, and so does settling the change of a run
where it is written; all else takes none.
-/

set_option autoImplicit false

namespace FeedIngest.Ingest

open Catalog (Access Article Validators)
open Crawl (Checker)
open Delivery (Handler Job Progress)
open Time (Timestamp)

/-- Where documents come from: how long it takes to get the document of a link, if it ever
comes, and what it is. The validators name the document that is known. -/
abbrev FeedSource (σ : Type) :=
  (now : Nat) → (url : String) → Validators → σ → (Option Nat × Except Fault FeedFetch) × σ

structure Service (σ : Type) where
  access : Access σ
  source : FeedSource σ
  checker : Option (Checker σ)
  date : Nat → Timestamp

/-- A run that waits, and what it will get if it waits for its document. -/
structure Errand where
  run : Run
  fetch : Option (Except Fault FeedFetch)

inductive Leg where
  | finished (result : Except Fault (List Article))
  | waits (moment : Option Nat) (errand : Errand)

namespace Leg

def wakes : Leg → Option Nat
  | finished _ => none
  | waits moment _ => moment

def result? : Leg → Option (Except Fault (List Article))
  | finished result => some result
  | waits _ _ => none

end Leg

namespace Service

variable {σ : Type}

def pause (v : Service σ) (now : Nat) (r : Run) (s : σ) : Leg :=
  match r.result? with
  | some result => .finished result
  | none => .waits (some (now + v.access.writing s)) ⟨r, none⟩

def goOn (v : Service σ) (now : Nat) (errand : Errand) (s : σ) : Leg × σ :=
  let (run, s) := match errand.fetch with
    | some fetch => (errand.run.hear fetch, s)
    | none => errand.run.step v.access (v.date now) s
  let (run, s) := run.proceed v.access (v.date now) s
  (v.pause now run s, s)

def begin (v : Service σ) (now : Nat) (feedId : Int) (s : σ) : Leg × σ :=
  let (run, s) := (Run.start feedId).proceed v.access (v.date now) s
  match run.stage with
  | .fetching feed =>
    let ((delay, fetch), s) := v.source now feed.url feed.validators s
    if delay = some 0 then v.goOn now ⟨run, some fetch⟩ s
    else (.waits (delay.map (now + ·)) ⟨run, some fetch⟩, s)
  | _ => (v.pause now run s, s)

/-- Refreshes the articles of a feed, if there is a checker. -/
def refresh (v : Service σ) (now : Nat) (feedId : Int) (s : σ) : Except Fault RefreshReport × σ :=
  match v.checker with
  | some check => refreshFeed v.access (check now) (v.date now) feedId s
  | none => (.ok .empty, s)

def afterwards (v : Service σ) (now : Nat) (feedId : Int) (result : Except Fault (List Article))
    (s : σ) : Except Fault Unit × σ :=
  match result with
  | .error fault => (.error fault, s)
  | .ok _ =>
    let (report, s) := v.refresh now feedId s
    (report.map fun _ => (), s)

def progress (v : Service σ) (now : Nat) (feedId : Int) (leg : Leg) (s : σ) :
    Progress Errand × σ :=
  match leg with
  | .waits moment errand => (.waits moment errand, s)
  | .finished result =>
    let (result, s) := v.afterwards now feedId result s
    (.done result, s)

def handler (v : Service σ) : Handler σ Errand where
  begin now _ job s :=
    let (leg, s) := v.begin now job.feedId s
    v.progress now job.feedId leg s
  resume now _ job errand s :=
    let (leg, s) := v.goOn now errand s
    v.progress now job.feedId leg s

end Service

end FeedIngest.Ingest
