import FeedIngest.Catalog.Access
import FeedIngest.Syndication.Feed

/-!
# Ingestion runs

A run brings the new articles of one feed into the catalog. It loads the feed, fetches its
document, notes what the document says of the feed itself, creates the articles whose links
are not stored yet, and at last remembers the validators of the document. They come last, so
that a server which is asked with them has nothing to hide.

A run takes one stage after the other, and other runs may come in between. In `fetching` it
waits for the document. In `noting`, `filing` and `marking` it has changed the catalog and waits
until the change is settled.
-/

set_option autoImplicit false

namespace FeedIngest.Ingest

open Catalog (Access Article Change Draft Feed Validators)
open Syndication (FeedDocument FeedItem)
open Time (Timestamp)

/-- What comes of asking for a feed's document. -/
inductive FeedFetch where
  | notModified
  | fetched (document : FeedDocument) (validators : Validators)
deriving DecidableEq, Repr

inductive Stage where
  | loading
  | fetching (feed : Feed)
  | describing (feed : Feed) (document : FeedDocument) (validators : Validators)
  | noting (change : Change) (described feed : Feed) (document : FeedDocument)
      (validators : Validators)
  | listing (feed : Feed) (document : FeedDocument) (validators : Validators)
  | creating (feed : Feed) (fresh : List Draft) (validators : Validators)
  | filing (change : Change) (feed : Feed) (created : List Article) (validators : Validators)
  | remembering (feed : Feed) (created : List Article) (validators : Validators)
  | marking (change : Change) (created : List Article)
  | finished (result : Except Fault (List Article))

structure Run where
  feedId : Int
  stage : Stage

/-- A feed as its document describes it. What the document does not say stays as it was. -/
def describe (feed : Feed) (document : FeedDocument) : Feed :=
  { feed with
    title := if document.title = "" then feed.title else document.title
    description := document.description <|> feed.description }

/-- The first draft for each link that is not among the known ones. -/
def unseen (known : List String) : List Draft → List Draft
  | [] => []
  | draft :: drafts =>
    if known.contains draft.url then unseen known drafts
    else draft :: unseen (draft.url :: known) drafts

def freshDrafts (feedId : Int) (now : Timestamp) (known : List String) (items : List FeedItem) :
    List Draft :=
  unseen known (items.filterMap fun item => Draft.ofItem? feedId item now)

namespace Run

variable {σ : Type}

def start (feedId : Int) : Run := ⟨feedId, .loading⟩

def goTo (r : Run) (stage : Stage) : Run := { r with stage }

/-- Takes a stage; a change that waited is settled. -/
def step (c : Access σ) (now : Timestamp) (r : Run) (s : σ) : Run × σ :=
  match r.stage with
  | .loading =>
    match c.feed r.feedId s with
    | (.ok feed, s) => (r.goTo (.fetching feed), s)
    | (.error fault, s) => (r.goTo (.finished (.error fault)), s)
  | .fetching _ => (r, s)
  | .describing feed document validators =>
    let described := describe feed document
    if described = feed then (r.goTo (.listing feed document validators), s)
    else match c.updateFeed now described s with
      | (.pending change described, s) =>
        (r.goTo (.noting change described feed document validators), s)
      | (.answered (.ok feed), s) => (r.goTo (.listing feed document validators), s)
      | (.answered (.error _), s) => (r.goTo (.listing feed document validators), s)
  | .noting change described feed document validators =>
    match c.settle change s with
    | (.ok (), s) => (r.goTo (.listing described document validators), s)
    | (.error _, s) => (r.goTo (.listing feed document validators), s)
  | .listing feed document validators =>
    match c.articleUrls r.feedId s with
    | (.ok known, s) =>
      (r.goTo (.creating feed (freshDrafts r.feedId now known document.items) validators), s)
    | (.error fault, s) => (r.goTo (.finished (.error fault)), s)
  | .creating feed [] validators => (r.goTo (.remembering feed [] validators), s)
  | .creating feed fresh validators =>
    match c.createArticles now fresh s with
    | (.pending change created, s) => (r.goTo (.filing change feed created validators), s)
    | (.answered (.ok created), s) => (r.goTo (.remembering feed created validators), s)
    | (.answered (.error fault), s) => (r.goTo (.finished (.error fault)), s)
  | .filing change feed created validators =>
    match c.settle change s with
    | (.ok (), s) => (r.goTo (.remembering feed created validators), s)
    | (.error fault, s) => (r.goTo (.finished (.error fault)), s)
  | .remembering feed created validators =>
    if validators = feed.validators then (r.goTo (.finished (.ok created)), s)
    else
      let marked := { feed with etag := validators.etag, lastModified := validators.lastModified }
      match c.updateFeed now marked s with
      | (.pending change _, s) => (r.goTo (.marking change created), s)
      | (.answered _, s) => (r.goTo (.finished (.ok created)), s)
  | .marking change created => (r.goTo (.finished (.ok created)), (c.settle change s).2)
  | .finished _ => (r, s)

def hear (fetch : Except Fault FeedFetch) (r : Run) : Run :=
  match r.stage with
  | .fetching feed =>
    match fetch with
    | .ok (.fetched document validators) => r.goTo (.describing feed document validators)
    | .ok .notModified => r.goTo (.finished (.ok []))
    | .error fault => r.goTo (.finished (.error fault))
  | _ => r

/-- The run waits, or is over. Settling takes no time where nothing is written. -/
def rests (c : Access σ) (r : Run) (s : σ) : Bool :=
  match r.stage with
  | .fetching _ | .finished _ => true
  | .noting _ _ _ _ _ | .filing _ _ _ _ | .marking _ _ => c.writing s != 0
  | _ => false

/-- The stages that a run may have to take before it waits for a document or is over. -/
def stagesLeft (r : Run) : Nat :=
  match r.stage with
  | .loading => 1
  | .describing _ _ _ => 7
  | .noting _ _ _ _ _ => 6
  | .listing _ _ _ => 5
  | .creating _ _ _ => 4
  | .filing _ _ _ _ => 3
  | .remembering _ _ _ => 2
  | .marking _ _ => 1
  | .fetching _ | .finished _ => 0

def steps (c : Access σ) (now : Timestamp) : Nat → Run → σ → Run × σ
  | 0, r, s => (r, s)
  | n + 1, r, s =>
    if r.rests c s then (r, s)
    else
      let (r, s) := r.step c now s
      steps c now n r s

def proceed (c : Access σ) (now : Timestamp) (r : Run) (s : σ) : Run × σ :=
  steps c now r.stagesLeft r s

def result? (r : Run) : Option (Except Fault (List Article)) :=
  match r.stage with
  | .finished result => some result
  | _ => none

end Run

end FeedIngest.Ingest
