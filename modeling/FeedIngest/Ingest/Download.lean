import FeedIngest.Ingest.Service
import FeedIngest.Syndication.Document
import FeedIngest.Web.Client

/-!
# Downloads

Feed documents come over the web. A server that is asked with validators may answer that the
document is the same; whatever else is no success is a fault, and so is a document that is too
large, cannot be read, or does not come before a deadline.
-/

set_option autoImplicit false

namespace FeedIngest.Ingest

open Catalog (Validators)
open Syndication (FeedDocument)
open Web (Client Response)

structure DownloadPlan where
  limit : Nat
  /-- How many milliseconds a download may take. -/
  deadline : Nat

namespace DownloadPlan

def documentOf (p : DownloadPlan) (r : Response) : Except Fault FeedDocument :=
  match r.readCapped p.limit with
  | .ok body => FeedDocument.parse body
  | .error (.tooLarge limit) => .error (.contentTooLarge limit)
  | .error (.web fault) => .error (.fetchFailed fault.message)

def fetchOf (p : DownloadPlan) (url : String) (stored : Validators) (r : Response) :
    Except Fault FeedFetch :=
  if r.status = Web.Status.notModified ∧ !stored.isEmpty then .ok .notModified
  else if !Web.Status.isSuccess r.status then
    .error (.fetchFailed ("HTTP " ++ Web.Status.line r.status ++ " from " ++ url))
  else (p.documentOf r).map fun document => .fetched document r.validators

/-- The fault that stops the reading of a response, if any. -/
def bodyFault? (p : DownloadPlan) (r : Response) : Option Web.WebFault :=
  match r.readCapped p.limit with
  | .error (.web fault) => some fault
  | _ => none

def lateFault (url : String) : Fault := .fetchFailed ("timed out fetching " ++ url)

variable {σ : Type}

/-- What a fault of the web comes to that lasts as long as a request may take, unless the
deadline is over before. -/
def waitOut (p : DownloadPlan) (c : Client σ) (url : String) (result : Except Fault FeedFetch) :
    Nat × Except Fault FeedFetch :=
  if p.deadline < c.timeout then (p.deadline, .error (lateFault url)) else (c.timeout, result)

/-- Downloads the document of a link: how long it takes, and what comes of it. -/
def download (p : DownloadPlan) (c : Client σ) (url : String) (stored : Validators) (s : σ) :
    (Nat × Except Fault FeedFetch) × σ :=
  match c.sendText .get url stored s with
  | (.error fault, s) =>
    let result := .error (.fetchFailed fault.message)
    (if fault.isTimeout then p.waitOut c url result else (0, result), s)
  | (.ok r, s) =>
    let result := p.fetchOf url stored r
    let isSlow := Web.Status.isSuccess r.status && (p.bodyFault? r).any (·.isTimeout)
    (if isSlow then p.waitOut c url result else (0, result), s)

/-- Downloads the document of a link that is not known yet. -/
def downloadDocument (p : DownloadPlan) (c : Client σ) (url : String) (s : σ) :
    Except Fault FeedDocument × σ :=
  match p.download c url .none s with
  | ((_, .ok (.fetched document _)), s) => (.ok document, s)
  | ((_, .ok .notModified), s) => (.error (.fetchFailed ("unexpected 304 from " ++ url)), s)
  | ((_, .error fault), s) => (.error fault, s)

def source (p : DownloadPlan) (c : Client σ) : FeedSource σ := fun _ url stored s =>
  let ((waited, result), s) := p.download c url stored s
  ((some waited, result), s)

end DownloadPlan

end FeedIngest.Ingest
