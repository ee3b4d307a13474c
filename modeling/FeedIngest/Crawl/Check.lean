import FeedIngest.Backoff
import FeedIngest.Crawl.CheckPhase
import FeedIngest.Crawl.Robots.Fetch
import FeedIngest.Crawl.Staleness
import FeedIngest.Settings

/-!
# Update checks

A check finds out whether a document has changed since it was stored. It asks the robots rules
first, and then the server, with the validators that are stored; attempts that fail for a
reason that may pass are repeated. A server that ignores the validators but names the same ones
has an unchanged document.
-/

set_option autoImplicit false

namespace FeedIngest.Crawl

open Catalog (Article Validators)
open Web (Client RequestMethod Response WebFault)

structure CheckPlan where
  method : RequestMethod
  backoff : Backoff
  limit : Nat
  agent : String
  respectRobots : Bool

def CheckPlan.ofSettings (s : Settings) (method : RequestMethod) : CheckPlan where
  method := method
  backoff := s.backoff
  limit := s.maxContentBytes
  agent := RobotsRules.agentToken s.userAgent
  respectRobots := s.respectRobots

namespace CheckPlan

def webOutcome {α : Type} (fault : WebFault) : Backoff.Outcome α :=
  if fault.isTransient then .transient (.network fault.message)
  else .permanent (.network fault.message)

def statusOutcome {α : Type} (status : Nat) (url : Url) : Backoff.Outcome α :=
  if isRetryableStatus status then .transient (.http status url.text)
  else .permanent (.http status url.text)

def changedOutcome (p : CheckPlan) (r : Response) : Backoff.Outcome Staleness :=
  match p.method with
  | .head => .ok (.changed r.validators none)
  | .get =>
    match r.readCapped p.limit with
    | .ok body => .ok (.changed r.validators (some (Text.Utf8.stringLossy body)))
    | .error (.tooLarge limit) => .permanent (.contentTooLarge limit)
    | .error (.web fault) => webOutcome fault

def responseOutcome (p : CheckPlan) (url : Url) (stored : Validators) (r : Response) :
    Backoff.Outcome Staleness :=
  if r.status = Web.Status.notModified then .ok .unchanged
  else if !Web.Status.isSuccess r.status then statusOutcome r.status url
  else if !stored.isEmpty ∧ r.validators = stored then .ok .unchanged
  else p.changedOutcome r

variable {σ : Type}

/-- One attempt: a conditional request and what its answer means. -/
def attempt (p : CheckPlan) (c : Client σ) (url : Url) (stored : Validators) (s : σ) :
    Backoff.Outcome Staleness × σ :=
  match c.send p.method url stored s with
  | (.ok r, s) => (p.responseOutcome url stored r, s)
  | (.error fault, s) => (webOutcome fault, s)

def request (p : CheckPlan) (c : Client σ) (factor : Nat → JitterFactor) (url : Url)
    (stored : Validators) (s : σ) : Except Fault Staleness × σ :=
  p.backoff.run factor (fun _ => p.attempt c url stored) (fun _ s => s) s

def mayFetch (p : CheckPlan) (c : Client σ) (now : Nat) (url : Url) (desk : RobotsDesk σ) :
    Bool × RobotsDesk σ :=
  if p.respectRobots then
    let (_, decisions, desk) :=
      desk.askAll (rulesSource c) now (now + Time.patience) [url.origin]
    (decisions.any fun d => d.any fun d => RobotsDesk.allowsUrl d url p.agent, desk)
  else (true, desk)

def checkUrl (p : CheckPlan) (c : Client σ) (factor : Nat → JitterFactor) (now : Nat) (url : Url)
    (stored : Validators) (desk : RobotsDesk σ) : Except Fault Staleness × RobotsDesk σ :=
  match p.mayFetch c now url desk with
  | (false, desk) => (.error (.robotsDenied url.text), desk)
  | (true, desk) =>
    let (result, source) := p.request c factor url stored desk.source
    (result, { desk with source })

def linkFault (link : String) (fault : Url.Fault) : Fault :=
  .fetchFailed ("invalid URL " ++ link ++ ": " ++ fault.message)

def check (p : CheckPlan) (c : Client σ) (factor : Nat → JitterFactor) (now : Nat) (link : String)
    (stored : Validators) (desk : RobotsDesk σ) : Except Fault Staleness × RobotsDesk σ :=
  match Url.parse link with
  | .ok url => p.checkUrl c factor now url stored desk
  | .error fault => (.error (linkFault link fault), desk)

def checkArticle (p : CheckPlan) (c : Client σ) (factor : Nat → JitterFactor) (now : Nat)
    (article : Article) (desk : RobotsDesk σ) : Except Fault Staleness × RobotsDesk σ :=
  p.check c factor now article.url article.validators desk

end CheckPlan

end FeedIngest.Crawl
