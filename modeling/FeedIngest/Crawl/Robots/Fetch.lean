import FeedIngest.Crawl.Robots.Desk
import FeedIngest.Web.Client

/-!
# Fetching robots rules

The rules of an origin are in one file of a fixed place. An origin that says it has no such
file allows everything.
-/

set_option autoImplicit false

namespace FeedIngest.Crawl

open Web (Client Response)

/-- More bytes than this are not read of a rules file. -/
def rulesLimit : Nat := 512 * 1024

def rulesUrl (origin : String) : String :=
  String.ofList (Text.dropEnd (· == '/') origin.toList) ++ "/robots.txt"

def bodyFault : Web.BodyFault → Fault
  | .tooLarge limit => .contentTooLarge limit
  | .web fault => .network fault.message

def rulesOf (url : String) (r : Response) : Except Fault RobotsRules :=
  if Web.Status.isClientError r.status then .ok .allowAll
  else if !Web.Status.isSuccess r.status then .error (.http r.status url)
  else match r.readCapped rulesLimit with
    | .ok body => .ok (.parse (Text.Utf8.stringLossy body))
    | .error fault => .error (bodyFault fault)

variable {σ : Type}

def fetchRules (c : Client σ) (origin : String) (s : σ) : Except Fault RobotsRules × σ :=
  match c.sendText .get (rulesUrl origin) .none s with
  | (.ok r, s) => (rulesOf (rulesUrl origin) r, s)
  | (.error fault, s) => (.error (.network fault.message), s)

def rulesSource (c : Client σ) : RobotsSource σ := fun origin s =>
  let (answer, s) := fetchRules c origin s
  ((0, answer), s)

end FeedIngest.Crawl
