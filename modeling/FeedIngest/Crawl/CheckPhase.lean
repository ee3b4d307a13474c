import FeedIngest.Text.Blank

/-!
# Phases of an update check

A check is pending, asks the robots rules, and then makes numbered attempts, until it
succeeds, is denied or has exhausted its attempts.
-/

set_option autoImplicit false

namespace FeedIngest.Crawl

inductive CheckPhase where
  | pending
  | robotsCheck
  | denied
  | attempt (number : Nat)
  | success
  | exhausted
deriving DecidableEq, Repr

def CheckPhase.label : CheckPhase → String
  | pending => "pending"
  | robotsCheck => "robots-check"
  | denied => "denied"
  | attempt n => "fetch-attempt-" ++ Text.decimal n
  | success => "success"
  | exhausted => "exhausted"

end FeedIngest.Crawl
