import FeedIngest.Text.Blank

/-!
# Faults

Why an operation of the ingest failed, the wording of each cause, and the causes that no
later attempt can mend.
-/

set_option autoImplicit false

namespace FeedIngest

inductive Fault where
  | notFound (what : String)
  | fetchFailed (reason : String)
  | contentTooLarge (limit : Nat)
  | robotsDenied (url : String)
  | retryExhausted (attempts : Nat) (lastError : String)
  | http (status : Nat) (url : String)
  | timeout (what : String)
  | persistence (reason : String)
  | network (reason : String)
  | payload
  | channelClosed
  | task
deriving DecidableEq, Repr, Inhabited

namespace Fault

def feedNotFound (id : Int) : Fault := .notFound ("feed " ++ Text.decimalInt id)

def articleNotFound (id : Int) : Fault := .notFound ("article " ++ Text.decimalInt id)

def message : Fault → String
  | notFound what => what ++ " not found"
  | fetchFailed reason => "feed fetch failed: " ++ reason
  | contentTooLarge limit => "response exceeded " ++ Text.decimal limit ++ " bytes"
  | robotsDenied url => "robots policy denies " ++ url
  | retryExhausted attempts lastError =>
    "gave up after " ++ Text.decimal attempts ++ " attempts: " ++ lastError
  | http status url => "unexpected HTTP status " ++ Text.decimal status ++ " for " ++ url
  | timeout what => "request timed out: " ++ what
  | persistence reason => "persistence error: " ++ reason
  | network reason => "network error: " ++ reason
  | payload => "invalid job payload"
  | channelClosed => "delivery channel closed"
  | task => "worker task failed"

def isTerminal : Fault → Bool
  | notFound _ | robotsDenied _ | contentTooLarge _ | payload => true
  | _ => false

end Fault

end FeedIngest
