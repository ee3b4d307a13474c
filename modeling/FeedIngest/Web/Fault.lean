import FeedIngest.Url.Parse

/-!
# Faults of the web

Why there is no response to a request, or no whole body.
-/

set_option autoImplicit false

namespace FeedIngest.Web

inductive WebFault where
  /-- There is no such URL, or a header cannot be written. -/
  | malformed
  | unsupported (url : Url)
  | dropped (url : Url)
  | unanswered (url : Url)
  | tooManyRedirects (url : Url)
  | bodyCut
  | bodyUnfinished
deriving DecidableEq, Repr

namespace WebFault

/-- The wording of a fault. A URL is told without its user name and password. -/
def message : WebFault → String
  | malformed => "builder error"
  | unsupported url => "builder error for url (" ++ url.withoutUserinfo.text ++ ")"
  | dropped url | unanswered url =>
    "error sending request for url (" ++ url.withoutUserinfo.text ++ ")"
  | tooManyRedirects url =>
    "error following redirect for url (" ++ url.withoutUserinfo.text ++ ")"
  | bodyCut | bodyUnfinished => "error decoding response body"

def isTransient : WebFault → Bool
  | dropped _ | unanswered _ | bodyUnfinished => true
  | _ => false

def isTimeout : WebFault → Bool
  | unanswered _ | bodyUnfinished => true
  | _ => false

end WebFault

end FeedIngest.Web
