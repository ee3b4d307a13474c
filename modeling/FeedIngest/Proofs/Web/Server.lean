import FeedIngest.Web.Client

/-!
# Servers

A server is given by its reply to a request, which may depend on all the requests that it was sent
before. Its client keeps the list of them, so that one can tell what was sent.
-/

set_option autoImplicit false

namespace FeedIngest.Web

open Catalog (Validators)

abbrev Server := List Request → Request → Reply

/-- The client of a server. Its state are the requests that were sent, the first one first. -/
def Server.client (server : Server) (timeout : Nat) : Client (List Request) where
  transport request sent := (server sent request, sent ++ [request])
  timeout := timeout

namespace Reply

/-- What is received of a reply that sends nobody elsewhere. -/
def received (url : Url) : Reply → Except WebFault Response
  | response r => .ok r
  | dropped => .error (.dropped url)
  | silence => .error (.unanswered url)

def IsDirect (url : Url) : Reply → Prop
  | response r => r.target? url = none
  | dropped => True
  | silence => True

end Reply

theorem Request.eq_of_make {method : RequestMethod} {url : Url} {named : Validators}
    {request : Request} (made : Request.make method url named = .ok request) :
    request = ⟨method, url, named⟩ := by
  unfold Request.make at made
  split at made
  · cases made
  · split at made
    · cases made
    · split at made
      · cases made
      · cases made
        rfl

namespace Server

variable {server : Server} {timeout : Nat} {method : RequestMethod} {url : Url}
  {named : Validators} {sent : List Request}

theorem send_of_error {fault : WebFault} (unmade : Request.make method url named = .error fault) :
    (server.client timeout).send method url named sent = (.error fault, sent) := by
  simp only [Client.send, unmade]

theorem send_of_direct {request : Request} (made : Request.make method url named = .ok request)
    (direct : (server sent request).IsDirect url) :
    (server.client timeout).send method url named sent =
      ((server sent request).received url, sent ++ [request]) := by
  have aim : request.url = url := by rw [Request.eq_of_make made]
  simp only [Client.send, made]
  unfold Client.deliver
  cases replied : server sent request with
  | response r =>
    rw [replied] at direct
    have stays : r.target? request.url = none := by rw [aim]; exact direct
    simp only [client, replied, stays, Reply.received]
  | dropped => simp only [client, replied, aim, Reply.received]
  | silence => simp only [client, replied, aim, Reply.received]

end Server

end FeedIngest.Web
