import FeedIngest.Url.Reference
import FeedIngest.Web.Body
import FeedIngest.Web.Status

/-!
# Clients

A client sends requests over some transport and follows redirects, but not more than five in a
row. A redirect carries the conditions of the request along; one that leads nowhere is the
response.
-/

set_option autoImplicit false

namespace FeedIngest.Web

open Catalog (Validators)

abbrev Transport (σ : Type) := Request → σ → Reply × σ

structure Client (σ : Type) where
  transport : Transport σ
  /-- How many milliseconds a request may take. -/
  timeout : Nat

def redirectLimit : Nat := 5

def hasHost (url : Url) : Bool := url.authority.any fun a => a.host != .other ""

def urlLimit : Nat := 65534

def isWritable (url : Url) : Bool :=
  let hosts := url.authority.toList.flatMap fun a => a.hostText.toList
  !hosts.any (['"', '`', '\x7b', '\x7d'].contains ·) &&
    url.withoutUserinfo.text.utf8ByteSize ≤ urlLimit

def isSupported (url : Url) : Bool :=
  (url.scheme == "http" || url.scheme == "https") && isWritable url

def Request.make (method : RequestMethod) (url : Url) (validators : Validators) :
    Except WebFault Request :=
  if !hasHost url then .error (.unsupported url)
  else if !areSendable validators then .error .malformed
  else if !isSupported url then .error (.unsupported url)
  else .ok ⟨method, url, validators⟩

def Response.target? (r : Response) (url : Url) : Option Url :=
  if Status.redirects.contains r.status then
    ((r.header? "location").bind Text.Utf8.string?).bind fun reference =>
      (url.resolve reference).toOption
  else none

variable {σ : Type}

def Client.deliver (c : Client σ) : Nat → Request → σ → Except WebFault Response × σ
  | allowed, request, s =>
    match c.transport request s with
    | (.dropped, s) => (.error (.dropped request.url), s)
    | (.silence, s) => (.error (.unanswered request.url), s)
    | (.response r, s) =>
      match r.target? request.url, allowed with
      | none, _ => (.ok r, s)
      | some _, 0 => (.error (.tooManyRedirects request.url), s)
      | some url, allowed + 1 =>
        if isSupported url then c.deliver allowed { request with url } s
        else (.error (.unsupported url), s)

def Client.send (c : Client σ) (method : RequestMethod) (url : Url) (validators : Validators)
    (s : σ) : Except WebFault Response × σ :=
  match Request.make method url validators with
  | .error fault => (.error fault, s)
  | .ok request => c.deliver redirectLimit request s

def Client.sendText (c : Client σ) (method : RequestMethod) (text : String)
    (validators : Validators) (s : σ) : Except WebFault Response × σ :=
  match Url.parse text with
  | .ok url => c.send method url validators s
  | .error _ => (.error .malformed, s)

end FeedIngest.Web
