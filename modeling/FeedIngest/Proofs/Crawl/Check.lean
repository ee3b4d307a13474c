import FeedIngest.Crawl.Check
import FeedIngest.Proofs.Backoff

/-!
# Checks at a steady server

A server is steady if it answers every request for a document with the document as it is, or says
that it is as it was named in the request. A check of such a document comes to nothing only if the
request cannot be made, or if the document has to be read and cannot be. Otherwise it leaves
validators with which every later check finds the document unchanged.
-/

set_option autoImplicit false

namespace FeedIngest.Web

open Catalog (Validators)

/-! ## Validators that come back -/

private theorem utf8EncodeChar_byte : ∀ n : Fin 127,
    String.utf8EncodeChar (Char.ofNat n) = [UInt8.ofNat n] := by
  decide

private theorem isHeaderByte_of_visible {b : UInt8}
    (visible : (isHeaderBlank b || (0x21 ≤ b && b ≤ 0x7E)) = true) :
    b.toNat < 127 ∧ isHeaderByte b = true := by
  simp only [isHeaderBlank, isHeaderByte, Bool.or_eq_true, Bool.and_eq_true, beq_iff_eq, bne_iff_ne,
    decide_eq_true_eq, UInt8.le_iff_toNat_le, ne_eq, ← UInt8.toNat_inj, UInt8.reduceToNat]
    at visible ⊢
  omega

/-- The text of a header may be sent in a header. -/
theorem isHeaderText_headerText {r : Response} {name text : String}
    (told : r.headerText? name = some text) : isHeaderText text = true := by
  obtain ⟨value, _, read⟩ := Option.bind_eq_some_iff.mp told
  split at read
  · next visible =>
    cases read
    rw [isHeaderText, String.toList_ofList, Text.Utf8.encode, List.flatMap_map, List.all_flatMap]
    refine List.all_eq_true.mpr fun b member => ?_
    obtain ⟨small, fine⟩ := isHeaderByte_of_visible (List.all_eq_true.mp visible b member)
    rw [utf8EncodeChar_byte ⟨b.toNat, small⟩, UInt8.ofNat_toNat]
    simpa using fine
  · cases read

private theorem areSendable_validators (r : Response) : areSendable r.validators = true := by
  refine Bool.and_eq_true_iff.mpr ⟨?_, ?_⟩ <;>
    exact (Option.all_eq_true _ _).mpr fun text told => isHeaderText_headerText told

variable {σ : Type}

/-- Validators that may not be sent are not sent. -/
theorem send_of_not_sendable (c : Client σ) (method : RequestMethod) (url : Url) {v : Validators}
    (kept : areSendable v = false) (s : σ) :
    ∃ fault, (c.send method url v s).1 = .error fault ∧ fault.isTransient = false := by
  have made : ∃ fault, Request.make method url v = .error fault ∧ fault.isTransient = false := by
    unfold Request.make
    split
    · exact ⟨_, rfl, rfl⟩
    · rw [kept]
      exact ⟨_, rfl, rfl⟩
  obtain ⟨fault, made, final⟩ := made
  refine ⟨fault, ?_, final⟩
  rw [Client.send, made]

end FeedIngest.Web

namespace FeedIngest.Crawl.CheckPlan

open Catalog (Article Validators)
open Web (Client RequestMethod Response)

variable {σ : Type}

/-- A server that answers every request for a document with the version that it has, or says that it
is the one that the request names. -/
structure Steady (c : Client σ) (method : RequestMethod) (url : Url) (version : Validators)
    (reply : Validators → Response) : Prop where
  known : version.isEmpty = false
  answers : ∀ named s, Web.areSendable named = true →
    (c.send method url named s).1 = .ok (reply named)
  replies : ∀ named, (reply named).status = Web.Status.notModified ∨
    Web.Status.isSuccess (reply named).status = true ∧ (reply named).validators = version

/-- A check can be made: an attempt is allowed, the request may be sent, and the body can be read if
it has to be. -/
structure Checkable (p : CheckPlan) (reply : Validators → Response) (stored : Validators) :
    Prop where
  attempted : 0 < p.backoff.maxAttempts
  sendable : Web.areSendable stored = true
  readable : p.method = .get → (reply stored).status ≠ Web.Status.notModified →
    (reply stored).validators ≠ stored → ∃ body, (reply stored).readCapped p.limit = .ok body

/-- A request with these validators is answered by them, or by saying that they stand. -/
structure Settled (reply : Validators → Response) (stored : Validators) : Prop where
  sendable : Web.areSendable stored = true
  same : (reply stored).status = Web.Status.notModified ∨ (reply stored).validators = stored

section Steady

variable {p : CheckPlan} {c : Client σ} {url : Url} {version stored : Validators}
  {reply : Validators → Response} {factor : Nat → JitterFactor}

theorem attempt_steady (steady : Steady c p.method url version reply)
    (sendable : Web.areSendable stored = true) (s : σ) :
    (p.attempt c url stored s).1 = p.responseOutcome url stored (reply stored) := by
  have answered := steady.answers stored s sendable
  unfold attempt
  rcases sent : c.send p.method url stored s with ⟨result, after⟩
  rw [sent] at answered
  obtain rfl : result = .ok (reply stored) := answered
  rfl

theorem request_ok (attempted : 0 < p.backoff.maxAttempts)
    (steady : Steady c p.method url version reply) (sendable : Web.areSendable stored = true)
    {finding : Staleness} (found : p.responseOutcome url stored (reply stored) = .ok finding)
    (s : σ) : (p.request c factor url stored s).1 = .ok finding := by
  have told : (p.attempt c url stored s).1 = .ok finding :=
    (attempt_steady steady sendable s).trans found
  have final : (p.attempt c url stored s).1.IsFinal := by
    rw [told]
    trivial
  rw [request, Backoff.run, Backoff.runFrom_of_final attempted final, told]
  rfl

theorem Steady.responseOutcome_changed (steady : Steady c p.method url version reply)
    (modified : (reply stored).status ≠ Web.Status.notModified)
    (differs : (reply stored).validators ≠ stored) :
    p.responseOutcome url stored (reply stored) = p.changedOutcome (reply stored) := by
  have success := ((steady.replies stored).resolve_left modified).1
  rw [responseOutcome, if_neg modified, success, if_neg Bool.noConfusion,
    if_neg fun both => differs both.2]

theorem Settled.outcome (settled : Settled reply stored)
    (steady : Steady c p.method url version reply) :
    p.responseOutcome url stored (reply stored) = .ok .unchanged := by
  unfold responseOutcome
  split
  · rfl
  · next modified =>
    have same : (reply stored).validators = stored := settled.same.resolve_left modified
    obtain ⟨success, current⟩ := (steady.replies stored).resolve_left modified
    have known : stored.isEmpty = false := same ▸ current ▸ steady.known
    rw [success, if_neg Bool.noConfusion, if_pos ⟨by rw [known]; rfl, same⟩]

/-- A check that can be made leaves validators with which the document is found unchanged. -/
theorem Checkable.outcome (checkable : p.Checkable reply stored)
    (steady : Steady c p.method url version reply) :
    ∃ finding, p.responseOutcome url stored (reply stored) = .ok finding ∧
      (finding = .unchanged ∧ Settled reply stored ∨
        ∃ content, finding = .changed version content ∧ Settled reply version) := by
  by_cases settled : (reply stored).status = Web.Status.notModified ∨
    (reply stored).validators = stored
  · have settled : Settled reply stored := ⟨checkable.sendable, settled⟩
    exact ⟨.unchanged, settled.outcome steady, .inl ⟨rfl, settled⟩⟩
  · obtain ⟨modified, differs⟩ := not_or.mp settled
    obtain ⟨_, rfl⟩ := (steady.replies stored).resolve_left modified
    have after : Settled reply (reply stored).validators :=
      ⟨Web.areSendable_validators _, (steady.replies _).imp_right And.right⟩
    rw [steady.responseOutcome_changed modified differs, changedOutcome]
    cases method : p.method with
    | head => exact ⟨_, rfl, .inr ⟨none, rfl, after⟩⟩
    | get =>
      obtain ⟨body, read⟩ := checkable.readable method modified differs
      rw [read]
      exact ⟨_, rfl, .inr ⟨_, rfl, after⟩⟩

private theorem webOutcome_fails {α : Type} (fault : Web.WebFault) :
    ∃ told : Fault, (webOutcome fault : Backoff.Outcome α) = .permanent told ∧
        (∀ link, told ≠ .robotsDenied link) ∨
      (webOutcome fault : Backoff.Outcome α) = .transient told := by
  refine ⟨.network fault.message, ?_⟩
  unfold webOutcome
  split
  · exact .inr rfl
  · exact .inl ⟨rfl, nofun⟩

/-- A body that has to be read and cannot be makes the attempt fail. -/
theorem responseOutcome_fails (steady : Steady c p.method url version reply)
    (unreadable : ¬(p.method = .get → (reply stored).status ≠ Web.Status.notModified →
      (reply stored).validators ≠ stored → ∃ body, (reply stored).readCapped p.limit = .ok body)) :
    ∃ fault : Fault, p.responseOutcome url stored (reply stored) = .permanent fault ∧
        (∀ link, fault ≠ .robotsDenied link) ∨
      p.responseOutcome url stored (reply stored) = .transient fault := by
  simp only [Classical.not_imp] at unreadable
  obtain ⟨method, modified, differs, unread⟩ := unreadable
  rw [steady.responseOutcome_changed modified differs, changedOutcome, method]
  cases read : (reply stored).readCapped p.limit with
  | ok body => exact absurd ⟨body, read⟩ unread
  | error fault =>
    cases fault with
    | tooLarge limit => exact ⟨_, .inl ⟨rfl, nofun⟩⟩
    | web fault => exact webOutcome_fails fault

/-- A check that cannot be made fails, and not because the rules deny it. -/
theorem request_error (factor : Nat → JitterFactor) (steady : Steady c p.method url version reply)
    (not : ¬p.Checkable reply stored) (s : σ) :
    ∃ fault, (p.request c factor url stored s).1 = .error fault ∧
      ∀ link, fault ≠ .robotsDenied link := by
  by_cases attempted : 0 < p.backoff.maxAttempts
  · refine Backoff.runFrom_error (fun _ _ _ => nofun) (fun n s => ?_) _ _
    by_cases sendable : Web.areSendable stored = true
    · rw [attempt_steady steady sendable]
      exact responseOutcome_fails steady fun readable => not ⟨attempted, sendable, readable⟩
    · obtain ⟨fault, refused, final⟩ :=
        Web.send_of_not_sendable c p.method url (Bool.eq_false_iff.mpr sendable) s
      refine ⟨.network fault.message, .inl ⟨?_, nofun⟩⟩
      unfold attempt
      rcases sent : c.send p.method url stored s with ⟨result, after⟩
      rw [sent] at refused
      obtain rfl : result = .error fault := refused
      simp [webOutcome, final]
  · rw [request, Backoff.run, Backoff.runFrom_of_le (Nat.not_lt.mp attempted)]
    exact ⟨_, rfl, nofun⟩

/-- An article that may be fetched is checked by a request with the validators that are stored. -/
theorem checkArticle_of_allowed (factor : Nat → JitterFactor) {article : Article}
    {desk : RobotsDesk σ} {now : Nat} (link : Url.parse article.url = .ok url)
    (allowed : (p.mayFetch c now url desk).1 = true) :
    ∃ s, (p.checkArticle c factor now article desk).1 =
      (p.request c factor url article.validators s).1 := by
  rcases asked : p.mayFetch c now url desk with ⟨answer, after⟩
  rw [asked] at allowed
  obtain rfl : answer = true := allowed
  refine ⟨after.source, ?_⟩
  rw [checkArticle, check, link]
  simp only [checkUrl, asked]

end Steady

end FeedIngest.Crawl.CheckPlan
