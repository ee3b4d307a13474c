import FeedIngest.Crawl.Check
import FeedIngest.Proofs.Backoff
import FeedIngest.Proofs.Time.Clockwork
import FeedIngest.Proofs.Web.Body
import FeedIngest.Proofs.Web.Server

/-!
# The course of a check

What a check sends and answers is told by what its attempts come upon: some answers conclude the
check, one way for each of them, and after the others the same request is sent again until the
attempts are used up. Whether a document may be asked for at all is found out first.
-/

set_option autoImplicit false

namespace FeedIngest.Crawl

open Catalog (Validators)
open Time (Clockwork)
open Web (Client Request RequestMethod Response Server WebFault)

/-! ## Asking for permission -/

namespace RobotsDesk

variable {σ : Type}

private theorem source_wake (now : Nat) (d : RobotsDesk σ) : (wake now d).source = d.source := by
  have finishes : ∀ (fetches : List RobotsFetch) (d : RobotsDesk σ),
      (fetches.foldl (finish now) d).source = d.source := by
    intro fetches
    induction fetches with
    | nil => exact fun _ => rfl
    | cons fetch fetches ih => exact fun d => ih (finish now d fetch)
  exact finishes _ d

private theorem source_leave (callers : List Nat) (d : RobotsDesk σ) :
    (callers.foldl (fun d caller => leave caller d) d).source = d.source := by
  induction callers generalizing d with
  | nil => rfl
  | cons caller callers ih => exact ih (leave caller d)

private theorem source_look (fetch : RobotsSource σ) (now : Nat) (caller : RobotsCaller)
    (d : RobotsDesk σ) :
    (look fetch now caller d).source = d.source ∨
      (look fetch now caller d).source = (fetch caller.origin d.source).2 := by
  unfold look
  split
  split
  · exact .inl rfl
  · exact .inl rfl
  · exact .inr rfl

/-- Whoever asks about one origin has its rules fetched once at most. -/
theorem source_askAll (fetch : RobotsSource σ) (now limit : Nat) (origin : String)
    (d : RobotsDesk σ) :
    (d.askAll fetch now limit [origin]).2.2.source = d.source ∨
      (d.askAll fetch now limit [origin]).2.2.source = (fetch origin d.source).2 := by
  have waits : ∀ done last (d : RobotsDesk σ),
      (clockwork.runUntil done now limit last d).2.source = d.source := by
    intro done last d
    apply Eq.symm
    apply Clockwork.runUntil_leads (fun before after : RobotsDesk σ => before.source = after.source)
    · exact fun _ => rfl
    · exact fun _ _ _ => Eq.trans
    · exact fun now d => (source_wake now d).symm
  unfold askAll
  simp only [source_leave, waits]
  show (wake now (look fetch now ⟨0, origin⟩ { d with answered := [] })).source = _ ∨
    (wake now (look fetch now ⟨0, origin⟩ { d with answered := [] })).source = _
  rw [source_wake]
  exact source_look fetch now ⟨0, origin⟩ { d with answered := [] }

end RobotsDesk

private theorem rulesSource_snd {σ : Type} (c : Client σ) (origin : String) (s : σ) :
    (rulesSource c origin s).2 = (fetchRules c origin s).2 := by
  unfold rulesSource
  cases fetchRules c origin s
  rfl

namespace CheckPlan

private theorem source_mayFetch {σ : Type} (p : CheckPlan) (c : Client σ) (now : Nat) (url : Url)
    (desk : RobotsDesk σ) :
    (p.mayFetch c now url desk).2.source = desk.source ∨
      (p.mayFetch c now url desk).2.source = (fetchRules c url.origin desk.source).2 := by
  have asks := RobotsDesk.source_askAll (rulesSource c) now (now + Time.patience) url.origin desk
  rw [rulesSource_snd] at asks
  unfold mayFetch
  generalize desk.askAll (rulesSource c) now (now + Time.patience) [url.origin] = asked at asks ⊢
  obtain ⟨moment, decisions, after⟩ := asked
  cases p.respectRobots with
  | true => exact asks
  | false => exact .inl rfl

/-! ## What an attempt comes upon -/

section Answers

variable (p : CheckPlan) (url : Url) (stored : Validators)

/-- A response that brings a version of the document, and does not name the one that is stored. -/
structure IsNew (stored : Validators) (r : Response) : Prop where
  success : 200 ≤ r.status ∧ r.status < 300
  differs : ¬(stored.isEmpty = false ∧ r.validators = stored)

/-- What an attempt comes upon that concludes the check, and what the check then answers. -/
inductive Concludes : Except WebFault Response → Except Fault Staleness → Prop where
  | notModified {r : Response} (is : r.status = 304) : Concludes (.ok r) (.ok .unchanged)
  | same {r : Response} (success : 200 ≤ r.status ∧ r.status < 300)
      (known : stored.isEmpty = false) (same : r.validators = stored) :
      Concludes (.ok r) (.ok .unchanged)
  | probed {r : Response} (is : IsNew stored r) (method : p.method = .head) :
      Concludes (.ok r) (.ok (.changed r.validators none))
  | read {r : Response} (is : IsNew stored r) (method : p.method = .get)
      (fits : ¬r.Exceeds p.limit) (complete : r.ending = .complete) :
      Concludes (.ok r)
        (.ok (.changed r.validators (some (Text.Utf8.stringLossy r.pieces.flatten))))
  | tooLarge {r : Response} (is : IsNew stored r) (method : p.method = .get)
      (exceeds : r.Exceeds p.limit) : Concludes (.ok r) (.error (.contentTooLarge p.limit))
  | cut {r : Response} (is : IsNew stored r) (method : p.method = .get)
      (fits : ¬r.Exceeds p.limit) (cut : r.ending = .cut) :
      Concludes (.ok r) (.error (.network WebFault.bodyCut.message))
  | refused {r : Response} (modified : r.status ≠ 304)
      (fails : ¬(200 ≤ r.status ∧ r.status < 300))
      (final : ¬(500 ≤ r.status ∧ r.status < 600 ∨ r.status = 429)) :
      Concludes (.ok r) (.error (.http r.status url.text))
  | failed {fault : WebFault} (final : fault.isTransient = false) :
      Concludes (.error fault) (.error (.network fault.message))

/-- What an attempt comes upon that is worth another attempt, and what is wrong with it. -/
inductive Passes : Except WebFault Response → Fault → Prop where
  | busy {r : Response} (busy : 500 ≤ r.status ∧ r.status < 600 ∨ r.status = 429) :
      Passes (.ok r) (.http r.status url.text)
  | unfinished {r : Response} (is : IsNew stored r) (method : p.method = .get)
      (fits : ¬r.Exceeds p.limit) (unfinished : r.ending = .unfinished) :
      Passes (.ok r) (.network WebFault.bodyUnfinished.message)
  | failed {fault : WebFault} (transient : fault.isTransient = true) :
      Passes (.error fault) (.network fault.message)

def outcome : Except WebFault Response → Backoff.Outcome Staleness
  | .ok r => p.responseOutcome url stored r
  | .error fault => webOutcome fault

/-- A result that was not arrived at by using up all attempts. -/
def settled : Except Fault Staleness → Backoff.Outcome Staleness
  | .ok value => .ok value
  | .error fault => .permanent fault

end Answers

section Outcomes

variable {p : CheckPlan} {url : Url} {stored : Validators}
  {answer : Except WebFault Response} {r : Response}

theorem isSuccess_of_bounds {status : Nat} (success : 200 ≤ status ∧ status < 300) :
    Web.Status.isSuccess status = true := by
  simp [Web.Status.isSuccess, success]

theorem responseOutcome_of_isNew (is : IsNew stored r) :
    p.responseOutcome url stored r = p.changedOutcome r := by
  have modified : r.status ≠ Web.Status.notModified := by
    have := is.success
    simp only [Web.Status.notModified]
    omega
  have known : ¬((!stored.isEmpty) = true ∧ r.validators = stored) := by
    simpa using is.differs
  rw [responseOutcome, if_neg modified, isSuccess_of_bounds is.success, if_neg Bool.noConfusion,
    if_neg known]

theorem changedOutcome_of_fits (method : p.method = .get) (fits : ¬r.Exceeds p.limit) :
    p.changedOutcome r = match r.ending.close r.pieces.flatten with
      | .ok body => .ok (.changed r.validators (some (Text.Utf8.stringLossy body)))
      | .error (.tooLarge limit) => .permanent (.contentTooLarge limit)
      | .error (.web fault) => webOutcome fault := by
  rewrite [changedOutcome, method, Response.readCapped_of_fits fits]
  rfl

theorem responseOutcome_of_status (modified : r.status ≠ 304)
    (fails : ¬(200 ≤ r.status ∧ r.status < 300)) :
    p.responseOutcome url stored r = statusOutcome r.status url := by
  have failure : Web.Status.isSuccess r.status = false := by
    simpa [Web.Status.isSuccess] using fails
  have notModified : r.status ≠ Web.Status.notModified := modified
  rw [responseOutcome, if_neg notModified, failure]
  rfl

theorem isRetryableStatus_eq (status : Nat) :
    isRetryableStatus status = decide (500 ≤ status ∧ status < 600 ∨ status = 429) := by
  simp only [isRetryableStatus, Bool.decide_or, Bool.decide_and]
  rfl

theorem Concludes.outcome {result : Except Fault Staleness}
    (concludes : p.Concludes url stored answer result) :
    p.outcome url stored answer = settled result := by
  cases concludes with
  | notModified is => exact if_pos is
  | @same r success known same =>
    have modified : r.status ≠ Web.Status.notModified := by
      simp only [Web.Status.notModified]
      omega
    rw [CheckPlan.outcome, responseOutcome, if_neg modified, isSuccess_of_bounds success,
      if_neg Bool.noConfusion, if_pos ⟨by rw [known]; rfl, same⟩]
    rfl
  | probed is method =>
    rw [CheckPlan.outcome, responseOutcome_of_isNew is]
    simp only [changedOutcome, method]
    rfl
  | read is method fits complete =>
    rw [CheckPlan.outcome, responseOutcome_of_isNew is, changedOutcome_of_fits method fits,
        complete]
    rfl
  | tooLarge is method exceeds =>
    rw [CheckPlan.outcome, responseOutcome_of_isNew is]
    simp only [changedOutcome, method, Response.readCapped_of_exceeds exceeds]
    rfl
  | cut is method fits cut =>
    rw [CheckPlan.outcome, responseOutcome_of_isNew is, changedOutcome_of_fits method fits, cut]
    rfl
  | refused modified fails final =>
    rw [CheckPlan.outcome, responseOutcome_of_status modified fails, statusOutcome,
      isRetryableStatus_eq, decide_eq_false final, if_neg Bool.false_ne_true]
    rfl
  | failed final =>
    rw [CheckPlan.outcome, webOutcome, final, if_neg Bool.false_ne_true]
    rfl

theorem Passes.outcome {fault : Fault} (passes : p.Passes url stored answer fault) :
    p.outcome url stored answer = .transient fault := by
  cases passes with
  | busy busy =>
    rw [CheckPlan.outcome, responseOutcome_of_status (by omega) (by omega), statusOutcome,
      isRetryableStatus_eq, decide_eq_true busy, if_pos rfl]
  | unfinished is method fits unfinished =>
    rw [CheckPlan.outcome, responseOutcome_of_isNew is, changedOutcome_of_fits method fits,
      unfinished]
    rfl
  | failed transient => rw [CheckPlan.outcome, webOutcome, transient, if_pos rfl]

private theorem Concludes.unique {result other : Except Fault Staleness}
    (concludes : p.Concludes url stored answer result)
    (also : p.Concludes url stored answer other) : result = other := by
  have same : settled result = settled other := concludes.outcome.symm.trans also.outcome
  cases result <;> cases other <;> cases same <;> rfl

theorem Passes.not_concludes {fault : Fault} (passes : p.Passes url stored answer fault)
    (result : Except Fault Staleness) : ¬p.Concludes url stored answer result := by
  intro concludes
  have same : Backoff.Outcome.transient fault = settled result :=
    passes.outcome.symm.trans concludes.outcome
  cases result <;> cases same

/-- Every answer concludes a check or is worth another attempt. -/
theorem concludes_or_passes (p : CheckPlan) (url : Url) (stored : Validators)
    (answer : Except WebFault Response) :
    (∃ result, p.Concludes url stored answer result) ∨
      ∃ fault, p.Passes url stored answer fault := by
  cases answer with
  | error fault =>
    cases transient : fault.isTransient with
    | false => exact .inl ⟨_, .failed transient⟩
    | true => exact .inr ⟨_, .failed transient⟩
  | ok r =>
    by_cases success : 200 ≤ r.status ∧ r.status < 300
    · by_cases same : stored.isEmpty = false ∧ r.validators = stored
      · exact .inl ⟨_, .same success same.1 same.2⟩
      have is : IsNew stored r := ⟨success, same⟩
      cases method : p.method with
      | head => exact .inl ⟨_, .probed is method⟩
      | get =>
        by_cases exceeds : r.Exceeds p.limit
        · exact .inl ⟨_, .tooLarge is method exceeds⟩
        cases ending : r.ending with
        | complete => exact .inl ⟨_, .read is method exceeds ending⟩
        | cut => exact .inl ⟨_, .cut is method exceeds ending⟩
        | unfinished => exact .inr ⟨_, .unfinished is method exceeds ending⟩
    · by_cases modified : r.status = 304
      · exact .inl ⟨_, .notModified modified⟩
      by_cases busy : 500 ≤ r.status ∧ r.status < 600 ∨ r.status = 429
      · exact .inr ⟨_, .busy busy⟩
      · exact .inl ⟨_, .refused modified success busy⟩

private theorem isFinal_settled (result : Except Fault Staleness) : (settled result).IsFinal := by
  cases result <;> trivial

theorem isFinal_outcome_iff :
    (p.outcome url stored answer).IsFinal ↔ ∃ result, p.Concludes url stored answer result := by
  constructor
  · intro final
    apply (concludes_or_passes p url stored answer).resolve_right
    intro ⟨fault, passes⟩
    rw [passes.outcome] at final
    exact final
  · intro ⟨result, concludes⟩
    rw [concludes.outcome]
    exact isFinal_settled result

end Outcomes

/-! ## The whole check -/

/-- The requests of so many attempts. None is sent if it cannot be made. -/
def requests (p : CheckPlan) (url : Url) (stored : Validators) (attempts : Nat) : List Request :=
  match Request.make p.method url stored with
  | .ok _ => List.replicate attempts ⟨p.method, url, stored⟩
  | .error _ => []

def encounter (p : CheckPlan) (server : Server) (url : Url) (stored : Validators)
    (sent : List Request) (n : Nat) : Except WebFault Response :=
  match Request.make p.method url stored with
  | .ok request => (server (sent ++ p.requests url stored (n - 1)) request).received url
  | .error fault => .error fault

/-- The number of the last attempt: the first one that comes upon something which concludes the
check, or the last one that is allowed if that comes earlier. -/
def IsLast (p : CheckPlan) (url : Url) (stored : Validators)
    (encounter : Nat → Except WebFault Response) (last : Nat) : Prop :=
  IsLeast {n | n = p.backoff.maxAttempts ∨
    0 < n ∧ ∃ result, p.Concludes url stored (encounter n) result} last

section Course

variable {p : CheckPlan} {server : Server} {timeout : Nat} {url : Url} {stored : Validators}
  {sent : List Request}

private theorem requests_succ {request : Request}
    (made : Request.make p.method url stored = .ok request) (n : Nat) :
    p.requests url stored (n + 1) = p.requests url stored n ++ [request] := by
  simp only [requests, made, List.replicate_succ', Request.eq_of_make made]

theorem attempt_of_direct (direct : ∀ sent, (server sent ⟨p.method, url, stored⟩).IsDirect url)
    (n : Nat) :
    p.attempt (server.client timeout) url stored (sent ++ p.requests url stored n) =
      (p.outcome url stored (p.encounter server url stored sent (n + 1)),
        sent ++ p.requests url stored (n + 1)) := by
  unfold attempt
  cases made : Request.make p.method url stored with
  | error fault =>
    simp only [Server.send_of_error made, encounter, requests, made, outcome]
  | ok request =>
    have straight : (server (sent ++ p.requests url stored n) request).IsDirect url := by
      rw [Request.eq_of_make made]
      exact direct _
    simp only [Server.send_of_direct made straight, encounter, made, Nat.add_sub_cancel,
      requests_succ made, List.append_assoc]
    cases (server (sent ++ p.requests url stored n) request).received url with
    | ok r => rfl
    | error fault => rfl

theorem stateBefore_of_direct
    (direct : ∀ sent, (server sent ⟨p.method, url, stored⟩).IsDirect url) (n : Nat) :
    p.backoff.stateBefore (fun _ => p.attempt (server.client timeout) url stored) (fun _ s => s)
      sent n = sent ++ p.requests url stored n := by
  induction n with
  | zero =>
    have nothing : p.requests url stored 0 = [] := by
      unfold requests
      split <;> rfl
    rw [nothing, List.append_nil]
    rfl
  | succ n ih => rw [Backoff.stateBefore, ih, attempt_of_direct direct]

private theorem outcomeOf_of_direct
    (direct : ∀ sent, (server sent ⟨p.method, url, stored⟩).IsDirect url) {n : Nat}
    (positive : 0 < n) :
    p.backoff.outcomeOf (fun _ => p.attempt (server.client timeout) url stored) (fun _ s => s)
      sent n = p.outcome url stored (p.encounter server url stored sent n) := by
  rw [Backoff.outcomeOf, stateBefore_of_direct direct, attempt_of_direct direct,
    Nat.sub_add_cancel positive]

/-- Attempts are made up to the last one, and what that comes upon is answered. -/
theorem request_of_direct (attempted : 0 < p.backoff.maxAttempts)
    (direct : ∀ sent, (server sent ⟨p.method, url, stored⟩).IsDirect url)
    (factor : Nat → JitterFactor) :
    ∃ last, p.IsLast url stored (p.encounter server url stored sent) last ∧
      p.request (server.client timeout) factor url stored sent =
        (p.backoff.answer last
          (p.outcome url stored (p.encounter server url stored sent last)),
          sent ++ p.requests url stored last) := by
  -- Delays pass without a request.
  let pause : Time.Span → List Request → List Request := fun _ s => s
  have alike : ∀ drawn n s, pause (p.backoff.jitteredDelay drawn n) s =
      pause (p.backoff.baseDelay n) s := fun _ _ _ => rfl
  obtain ⟨last, isLast, runs⟩ := Backoff.run_eq_answer_of_alike alike factor
    (fun _ => p.attempt (server.client timeout) url stored) sent
  have isLast := isLast.congr fun _ => outcomeOf_of_direct direct
  have positive : 0 < last := by
    obtain rfl | ⟨positive, _⟩ := isLast.1
    · exact attempted
    · exact positive
  obtain ⟨n, rfl⟩ := Nat.exists_eq_succ_of_ne_zero (Nat.ne_of_gt positive)
  refine ⟨n + 1, ?_, ?_⟩
  · simpa only [IsLast, Backoff.IsLast, isFinal_outcome_iff] using isLast
  · rw [request, runs, outcomeOf_of_direct direct positive, Backoff.stateAfter,
      stateBefore_of_direct direct, attempt_of_direct direct]

/-- If the last answer is worth another attempt, then no other one is allowed. -/
theorem IsLast.spent {encounter : Nat → Except WebFault Response} {last : Nat} {fault : Fault}
    (isLast : p.IsLast url stored encounter last)
    (passes : p.Passes url stored (encounter last) fault) : last = p.backoff.maxAttempts := by
  apply isLast.1.resolve_right
  intro ⟨_, result, concludes⟩
  exact passes.not_concludes result concludes

/-- What is answered after the last attempt. -/
theorem concludes_or_exhausted {answer : Except WebFault Response} {attempts : Nat}
    (positive : 0 < attempts) :
    p.Concludes url stored answer (p.backoff.answer attempts (p.outcome url stored answer)) ∨
      ∃ fault, p.Passes url stored answer fault ∧
        p.backoff.answer attempts (p.outcome url stored answer) =
          .error (.retryExhausted p.backoff.maxAttempts fault.message) := by
  obtain ⟨n, rfl⟩ := Nat.exists_eq_succ_of_ne_zero (Nat.ne_of_gt positive)
  obtain ⟨result, concludes⟩ | ⟨fault, passes⟩ := concludes_or_passes p url stored answer
  · left
    rw [concludes.outcome]
    cases result with
    | ok value => exact concludes
    | error fault => exact concludes
  · right
    refine ⟨fault, passes, ?_⟩
    rw [passes.outcome, Backoff.answer]

/-- Unless the rules deny it, the same request with the stored validators is sent until an answer
concludes the check or the attempts are used up. -/
theorem check_course (attempted : 0 < p.backoff.maxAttempts) {link : String} {now : Nat}
    {desk after : RobotsDesk (List Request)} {allowed : Bool} (factor : Nat → JitterFactor)
    (valid : Url.parse link = .ok url)
    (direct : ∀ sent, (server sent ⟨p.method, url, stored⟩).IsDirect url)
    (asked : p.mayFetch (server.client timeout) now url desk = (allowed, after)) :
    (after.source = desk.source ∨
      after.source = (fetchRules (server.client timeout) url.origin desk.source).2) ∧
    (allowed = false →
      p.check (server.client timeout) factor now link stored desk =
        (.error (.robotsDenied url.text), after)) ∧
    (allowed = true → ∃ last result,
      p.IsLast url stored (p.encounter server url stored after.source) last ∧
      p.check (server.client timeout) factor now link stored desk =
        (result, { after with source := after.source ++ p.requests url stored last }) ∧
      (p.Concludes url stored (p.encounter server url stored after.source last) result ∨
        ∃ fault, p.Passes url stored (p.encounter server url stored after.source last) fault ∧
          last = p.backoff.maxAttempts ∧
          result = .error (.retryExhausted p.backoff.maxAttempts fault.message))) := by
  have checks : p.check (server.client timeout) factor now link stored desk =
      p.checkUrl (server.client timeout) factor now url stored desk := by
    simp only [check, valid]
  refine ⟨?_, fun denied => ?_, fun permitted => ?_⟩
  · have lookup := p.source_mayFetch (server.client timeout) now url desk
    rwa [asked] at lookup
  · subst denied
    rw [checks]
    simp only [checkUrl, asked]
  · subst permitted
    obtain ⟨last, isLast, requested⟩ :=
      @request_of_direct p server timeout url stored after.source attempted direct factor
    have positive : 0 < last := by
      obtain rfl | ⟨positive, _⟩ := isLast.1
      · exact attempted
      · exact positive
    refine ⟨last, p.backoff.answer last
      (p.outcome url stored (p.encounter server url stored after.source last)), isLast, ?_, ?_⟩
    · rw [checks]
      simp only [checkUrl, asked, requested]
    · obtain concludes | ⟨fault, passes, exhausted⟩ := concludes_or_exhausted positive
      · exact .inl concludes
      · exact .inr ⟨fault, passes, isLast.spent passes, exhausted⟩

end Course

/-! ## A server that is busy at first -/

def noticePlan : CheckPlan := ⟨.get, .standard, 10, "a", true⟩

def noticeUrl : Url := ⟨"http", some ⟨"", "", .domain "h", none⟩, .segments ["a"], none, none⟩

def rulesRequest : Request :=
  ⟨.get, { noticeUrl with path := .segments ["robots.txt"] }, .none⟩

def noticeRequest : Request := ⟨.get, noticeUrl, ⟨some "v", none⟩⟩

def noticeStored : Validators := ⟨some "v", none⟩

def busyResponse : Response := ⟨503, [], none, [], .complete⟩

def noticeResponse : Response := ⟨200, [("etag", [0x77])], some 1, [[0x70]], .complete⟩

/-- There are no rules, and who asks for the document first has to ask again. -/
def busyServer : Server := fun sent request =>
  if request.url = noticeUrl then
    if sent.length < 2 then .response busyResponse else .response noticeResponse
  else .response ⟨404, [], none, [], .complete⟩

private theorem busyServer_direct (sent : List Request) :
    (busyServer sent ⟨.get, noticeUrl, noticeStored⟩).IsDirect noticeUrl := by
  unfold busyServer
  rw [if_pos (by rfl)]
  split <;> rfl

theorem noticeResponse_concludes : noticePlan.Concludes noticeUrl noticeStored
    (.ok noticeResponse) (.ok (.changed ⟨some "w", none⟩ (some "p"))) := by
  have isNew : IsNew noticeStored noticeResponse := ⟨by decide, by decide⟩
  have fits : ¬noticeResponse.Exceeds noticePlan.limit := by
    unfold Response.Exceeds
    decide
  have named : noticeResponse.validators = ⟨some "w", none⟩ := by decide
  have text : Text.Utf8.stringLossy noticeResponse.pieces.flatten = "p" := by decide +kernel
  have read := @Concludes.read noticePlan noticeUrl _ _ isNew rfl fits rfl
  rwa [named, text] at read

/-- The second answer is the first one that concludes the check. -/
theorem notice_isLast : noticePlan.IsLast noticeUrl noticeStored
    (noticePlan.encounter busyServer noticeUrl noticeStored [rulesRequest]) 2 := by
  have busy : noticePlan.encounter busyServer noticeUrl noticeStored [rulesRequest] 1 =
      .ok busyResponse := rfl
  refine ⟨.inr ⟨by decide, _, noticeResponse_concludes⟩, ?_⟩
  rintro n (rfl | ⟨positive, other, early⟩)
  · decide
  · refine Nat.lt_of_le_of_ne positive fun one => ?_
    subst one
    rw [busy] at early
    exact (Passes.busy (by decide)).not_concludes other early

theorem check_course_notice :
    ∃ after, noticePlan.mayFetch (busyServer.client 1000) 0 noticeUrl
        (.start (Time.Span.ofMillis 1) []) = (true, after) ∧
      noticePlan.check (busyServer.client 1000) (fun _ => Backoff.evenFactor) 0 "http://h/a"
          noticeStored (.start (Time.Span.ofMillis 1) []) =
        (.ok (.changed ⟨some "w", none⟩ (some "p")),
          { after with source := [rulesRequest, noticeRequest, noticeRequest] }) := by
  have valid : Url.parse "http://h/a" = .ok noticeUrl := by decide +kernel
  have answer : (noticePlan.mayFetch (busyServer.client 1000) 0 noticeUrl
      (.start (Time.Span.ofMillis 1) [])).1 = true := by decide +kernel
  have lookup : (noticePlan.mayFetch (busyServer.client 1000) 0 noticeUrl
      (.start (Time.Span.ofMillis 1) [])).2.source = [rulesRequest] := by decide +kernel
  cases asked : noticePlan.mayFetch (busyServer.client 1000) 0 noticeUrl
      (.start (Time.Span.ofMillis 1) []) with
  | mk allowed after =>
    rw [asked] at answer lookup
    obtain rfl : allowed = true := answer
    obtain ⟨_, _, course⟩ := check_course (p := noticePlan) (by decide)
      (fun _ => Backoff.evenFactor) valid busyServer_direct asked
    obtain ⟨last, result, isLast, checked, answered⟩ := course rfl
    rw [lookup] at isLast answered checked
    obtain rfl := isLast.unique notice_isLast
    obtain concludes | ⟨fault, passes, _⟩ := answered
    · rw [concludes.unique noticeResponse_concludes] at checked
      exact ⟨after, rfl, checked⟩
    · exact absurd noticeResponse_concludes (passes.not_concludes _)

end CheckPlan

end FeedIngest.Crawl
