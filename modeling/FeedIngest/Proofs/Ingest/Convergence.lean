import FeedIngest.Proofs.Crawl.Check
import FeedIngest.Proofs.Ingest.Round

/-!
# Rounds at steady servers

The articles of a feed are refreshed, and then they are refreshed again. An article whose server is
steady has not changed for the second round, whatever the first one has found and whatever the
server makes of the validators that are sent to it, and it stays as the first round has left it.
Only if its check cannot be made, for its document is too long or its validators may not be sent,
both rounds fail with it, and its row is never touched.
-/

set_option autoImplicit false

namespace FeedIngest.Ingest.Round

open Catalog (Article Store Validators)
open Crawl (CheckPlan RobotsDesk Staleness)
open Crawl.CheckPlan (Settled Steady)
open Web (Client Response)

variable {σ : Type}

/-- The article is checked as planned at a time when the rules allow it, and its row can be
written. -/
structure Admits (c : Conditions) (plan : CheckPlan) (client : Client σ) (url : Url)
    (article : Article) : Prop where
  isWritten : c.isWritten article = true
  checked : ∃ factor now desk, (plan.mayFetch client now url desk).1 = true ∧
    c.answer article = (plan.checkArticle client factor now article desk).1

section Endings

variable {c : Conditions} {article row : Article} {outcome : RefreshOutcome}

private theorem Ending.own (ending : Ending c article outcome row) :
    row.id = article.id ∧ row.url = article.url := by
  cases ending <;> exact ⟨rfl, rfl⟩

theorem Ending.of_unchanged (ending : Ending c article outcome row)
    (found : c.answer article = .ok .unchanged) (isWritten : c.isWritten article = true) :
    outcome = .unchanged ∧ row.validators = article.validators ∧ row.content = article.content := by
  cases ending with
  | unchanged => exact ⟨rfl, rfl, rfl⟩
  | changed told | denied told | failed told =>
    rw [found] at told
    cases told
  | unwritten _ unwritten => exact absurd unwritten (ne_of_eq_of_ne isWritten Bool.noConfusion)

private theorem Ending.of_changed (ending : Ending c article outcome row) {version : Validators}
    {content : Option String} (found : c.answer article = .ok (.changed version content))
    (isWritten : c.isWritten article = true) : row.validators = version := by
  cases ending with
  | changed told =>
    rw [found] at told
    cases told
    rfl
  | unchanged told | denied told | failed told =>
    rw [found] at told
    cases told
  | unwritten _ unwritten => exact absurd unwritten (ne_of_eq_of_ne isWritten Bool.noConfusion)

private theorem Ending.of_error (ending : Ending c article outcome row) {fault : Fault}
    (refused : c.answer article = .error fault) (allowed : ∀ link, fault ≠ .robotsDenied link) :
    outcome = .failed ∧ row = article := by
  cases ending with
  | failed => exact ⟨rfl, rfl⟩
  | denied told =>
    rw [refused] at told
    cases told
    exact absurd rfl (allowed _)
  | changed told | unchanged told | unwritten told =>
    rw [refused] at told
    cases told

variable {plan : CheckPlan} {client : Client σ} {url : Url} {version : Validators}
  {reply : Validators → Response}

theorem Admits.request (admits : Admits c plan client url article)
    (link : Url.parse article.url = .ok url) :
    ∃ factor s, c.answer article = (plan.request client factor url article.validators s).1 := by
  obtain ⟨factor, now, desk, allowed, answered⟩ := admits.checked
  obtain ⟨s, asked⟩ := CheckPlan.checkArticle_of_allowed factor link allowed
  exact ⟨factor, s, answered.trans asked⟩

/-- The row is left with validators that the server knows. -/
theorem Ending.settled (ending : Ending c article outcome row)
    (admits : Admits c plan client url article) (link : Url.parse article.url = .ok url)
    (steady : Steady client plan.method url version reply)
    (checkable : plan.Checkable reply article.validators) : Settled reply row.validators := by
  obtain ⟨factor, s, asked⟩ := admits.request link
  obtain ⟨finding, outcome, left⟩ := checkable.outcome steady
  have found : c.answer article = .ok finding := asked.trans
    (CheckPlan.request_ok checkable.attempted steady checkable.sendable outcome s)
  rcases left with ⟨rfl, settled⟩ | ⟨content, rfl, settled⟩
  · exact (ending.of_unchanged found admits.isWritten).2.1 ▸ settled
  · exact ending.of_changed found admits.isWritten ▸ settled

private theorem Ending.unchanged_of_settled (ending : Ending c article outcome row)
    (admits : Admits c plan client url article) (link : Url.parse article.url = .ok url)
    (steady : Steady client plan.method url version reply)
    (attempted : 0 < plan.backoff.maxAttempts) (settled : Settled reply article.validators) :
    outcome = .unchanged ∧ row.validators = article.validators ∧ row.content = article.content := by
  obtain ⟨factor, s, asked⟩ := admits.request link
  have found : c.answer article = .ok .unchanged := asked.trans
    (CheckPlan.request_ok attempted steady settled.sendable (settled.outcome steady) s)
  exact ending.of_unchanged found admits.isWritten

private theorem Ending.failed_of_not_checkable (ending : Ending c article outcome row)
    (admits : Admits c plan client url article) (link : Url.parse article.url = .ok url)
    (steady : Steady client plan.method url version reply)
    (not : ¬plan.Checkable reply article.validators) : outcome = .failed ∧ row = article := by
  obtain ⟨factor, s, asked⟩ := admits.request link
  obtain ⟨fault, refused, notDenied⟩ := CheckPlan.request_error factor steady not s
  exact ending.of_error (asked.trans refused) notDenied

end Endings

/-! ## Two rounds -/

/-- A round of a store, and another one of what it has left; both have reported, and in both an
article was admitted to its check. -/
structure Twice (plan : CheckPlan) (client : Client σ) (url : Url) (s : Store) (feedId : Int)
    (article : Article) (p q : Round) : Prop where
  listed : article ∈ s.articlesOf feedId
  link : Url.parse article.url = .ok url
  first : ∃ c, Run c feedId (start s) p ∧ Admits c plan client url article
  reported : p.report?.isSome
  second : ∃ c, Run c feedId (start p.store) q ∧
    ∀ between ∈ p.store.articlesOf feedId, between.id = article.id →
      Admits c plan client url between
  reportedToo : q.report?.isSome

section Twice

variable {plan : CheckPlan} {client : Client σ} {url : Url} {s : Store} {feedId : Int}
  {article : Article} {p q : Round} {version : Validators} {reply : Validators → Response}

/-- How both rounds end for the article. -/
theorem Twice.endings (twice : Twice plan client url s feedId article p q)
    (numbered : s.Numbered) :
    ∃ c d between after outcome outcomeToo,
      p.store.articles.get? article.id = some between ∧
      q.store.articles.get? article.id = some after ∧
      p.outcome? article.id = some outcome ∧ q.outcome? article.id = some outcomeToo ∧
      Ending c article outcome between ∧ Admits c plan client url article ∧
      Ending d between outcomeToo after ∧ Admits d plan client url between ∧
      Url.parse between.url = .ok url := by
  obtain ⟨c, first, admits⟩ := twice.first
  obtain ⟨d, second, admitsToo⟩ := twice.second
  obtain ⟨numberedToo, outcome, between, told, stands, ending⟩ :=
    (Sound.run numbered first).ended numbered twice.reported twice.listed
  obtain ⟨numberedLast, outcomeToo, after, toldToo, standsToo, endingToo⟩ :=
    (Sound.run numberedToo second).ended numberedToo twice.reportedToo stands
  have id : between.id = article.id := ending.own.1
  have idToo : after.id = article.id := endingToo.own.1.trans id
  have found := (numberedToo.mem_articlesOf.mp stands).1
  have foundToo := (numberedLast.mem_articlesOf.mp standsToo).1
  rw [id] at found toldToo
  rw [idToo] at foundToo
  exact ⟨c, d, between, after, outcome, outcomeToo, found, foundToo, told, toldToo, ending, admits,
    endingToo, admitsToo between stands id, ending.own.2 ▸ twice.link⟩

/-- An article that cannot be checked fails twice. -/
theorem Twice.fails (twice : Twice plan client url s feedId article p q) (numbered : s.Numbered)
    (steady : Steady client plan.method url version reply)
    (not : ¬plan.Checkable reply article.validators) :
    p.outcome? article.id = some .failed ∧ q.outcome? article.id = some .failed ∧
      p.store.articles.get? article.id = some article ∧
      q.store.articles.get? article.id = some article := by
  obtain ⟨c, d, between, after, outcome, outcomeToo, found, foundToo, told, toldToo, ending, admits,
    endingToo, admitsToo, link⟩ := twice.endings numbered
  obtain ⟨rfl, rfl⟩ := ending.failed_of_not_checkable admits twice.link steady not
  obtain ⟨rfl, rfl⟩ := endingToo.failed_of_not_checkable admitsToo link steady not
  exact ⟨told, toldToo, found, foundToo⟩

/-- The second round finds an article of a steady server unchanged if it can be checked, and fails
with it as the first one has failed if not. In any case it leaves the validators and the content as
they stand after the first round. -/
theorem second_round (numbered : s.Numbered) (steady : Steady client plan.method url version reply)
    (twice : Twice plan client url s feedId article p q) :
    (∃ between after, p.store.articles.get? article.id = some between ∧
      q.store.articles.get? article.id = some after ∧
      after.validators = between.validators ∧ after.content = between.content) ∧
    q.outcome? article.id ≠ some .changed ∧
    (q.outcome? article.id = some .unchanged ↔ plan.Checkable reply article.validators) ∧
    (¬plan.Checkable reply article.validators →
      p.outcome? article.id = some .failed ∧ q.outcome? article.id = some .failed ∧
        p.store.articles.get? article.id = some article ∧
        q.store.articles.get? article.id = some article) := by
  by_cases checkable : plan.Checkable reply article.validators
  · obtain ⟨c, d, between, after, outcome, outcomeToo, found, foundToo, told, toldToo, ending,
      admits, endingToo, admitsToo, link⟩ := twice.endings numbered
    -- Whatever the first round has found, the server knows the validators that it has left.
    have settled := ending.settled admits twice.link steady checkable
    obtain ⟨rfl, validators, content⟩ :=
      endingToo.unchanged_of_settled admitsToo link steady checkable.attempted settled
    refine ⟨⟨between, after, found, foundToo, validators, content⟩, ?_, ?_, fun not =>
      absurd checkable not⟩
    · rw [toldToo]
      exact nofun
    · exact iff_of_true toldToo checkable
  · obtain ⟨told, toldToo, found, foundToo⟩ := twice.fails numbered steady checkable
    refine ⟨⟨article, article, found, foundToo, rfl, rfl⟩, ?_, ?_, fun _ =>
      ⟨told, toldToo, found, foundToo⟩⟩
    · rw [toldToo]
      exact nofun
    · rw [toldToo]
      exact iff_of_false nofun checkable

end Twice

/-! ## A document of one byte -/

def pageVersion : Validators := ⟨some "v", none⟩

/-- The version that is asked for stands, and to all others the document is sent. -/
def pageReply (named : Validators) : Response :=
  if named = pageVersion then ⟨Web.Status.notModified, [], none, [], .complete⟩
  else ⟨200, [("etag", [0x76])], some 1, [[0x70]], .complete⟩

def pageServer : Client Unit :=
  ⟨fun request s => (.response (pageReply request.validators), s), 1000⟩

def pageUrl : Url := ⟨"http", some ⟨"", "", .domain "h", none⟩, .segments ["a"], none, none⟩

def page : Article := (Catalog.Traffic.sketch "http://h/a").toArticle 1 .epoch

def pageStore : Store := (Store.empty.createArticles .epoch [Catalog.Traffic.sketch "http://h/a"]).2

def pagePlan (limit : Nat) : CheckPlan := ⟨.get, .standard, limit, "", false⟩

def pageConditions (limit : Nat) : Conditions where
  answer article := ((pagePlan limit).checkArticle pageServer (fun _ => Backoff.evenFactor) 0
    article (.start (Time.Span.ofMillis 1) ())).1
  isWritten _ := true

theorem pageStore_numbered : pageStore.Numbered :=
  Store.empty_indexed.numbered.begin .epoch (.createArticles [Catalog.Traffic.sketch "http://h/a"])

private theorem page_parse : Url.parse page.url = .ok pageUrl := by
  decide +kernel

theorem page_steady : Steady pageServer .get pageUrl pageVersion pageReply where
  known := rfl
  answers named s sendable := by
    have host : Web.hasHost pageUrl = true := by decide
    have supported : Web.isSupported pageUrl = true := by decide
    have made : Web.Request.make .get pageUrl named = .ok ⟨.get, pageUrl, named⟩ := by
      rw [Web.Request.make, host, sendable, supported]
      rfl
    have final : (pageReply named).target? pageUrl = none := by
      unfold pageReply
      split <;> rfl
    rw [Client.send, made]
    simp only [Client.deliver, pageServer, final]
  replies named := by
    unfold pageReply
    split
    · exact .inl rfl
    · exact .inr ⟨rfl, by decide⟩

private theorem page_admitted (limit : Nat) {article : Article} :
    Admits (pageConditions limit) (pagePlan limit) pageServer pageUrl article :=
  ⟨rfl, _, _, _, rfl, rfl⟩

theorem exists_page_twice (limit : Nat) :
    ∃ p q, Twice (pagePlan limit) pageServer pageUrl pageStore 1 page p q := by
  obtain ⟨p, first, reported⟩ := exists_reported (pageConditions limit) 1 (start pageStore)
  obtain ⟨q, second, reportedToo⟩ := exists_reported (pageConditions limit) 1 (start p.store)
  exact ⟨p, q, by decide, page_parse, ⟨_, first, page_admitted limit⟩, reported,
    ⟨_, second, fun _ _ _ => page_admitted limit⟩, reportedToo⟩

theorem second_round_page : ∃ p q,
    Twice (pagePlan 1) pageServer pageUrl pageStore 1 page p q ∧
    q.outcome? 1 = some .unchanged ∧ ∃ between after, p.store.articles.get? 1 = some between ∧
      q.store.articles.get? 1 = some after ∧ after.validators = between.validators ∧
      after.content = between.content := by
  obtain ⟨p, q, twice⟩ := exists_page_twice 1
  have checkable : (pagePlan 1).Checkable pageReply page.validators :=
    ⟨by decide, by decide, fun _ _ _ => ⟨[0x70], by decide⟩⟩
  obtain ⟨rows, _, outcome, _⟩ := second_round pageStore_numbered page_steady twice
  exact ⟨p, q, twice, outcome.mpr checkable, rows⟩

/-- A document that is longer than the plan allows is never found unchanged. -/
theorem not_forall_unchanged :
    ¬ ∀ (plan : CheckPlan) (client : Client Unit) (url : Url) (version : Validators)
        (reply : Validators → Response) (s : Store) (feedId : Int) (article : Article)
        (p q : Round),
      s.Numbered → 0 < plan.backoff.maxAttempts → Web.areSendable article.validators = true →
      Steady client plan.method url version reply → Twice plan client url s feedId article p q →
      q.outcome? article.id = some .unchanged := by
  intro all
  obtain ⟨p, q, twice⟩ := exists_page_twice 0
  have tooLong : ¬(pagePlan 0).Checkable pageReply page.validators := by
    intro checkable
    obtain ⟨body, read⟩ := checkable.readable rfl (by decide) (by decide)
    cases read
  have failed := (twice.fails pageStore_numbered page_steady tooLong).2.1
  have unchanged := all (pagePlan 0) pageServer pageUrl pageVersion pageReply pageStore 1 page p q
    pageStore_numbered (by decide) (by decide) page_steady twice
  rw [failed] at unchanged
  cases unchanged

end FeedIngest.Ingest.Round
