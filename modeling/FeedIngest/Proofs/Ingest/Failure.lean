import FeedIngest.Proofs.Ingest.Repetition

/-!
# Runs that fail

A run alone fails because its feed is unknown, because it did not get its document, or because its
articles could not be written. In the first two cases it has not touched the archive. In the third
one the batch was taken back; what the document says of the feed may have been written before, and
the validators are only written after. So whoever tries again finds the same articles missing.
-/

set_option autoImplicit false

namespace FeedIngest.Ingest

open Catalog (Archive Article ArticleKey Feed Store)
open Syndication (FeedDocument)

/-- What is left of the archive `a` when a run for a feed has failed. -/
structure Unharmed (a : Archive) (feedId : Int) (fetch : Except Fault FeedFetch) (b : Archive) :
    Prop where
  articles : b.store.articles = a.store.articles
  keys : b.store.keys = a.store.keys
  validators : (b.store.feeds.get? feedId).map Feed.validators =
    (a.store.feeds.get? feedId).map Feed.validators
  otherFeeds : ∀ other, other ≠ feedId → b.store.feeds.get? other = a.store.feeds.get? other
  whole : a.store.feeds.get? feedId = none ∨ (∃ fault, fetch = .error fault) → b = a

section Unharmed

variable {dates : Time.Timestamp → Prop} {sure : Prop} {a b : Archive} {feedId : Int}
  {fetch again : Except Fault FeedFetch}
  {fault : Fault}

private theorem Follows.unharmed (numbered : a.store.Numbered)
    (follows : Follows dates sure a feedId fetch b (.finished (.error fault))) :
    Unharmed a feedId fetch b := by
  cases follows with
  | unknown => exact ⟨rfl, rfl, rfl, fun _ _ => rfl, fun _ => rfl⟩
  | unanswered => exact ⟨rfl, rfl, rfl, fun _ _ => rfl, fun _ => rfl⟩
  | @undone _ feed document v last _ unsure heard told rises stored =>
    obtain ⟨row, found, noted⟩ := told.noted
    have own := told.id numbered
    have rows : ∀ id, b.store.feeds.get? id =
        if id = feedId then some feed else a.store.feeds.get? id := by
      intro id
      rw [stored, ← own]
      exact Catalog.Shelf.get?_put ..
    refine ⟨by rw [stored]; rfl, by rw [stored]; rfl, ?_, ?_, ?_⟩
    · rw [rows, if_pos rfl, found, Option.map_some, Option.map_some, noted.validators]
    · intro other differs
      rw [rows, if_neg differs]
    · rintro (missing | ⟨fault, failed⟩)
      · rw [found] at missing
        cases missing
      · rw [heard] at failed
        cases failed

private theorem Follows.numbered_of_error (numbered : a.store.Numbered)
    (follows : Follows dates sure a feedId fetch b (.finished (.error fault))) :
    b.store.Numbered := by
  cases follows with
  | unknown => exact numbered
  | unanswered => exact numbered
  | @undone _ feed _ _ _ _ _ _ told rises stored =>
    rw [stored]
    refine ⟨(numbered.withFeed feed).feeds, numbered.articles, fun found => ?_⟩
    exact Int.le_trans (numbered.bounded found) rises

/-- The same is to be expected of another run as if this one had not been. -/
theorem Unharmed.expected_eq (unharmed : Unharmed a feedId fetch b) :
    expected b.store feedId again = expected a.store feedId again := by
  have brought : ∀ document,
      broughtKeys b.store feedId document = broughtKeys a.store feedId document := by
    intro document
    have urls : b.store.articleUrls feedId = a.store.articleUrls feedId := by
      simp only [Store.articleUrls, Store.articlesOf, unharmed.articles]
    rw [broughtKeys, broughtKeys, storedKeys, storedKeys, unharmed.keys, urls]
  have rows := unharmed.validators
  simp only [expected, Store.feed, brought]
  cases before : a.store.feeds.get? feedId with
  | none =>
    rw [before, Option.map_none, Option.map_eq_none_iff] at rows
    rw [rows]
  | some row =>
    rw [before, Option.map_some, Option.map_eq_some_iff] at rows
    obtain ⟨kept, found, _⟩ := rows
    rw [found]

end Unharmed

/-! ## Another try -/

def keysOf (result : Option (Except Fault (List Article))) :
    Option (Except Fault (List ArticleKey)) :=
  result.map (Except.map (List.map (·.key)))

section Service

variable {a b : Archive} {feedId : Int} {fetch : Except Fault FeedFetch}

private theorem keysOf_ingest {v : Service Archive} (numbered : a.store.Numbered)
    (reliable : a.Reliable) (delivers : v.Delivers feedId a fetch) (now : Nat) {moments : List Nat}
    (enough : 4 ≤ moments.length) :
    keysOf (v.ingest now moments feedId a).1 = some (expected a.store feedId fetch) := by
  obtain ⟨result, b, returned⟩ := delivers.exists_result now enough
  have follows : Follows _ True a feedId fetch b (.finished result) :=
    delivers.follows numbered (fun _ => reliable) returned
  rw [returned]
  exact congrArg some (follows.outcome trivial)

/-- A run that fails leaves articles, keys, validators and the rows of other feeds as they were. A
run after it that can write returns articles with just the keys that it would have returned without
it. -/
theorem ingest_failed {v : Service Archive} {now : Nat} {moments : List Nat} {fault : Fault}
    (numbered : a.store.Numbered) (delivers : v.Delivers feedId a fetch)
    (failed : v.ingest now moments feedId a = (some (.error fault), b)) :
    Unharmed a feedId fetch b ∧
      ∀ (again : Except Fault FeedFetch) (retried untried : Archive), retried.store = b.store →
        untried.store = a.store → retried.Reliable → untried.Reliable →
        ∀ w u : Service Archive, w.Delivers feedId retried again → u.Delivers feedId untried again →
        ∀ (later : Nat) (momentsToo : List Nat), 4 ≤ momentsToo.length →
          ∃ keys, keysOf (w.ingest later momentsToo feedId retried).1 = some keys ∧
            keysOf (u.ingest later momentsToo feedId untried).1 = some keys := by
  have follows : Follows _ False a feedId fetch b (.finished (.error fault)) :=
    delivers.follows numbered (fun never => never.elim) failed
  have unharmed := follows.unharmed numbered
  refine ⟨unharmed, ?_⟩
  intro again retried untried same sameToo reliable reliableToo w u delivers deliversToo later
    momentsToo enough
  refine ⟨expected a.store feedId again, ?_, ?_⟩
  · have numberedToo : retried.store.Numbered := same ▸ follows.numbered_of_error numbered
    rw [keysOf_ingest numberedToo reliable delivers later enough, same, unharmed.expected_eq]
  · have numberedToo : untried.store.Numbered := sameToo ▸ numbered
    rw [keysOf_ingest numberedToo reliableToo deliversToo later enough, sameToo]

end Service

/-! ## A disk that is full when the articles are written -/

def filledDisk : Catalog.Directory where
  present := true
  entries := []
  mishaps := [none, none, some (.failure "disk full" (some [123]))]

def spoiled : Archive := ((press (.ok issue)).ingest 0 [5, 6, 7, 8] 1 (housed filledDisk)).2

def mended : Archive := { spoiled with directory := some (.ofEntries []) }

/-- The title is noted and nothing else, and another try gets both articles. -/
theorem spoiled_unharmed :
    (press (.ok issue)).ingest 0 [5, 6, 7, 8] 1 (housed filledDisk) =
      (some (.error (.persistence "disk full")), spoiled) ∧
    (spoiled.store.feeds.get? 1).map (·.title) = some "N" ∧
    Unharmed (housed filledDisk) 1 (.ok issue) spoiled ∧
    ∃ keys, keysOf ((press (.ok issue)).ingest 9 [14, 15, 16, 17] 1 mended).1 = some keys ∧
      keysOf ((press (.ok issue)).ingest 9 [14, 15, 16, 17] 1 (housed (.ofEntries []))).1 =
        some keys := by
  have failed : (press (.ok issue)).ingest 0 [5, 6, 7, 8] 1 (housed filledDisk) =
      (some (.error (.persistence "disk full")), spoiled) := Prod.ext (by rfl) rfl
  obtain ⟨unharmed, again⟩ :=
    ingest_failed (housed_numbered _) (press_delivers 1 _ (.ok issue)) failed
  have enough : 4 ≤ [14, 15, 16, 17].length := Nat.le_refl 4
  refine ⟨failed, by rfl, unharmed, ?_⟩
  exact again (.ok issue) mended (housed (.ofEntries [])) rfl rfl (reliable_of_empty rfl)
    (reliable_of_empty rfl) _ _ (press_delivers 1 _ _) (press_delivers 1 _ _) 9 _ enough

end FeedIngest.Ingest
