import FeedIngest.Crawl.Robots.Cache

/-!
# Looking up robots decisions

What each answer of a lookup says of the cache, and what a decision says of the fetch it is from.
-/

set_option autoImplicit false

namespace FeedIngest.Crawl

open Time (Span)

/-- What a span outlasts it outlasted before. -/
theorem outlasts_of_le {ttl : Span} {age older : Nat} (le : age ≤ older)
    (expired : ttl.outlasts age = false) : ttl.outlasts older = false := by
  simp only [Span.outlasts, decide_eq_false_iff_not, Nat.not_lt] at expired ⊢
  exact Nat.le_trans expired (Nat.mul_le_mul_right _ le)

namespace RobotsCache

variable {c : RobotsCache} {now : Nat} {origin : String}

private theorem lookup_filter_ne {α : Type} {other : String} (differs : (other == origin) = false)
    (rows : List (String × α)) :
    (rows.filter (·.1 != origin)).lookup other = rows.lookup other := by
  induction rows with
  | nil => rfl
  | cons row rows ih =>
    obtain ⟨name, value⟩ := row
    by_cases here : name = origin
    · subst here
      simpa [List.lookup_cons, differs] using ih
    · simp [List.lookup_cons, here, ih]

theorem slot?_put (c : RobotsCache) (origin : String) (slot : RobotsSlot) (other : String) :
    (c.put origin slot).slot? other = if other = origin then some slot else c.slot? other := by
  unfold slot? put
  split
  · next same => simp [same]
  · next differs =>
    have differs : (other == origin) = false := beq_false_of_ne differs
    simp [List.lookup_cons, differs, lookup_filter_ne]

@[simp] theorem put_ttl (c : RobotsCache) (origin : String) (slot : RobotsSlot) :
    (c.put origin slot).ttl = c.ttl := rfl

def Unknown (c : RobotsCache) (now : Nat) (origin : String) : Prop :=
  c.slot? origin = none ∨
    ∃ d, c.slot? origin = some (.ready d) ∧ c.ttl.outlasts (d.age now) = false

/-- What a lookup does: it finds a decision that is trusted, or joins a fetch, or begins one. -/
theorem lookup_cases (c : RobotsCache) (now : Nat) (origin : String) :
    (∃ d, c.slot? origin = some (.ready d) ∧ c.ttl.outlasts (d.age now) = true ∧
      c.lookup now origin = (.fresh d, c)) ∨
    (c.slot? origin = some .fetching ∧ c.lookup now origin = (.joins, c)) ∨
    (c.Unknown now origin ∧ c.lookup now origin = (.begins, c.put origin .fetching)) := by
  unfold lookup
  cases found : c.slot? origin with
  | none => exact .inr (.inr ⟨.inl found, rfl⟩)
  | some slot =>
    cases slot with
    | fetching => exact .inr (.inl ⟨rfl, rfl⟩)
    | ready d =>
      cases trusted : d.isFresh c.ttl now with
      | true => exact .inl ⟨d, rfl, trusted, by simp [trusted]⟩
      | false => exact .inr (.inr ⟨.inr ⟨d, found, trusted⟩, by simp [trusted]⟩)

/-- When a fetch has failed, its decision denies everything to everybody. -/
theorem decide_error (now : Nat) (origin : String) (fault : Fault) (agent path : String) :
    (decide now origin (.error fault)).allows agent path = false := rfl

end RobotsCache

end FeedIngest.Crawl
