import FeedIngest.Crawl.Robots.Rules
import FeedIngest.Fault
import FeedIngest.Time.Span

/-!
# The robots cache

The rules of an origin are trusted for a while after they were fetched. Nobody fetches them
while somebody else does: later lookups join the fetch that is under way. When a fetch fails,
nothing may be fetched from its origin for as long as its rules would have been trusted.
-/

set_option autoImplicit false

namespace FeedIngest.Crawl

open Time (Span)

/-- The rules of an origin, and when their fetch was over. -/
structure RobotsDecision where
  origin : String
  rules : RobotsRules
  fetchedAt : Nat
deriving DecidableEq, Repr

namespace RobotsDecision

def age (d : RobotsDecision) (now : Nat) : Nat := now - d.fetchedAt

def isFresh (d : RobotsDecision) (ttl : Span) (now : Nat) : Bool := ttl.outlasts (d.age now)

def allows (d : RobotsDecision) (agent path : String) : Bool := d.rules.isAllowed agent path

end RobotsDecision

inductive RobotsSlot where
  | ready (decision : RobotsDecision)
  | fetching
deriving DecidableEq, Repr

/-- What is known of all origins that were ever looked up. -/
structure RobotsCache where
  ttl : Span
  slots : List (String × RobotsSlot)
deriving DecidableEq, Repr

namespace RobotsCache

def empty (ttl : Span) : RobotsCache := ⟨ttl, []⟩

def slot? (c : RobotsCache) (origin : String) : Option RobotsSlot := c.slots.lookup origin

def put (c : RobotsCache) (origin : String) (slot : RobotsSlot) : RobotsCache :=
  { c with slots := (origin, slot) :: c.slots.filter (·.1 != origin) }

inductive Lookup where
  | fresh (decision : RobotsDecision)
  /-- Somebody is fetching the rules; the lookup waits with him. -/
  | joins
  | begins
deriving DecidableEq, Repr

def lookup (c : RobotsCache) (now : Nat) (origin : String) : Lookup × RobotsCache :=
  match c.slot? origin with
  | some .fetching => (.joins, c)
  | some (.ready decision) =>
    if decision.isFresh c.ttl now then (.fresh decision, c) else (.begins, c.put origin .fetching)
  | none => (.begins, c.put origin .fetching)

def decide (now : Nat) (origin : String) (answer : Except Fault RobotsRules) : RobotsDecision :=
  ⟨origin, match answer with
    | .ok rules => rules
    | .error _ => .denyAll, now⟩

def settle (c : RobotsCache) (now : Nat) (origin : String) (answer : Except Fault RobotsRules) :
    RobotsDecision × RobotsCache :=
  let decision := decide now origin answer
  (decision, c.put origin (.ready decision))

end RobotsCache

end FeedIngest.Crawl
