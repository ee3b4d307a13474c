import FeedIngest.Crawl.Robots.Cache
import FeedIngest.Time.Clockwork
import FeedIngest.Url.Parse

/-!
# The robots desk

Callers ask the robots cache for decisions and wait while rules are fetched. All callers that
wait for one origin get the same decision. A caller may give up; a fetch that nobody waits
for stays where it is and is taken up by the next caller.
-/

set_option autoImplicit false

namespace FeedIngest.Crawl

open Time (Clockwork)

/-- A fetch that is under way: when it is over, and what it will bring. -/
structure RobotsFetch where
  origin : String
  due : Nat
  answer : Except Fault RobotsRules

structure RobotsCaller where
  id : Nat
  origin : String
deriving DecidableEq, Repr

/-- How the rules of an origin are fetched: how long it takes and what comes of it. -/
abbrev RobotsSource (σ : Type) := String → σ → (Nat × Except Fault RobotsRules) × σ

/-- The cache with all who wait for it. `source` is the state of the world that rules are
fetched from. -/
structure RobotsDesk (σ : Type) where
  cache : RobotsCache
  fetches : List RobotsFetch
  waiting : List RobotsCaller
  answered : List (Nat × RobotsDecision)
  source : σ

namespace RobotsDesk

variable {σ : Type}

def start (ttl : Time.Span) (source : σ) : RobotsDesk σ := ⟨.empty ttl, [], [], [], source⟩

def isAwaited (d : RobotsDesk σ) (origin : String) : Bool := d.waiting.any (·.origin == origin)

def finish (now : Nat) (d : RobotsDesk σ) (fetch : RobotsFetch) : RobotsDesk σ :=
  let (decision, cache) := d.cache.settle now fetch.origin fetch.answer
  let (served, waiting) := d.waiting.partition (·.origin == fetch.origin)
  { d with
    cache
    fetches := d.fetches.filter (·.origin != fetch.origin)
    waiting
    answered := d.answered ++ served.map fun caller => (caller.id, decision) }

def wake (now : Nat) (d : RobotsDesk σ) : RobotsDesk σ :=
  (d.fetches.filter fun f => f.due ≤ now && d.isAwaited f.origin).foldl (finish now) d

def next (d : RobotsDesk σ) : Option Nat :=
  Time.earliest ((d.fetches.filter fun f => d.isAwaited f.origin).map (·.due))

def clockwork : Clockwork (RobotsDesk σ) := ⟨next, wake⟩

/-- A caller asks. Who finds no decision that is still trusted waits, and if nobody fetches the
rules yet he begins to. -/
def look (fetch : RobotsSource σ) (now : Nat) (caller : RobotsCaller) (d : RobotsDesk σ) :
    RobotsDesk σ :=
  let (lookup, cache) := d.cache.lookup now caller.origin
  match lookup with
  | .fresh decision => { d with cache, answered := d.answered ++ [(caller.id, decision)] }
  | .joins => { d with cache, waiting := d.waiting ++ [caller] }
  | .begins =>
    let ((delay, answer), source) := fetch caller.origin d.source
    { d with
      cache
      fetches := d.fetches ++ [⟨caller.origin, now + delay, answer⟩]
      waiting := d.waiting ++ [caller]
      source }

/-- A caller asks, and what is due meanwhile is done. -/
def ask (fetch : RobotsSource σ) (now : Nat) (caller : RobotsCaller) (d : RobotsDesk σ) :
    RobotsDesk σ :=
  wake now (look fetch now caller d)

def leave (caller : Nat) (d : RobotsDesk σ) : RobotsDesk σ :=
  { d with waiting := d.waiting.filter (·.id != caller) }

def answer? (caller : Nat) (d : RobotsDesk σ) : Option RobotsDecision := d.answered.lookup caller

/-- Asks for several decisions at once and waits for all of them, but not after `limit`. The
callers are numbered in their order. Who has no answer by then gives up. -/
def askAll (fetch : RobotsSource σ) (now limit : Nat) (origins : List String)
    (d : RobotsDesk σ) : Nat × List (Option RobotsDecision) × RobotsDesk σ :=
  let callers := List.range origins.length
  let asked := (origins.zip callers).foldl (fun d (origin, caller) => ask fetch now ⟨caller, origin⟩ d)
    { d with answered := [] }
  let isDone (d : RobotsDesk σ) : Bool := callers.all fun caller => (d.answer? caller).isSome
  let (moment, d) := clockwork.runUntil isDone now limit now asked
  let moment := if isDone d then moment else limit
  (moment, callers.map d.answer?, callers.foldl (fun d caller => leave caller d) d)

def allowsUrl (decision : RobotsDecision) (url : Url) (agent : String) : Bool :=
  decision.allows agent url.requestTarget

end RobotsDesk

end FeedIngest.Crawl
