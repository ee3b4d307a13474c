import FeedIngest.Crawl.Robots.Pattern

/-!
# Robots rules

What a robots file says: groups of user agents with their rules, in the order of the file.
`RobotsRules.parse` reads a file, `RobotsRules.render` writes groups out again, and
`RobotsRules.isAllowed` answers whether an agent may fetch a path. `RobotsRules.verdict` says
the same without an order among groups and rules.
-/

set_option autoImplicit false

namespace FeedIngest.Crawl

/-- One line that allows or disallows the paths of a pattern. -/
structure RobotsRule where
  allow : Bool
  pattern : String
deriving DecidableEq, Repr

/-- The agents a group addresses, in lower case, and its rules. -/
structure RobotsGroup where
  agents : List String
  rules : List RobotsRule
deriving DecidableEq, Repr

structure RobotsRules where
  groups : List RobotsGroup
  /-- Set when the robots file could not be had: then nothing may be fetched. -/
  deniesAll : Bool
deriving DecidableEq, Repr

namespace RobotsRules

open Text

/-- No rules: everything may be fetched. -/
def allowAll : RobotsRules := ⟨[], false⟩

def denyAll : RobotsRules := ⟨[], true⟩

/-- What a line of a robots file says. -/
inductive Directive where
  | userAgent (name : String)
  /-- An allow or disallow line; without a pattern it says nothing but ends the agent lines. -/
  | rule (allow : Bool) (pattern : String)
deriving DecidableEq, Repr

/-- Reads a line. Comments, lines without a colon and unknown keys say nothing. -/
def directive? (line : List Char) : Option Directive :=
  match splitFirst? ':' (trim (line.takeWhile (· != '#'))) with
  | none => none
  | some (key, value) =>
    let key := String.ofList ((trim key).map asciiLower)
    let value := trim value
    if key = "user-agent" then some (.userAgent (String.ofList (value.map asciiLower)))
    else if key = "allow" then some (.rule true (String.ofList value))
    else if key = "disallow" then some (.rule false (String.ofList value))
    else none

/-- The groups closed so far, the open group, and whether it has a rule line. -/
structure Reading where
  closed : List RobotsGroup
  agents : List String
  rules : List RobotsRule
  inRules : Bool
deriving DecidableEq, Repr

def Reading.start : Reading := ⟨[], [], [], false⟩

/-- Takes a directive. An agent line after a rule line opens a new group; rule lines before
the first agent line belong to nobody. -/
def Reading.take (r : Reading) : Directive → Reading
  | .userAgent name =>
    if r.inRules then ⟨r.closed ++ [⟨r.agents, r.rules⟩], [name], [], false⟩
    else { r with agents := r.agents ++ [name] }
  | .rule allow pattern =>
    if r.agents.isEmpty then r
    else if pattern.isEmpty then { r with inRules := true }
    else { r with rules := r.rules ++ [⟨allow, pattern⟩], inRules := true }

def Reading.groups (r : Reading) : List RobotsGroup :=
  if r.agents.isEmpty then r.closed else r.closed ++ [⟨r.agents, r.rules⟩]

def lines (text : List Char) : List (List Char) :=
  (text.dropWhile (· == '\uFEFF')).splitOn '\n'

def parse (text : String) : RobotsRules :=
  ⟨(((lines text.toList).filterMap directive?).foldl Reading.take .start).groups, false⟩

/-- Writes one group: its agents, then its rules, or an empty disallow line if it has none. -/
def renderGroup (g : RobotsGroup) : List String :=
  g.agents.map ("User-agent: " ++ ·) ++
    if g.rules.isEmpty then ["Disallow:"]
    else g.rules.map fun r => (if r.allow then "Allow: " else "Disallow: ") ++ r.pattern

def render (groups : List RobotsGroup) : String :=
  String.join ((groups.flatMap renderGroup).map (· ++ "\n"))

/-- How closely a group addresses an agent: by the longest of its names that begins the
agent's name, in bytes, or by `*` at no bytes. -/
def RobotsGroup.nameScore? (agent name : String) : Option Nat :=
  if name = "*" then some 0
  else if name.toList.isPrefixOf agent.toList then some name.utf8ByteSize
  else none

def RobotsGroup.score? (agent : String) (g : RobotsGroup) : Option Nat :=
  (g.agents.filterMap (RobotsGroup.nameScore? agent)).max?

def gather (agent : String) (best : Option (Nat × List RobotsRule)) (g : RobotsGroup) :
    Option (Nat × List RobotsRule) :=
  match RobotsGroup.score? agent g, best with
  | none, _ => best
  | some s, none => some (s, g.rules)
  | some s, some (b, rules) =>
    if s < b then best else if s = b then some (b, rules ++ g.rules) else some (s, g.rules)

def rulesFor (rules : RobotsRules) (agent : String) : Option (List RobotsRule) :=
  (rules.groups.foldl (gather agent) none).map (·.2)

/-- The longest matching pattern so far, and what it says; an allow rule wins a tie. -/
def weigh (path : List Char) (best : Option (Nat × Bool)) (r : RobotsRule) :
    Option (Nat × Bool) :=
  if !Pattern.matchesPath r.pattern.toList path then best
  else match best with
    | none => some (r.pattern.utf8ByteSize, r.allow)
    | some (len, allow) =>
      if r.pattern.utf8ByteSize < len ∨ (r.pattern.utf8ByteSize = len ∧ allow) then best
      else some (r.pattern.utf8ByteSize, r.allow)

/-- Whether an agent, given by its product token, may fetch a path. -/
def isAllowed (rules : RobotsRules) (agent path : String) : Bool :=
  if rules.deniesAll then false
  else match rules.rulesFor (lowered agent) with
    | none => true
    | some rules => ((rules.foldl (weigh path.toList) none).map (·.2)).getD true

/-! ## The verdict -/

def topScore? (rules : RobotsRules) (agent : String) : Option Nat :=
  (rules.groups.filterMap (RobotsGroup.score? agent)).max?

def addressed (rules : RobotsRules) (agent : String) : List RobotsRule :=
  match rules.topScore? agent with
  | none => []
  | some score =>
    (rules.groups.filter fun g => RobotsGroup.score? agent g == some score).flatMap (·.rules)

/-- What some rules say of a path: among the longest patterns that match, one is allowed. -/
def longestAllows (rules : List RobotsRule) (path : List Char) : Bool :=
  let matching := rules.filter fun r => Pattern.matchesPath r.pattern.toList path
  match (matching.map (·.pattern.utf8ByteSize)).max? with
  | none => true
  | some length => matching.any fun r => r.pattern.utf8ByteSize == length && r.allow

/-- Whether an agent may fetch a path, said without an order among groups and rules. -/
def verdict (rules : RobotsRules) (agent path : String) : Bool :=
  !rules.deniesAll && longestAllows (rules.addressed (lowered agent)) path.toList

/-- The product token of a user agent text: what stands before the first slash or blank. -/
def agentToken (userAgent : String) : String :=
  String.ofList (userAgent.toList.takeWhile fun c => c != '/' && !isBlank c)

end RobotsRules

end FeedIngest.Crawl
