import Mathlib.Order.Bounds.Basic
import FeedIngest.Crawl.Robots.Rules

/-!
# The verdict of robots rules

The rules for an agent are gathered group by group, and the longest pattern is found rule by rule.
Both passes keep the best so far, and what they come to depends only on which scores the groups
have and which rules stand under each score. So it is `RobotsRules.verdict`, in which nothing has an
order.
-/

set_option autoImplicit false

namespace FeedIngest.Crawl.RobotsRules

open Text

/-! ## The groups with the greatest score -/

section Groups

variable {agent : String} {groups : List RobotsGroup} {g : RobotsGroup} {score top : Nat}

def scores (agent : String) (groups : List RobotsGroup) : Set Nat :=
  {score | ∃ g ∈ groups, RobotsGroup.score? agent g = some score}

theorem mem_scores : score ∈ scores agent groups ↔
    ∃ g ∈ groups, RobotsGroup.score? agent g = some score := Iff.rfl

def rulesAt (agent : String) (groups : List RobotsGroup) (score : Nat) : List RobotsRule :=
  (groups.filter fun g => RobotsGroup.score? agent g == some score).flatMap (·.rules)

theorem mem_rulesAt {rule : RobotsRule} : rule ∈ rulesAt agent groups score ↔
    ∃ g ∈ groups, RobotsGroup.score? agent g = some score ∧ rule ∈ g.rules := by
  simp [rulesAt, and_assoc]

theorem scores_append (groups rest : List RobotsGroup) :
    scores agent (groups ++ rest) = scores agent groups ∪ scores agent rest := by
  ext score
  simp [mem_scores, or_and_right, exists_or]

theorem rulesAt_append (groups rest : List RobotsGroup) :
    rulesAt agent (groups ++ rest) score =
      rulesAt agent groups score ++ rulesAt agent rest score := by
  simp [rulesAt]

private theorem scores_append_none (unscored : RobotsGroup.score? agent g = none) :
    scores agent (groups ++ [g]) = scores agent groups := by
  ext score
  simp [scores_append, mem_scores, unscored]

private theorem scores_append_some (scored : RobotsGroup.score? agent g = some score) :
    scores agent (groups ++ [g]) = insert score (scores agent groups) := by
  ext other
  simp [scores_append, mem_scores, scored, or_comm, eq_comm]

private theorem rulesAt_append_same (scored : RobotsGroup.score? agent g = some score) :
    rulesAt agent (groups ++ [g]) score = rulesAt agent groups score ++ g.rules := by
  simp [rulesAt, scored]

private theorem rulesAt_append_other (differs : RobotsGroup.score? agent g ≠ some score) :
    rulesAt agent (groups ++ [g]) score = rulesAt agent groups score := by
  simp [rulesAt, differs]

theorem rulesAt_eq_nil (absent : score ∉ scores agent groups) :
    rulesAt agent groups score = [] := by
  apply List.eq_nil_iff_forall_not_mem.mpr
  intro rule member
  obtain ⟨g, among, scored, _⟩ := mem_rulesAt.mp member
  exact absent ⟨g, among, scored⟩

theorem topScore?_eq_some_iff {rules : RobotsRules} :
    rules.topScore? agent = some top ↔ IsGreatest (scores agent rules.groups) top := by
  unfold topScore?
  rw [List.max?_eq_some_iff]
  simp only [List.mem_filterMap]
  rfl

theorem topScore?_eq_none_iff {rules : RobotsRules} :
    rules.topScore? agent = none ↔ scores agent rules.groups = ∅ := by
  unfold topScore?
  rw [List.max?_eq_none_iff, List.filterMap_eq_nil_iff, Set.eq_empty_iff_forall_notMem]
  simp only [mem_scores, not_exists, not_and]
  constructor
  · intro unscored score g member
    rw [unscored g member]
    exact nofun
  · intro absent g member
    cases scored : RobotsGroup.score? agent g with
    | none => rfl
    | some score => exact absurd scored (absent score g member)

/-- What has been gathered from some groups: nothing if none of them has a score, and else the rules
of those with the greatest one. -/
def Gathered (agent : String) (groups : List RobotsGroup) : Option (Nat × List RobotsRule) → Prop
  | none => scores agent groups = ∅
  | some (top, rules) =>
    IsGreatest (scores agent groups) top ∧ rules = rulesAt agent groups top

theorem Gathered.step {best : Option (Nat × List RobotsRule)}
    (gathered : Gathered agent groups best) (g : RobotsGroup) :
    Gathered agent (groups ++ [g]) (gather agent best g) := by
  cases scored : RobotsGroup.score? agent g with
  | none =>
    simp only [gather, scored]
    cases best with
    | none => exact (scores_append_none scored).trans gathered
    | some best =>
      obtain ⟨greatest, same⟩ := gathered
      refine ⟨(scores_append_none scored).symm ▸ greatest, same.trans ?_⟩
      rw [rulesAt_append_other (by simp [scored])]
  | some score =>
    have more : scores agent (groups ++ [g]) = insert score (scores agent groups) :=
      scores_append_some scored
    cases best with
    | none =>
      simp only [gather, scored]
      have first : scores agent (groups ++ [g]) = {score} := by
        rw [more, show scores agent groups = ∅ from gathered, insert_empty_eq]
      refine ⟨first ▸ isGreatest_singleton, ?_⟩
      rw [rulesAt_append_same scored, rulesAt_eq_nil, List.nil_append]
      rw [show scores agent groups = ∅ from gathered]
      exact Set.notMem_empty score
    | some best =>
      obtain ⟨top, rules⟩ := best
      obtain ⟨greatest, rfl⟩ := gathered
      have greatestToo : IsGreatest (scores agent (groups ++ [g])) (max score top) :=
        more ▸ greatest.insert score
      simp only [gather, scored]
      split
      · next below =>
        rw [Nat.max_eq_right (Nat.le_of_lt below)] at greatestToo
        refine ⟨greatestToo, ?_⟩
        rw [rulesAt_append_other (by simp [scored, Nat.ne_of_lt below])]
      · next notBelow =>
        split
        · next same =>
          subst same
          rw [Nat.max_self] at greatestToo
          exact ⟨greatestToo, (rulesAt_append_same scored).symm⟩
        · next differs =>
          have above : top < score := by omega
          rw [Nat.max_eq_left (Nat.le_of_lt above)] at greatestToo
          refine ⟨greatestToo, ?_⟩
          rw [rulesAt_append_same scored, rulesAt_eq_nil, List.nil_append]
          intro member
          exact absurd (greatest.2 member) (Nat.not_le.mpr above)

private theorem Gathered.foldl {best : Option (Nat × List RobotsRule)}
    (gathered : Gathered agent groups best) (rest : List RobotsGroup) :
    Gathered agent (groups ++ rest) (rest.foldl (gather agent) best) := by
  induction rest generalizing groups best with
  | nil =>
    rw [List.append_nil]
    exact gathered
  | cons g rest ih =>
    have next := ih (gathered.step g)
    rwa [List.append_assoc] at next

theorem addressed_of_topScore? {rules : RobotsRules} (told : rules.topScore? agent = some top) :
    rules.addressed agent = rulesAt agent rules.groups top := by
  simp only [addressed, told]
  rfl

/-- An agent has rules where some group has a score, and they are those of the verdict. -/
theorem rulesFor_eq (rules : RobotsRules) (agent : String) :
    rules.rulesFor agent = (rules.topScore? agent).map fun _ => rules.addressed agent := by
  have start : Gathered agent [] none := by simp [Gathered, scores]
  have gathered := start.foldl rules.groups
  rw [List.nil_append] at gathered
  unfold rulesFor
  cases best : rules.groups.foldl (gather agent) none with
  | none =>
    rw [best] at gathered
    rw [topScore?_eq_none_iff.mpr gathered]
    rfl
  | some found =>
    rw [best] at gathered
    obtain ⟨greatest, same⟩ := gathered
    have told := topScore?_eq_some_iff.mpr greatest
    rw [told, addressed_of_topScore? told, ← same]
    rfl

theorem mem_addressed {rules : RobotsRules} {rule : RobotsRule} : rule ∈ rules.addressed agent ↔
    ∃ top, IsGreatest (scores agent rules.groups) top ∧ rule ∈ rulesAt agent rules.groups top := by
  cases told : rules.topScore? agent with
  | none =>
    have none := topScore?_eq_none_iff.mp told
    simp [addressed, told, none, IsGreatest]
  | some top =>
    have greatest := topScore?_eq_some_iff.mp told
    rw [addressed_of_topScore? told]
    constructor
    · intro member
      exact ⟨top, greatest, member⟩
    · intro found
      obtain ⟨other, greatestToo, member⟩ := found
      rwa [greatest.unique greatestToo]

end Groups

/-! ## The longest pattern that matches -/

section Patterns

variable {path : List Char} {rules : List RobotsRule} {r : RobotsRule} {length : Nat}

def lengths (path : List Char) (rules : List RobotsRule) : Set Nat :=
  {length | ∃ r ∈ rules, Pattern.matchesPath r.pattern.toList path ∧
    r.pattern.utf8ByteSize = length}

theorem mem_lengths : length ∈ lengths path rules ↔ ∃ r ∈ rules,
    Pattern.matchesPath r.pattern.toList path ∧ r.pattern.utf8ByteSize = length := Iff.rfl

def AllowsAt (path : List Char) (rules : List RobotsRule) (length : Nat) : Prop :=
  ∃ r ∈ rules, Pattern.matchesPath r.pattern.toList path ∧ r.pattern.utf8ByteSize = length ∧ r.allow

private theorem lengths_append_unmatched (unmatched : ¬Pattern.matchesPath r.pattern.toList path) :
    lengths path (rules ++ [r]) = lengths path rules := by
  ext length
  simp [mem_lengths, or_and_right, exists_or, unmatched]

private theorem lengths_append_matched (matched : Pattern.matchesPath r.pattern.toList path) :
    lengths path (rules ++ [r]) = insert r.pattern.utf8ByteSize (lengths path rules) := by
  ext length
  simp [mem_lengths, or_and_right, exists_or, matched, or_comm, @eq_comm _ length]

private theorem allowsAt_append : AllowsAt path (rules ++ [r]) length ↔ AllowsAt path rules length ∨
    Pattern.matchesPath r.pattern.toList path ∧ r.pattern.utf8ByteSize = length ∧ r.allow := by
  simp [AllowsAt, or_and_right, exists_or]

/-- What has been found among some rules: the length of the longest pattern that matches, and
whether one of that length is allowed. -/
def Weighed (path : List Char) (rules : List RobotsRule) : Option (Nat × Bool) → Prop
  | none => lengths path rules = ∅
  | some (length, allow) =>
    IsGreatest (lengths path rules) length ∧ (allow ↔ AllowsAt path rules length)

private theorem not_allowsAt (absent : length ∉ lengths path rules) :
    ¬AllowsAt path rules length := by
  intro allows
  obtain ⟨r, member, matched, size, _⟩ := allows
  exact absent ⟨r, member, matched, size⟩

theorem Weighed.step {best : Option (Nat × Bool)} (weighed : Weighed path rules best)
    (r : RobotsRule) : Weighed path (rules ++ [r]) (weigh path best r) := by
  by_cases matched : Pattern.matchesPath r.pattern.toList path
  case neg =>
    have same : lengths path (rules ++ [r]) = lengths path rules := lengths_append_unmatched matched
    have stays : weigh path best r = best := by simp [weigh, matched]
    rw [stays]
    cases best with
    | none => exact same.trans weighed
    | some best =>
      refine ⟨same.symm ▸ weighed.1, weighed.2.trans ?_⟩
      rw [allowsAt_append]
      simp [matched]
  case pos =>
    have more : lengths path (rules ++ [r]) = insert r.pattern.utf8ByteSize (lengths path rules) :=
      lengths_append_matched matched
    cases best with
    | none =>
      have first : lengths path (rules ++ [r]) = {r.pattern.utf8ByteSize} := by
        rw [more, show lengths path rules = ∅ from weighed, insert_empty_eq]
      have unallowed : ¬AllowsAt path rules r.pattern.utf8ByteSize := by
        apply not_allowsAt
        rw [show lengths path rules = ∅ from weighed]
        exact Set.notMem_empty _
      simp only [weigh, matched]
      refine ⟨first ▸ isGreatest_singleton, ?_⟩
      rw [allowsAt_append]
      simp [matched, unallowed]
    | some best =>
      obtain ⟨longest, allow⟩ := best
      obtain ⟨greatest, allows⟩ := weighed
      have greatestToo : IsGreatest (lengths path (rules ++ [r]))
          (max r.pattern.utf8ByteSize longest) := more ▸ greatest.insert _
      simp only [weigh, matched, Bool.not_true, Bool.false_eq_true, ↓reduceIte]
      split
      · next stays =>
        have within : r.pattern.utf8ByteSize ≤ longest := by omega
        rw [Nat.max_eq_right within] at greatestToo
        refine ⟨greatestToo, ?_⟩
        rw [allowsAt_append, ← allows]
        -- The new rule is shorter, or there is one of its length that is allowed.
        constructor
        · exact .inl
        · intro either
          rcases either with old | ⟨_, same, _⟩
          · exact old
          · exact (stays.resolve_left (by omega)).2
      · next yields =>
        have beyond : longest ≤ r.pattern.utf8ByteSize := by omega
        have unallowed : ¬AllowsAt path rules r.pattern.utf8ByteSize := by
          intro old
          rcases Nat.eq_or_lt_of_le beyond with same | above
          · exact yields (.inr ⟨same.symm, allows.mpr (same ▸ old)⟩)
          · refine not_allowsAt (fun member => ?_) old
            exact absurd (greatest.2 member) (Nat.not_le.mpr above)
        rw [Nat.max_eq_left beyond] at greatestToo
        refine ⟨greatestToo, ?_⟩
        rw [allowsAt_append]
        simp [matched, unallowed]

private theorem Weighed.foldl {best : Option (Nat × Bool)} (weighed : Weighed path rules best)
    (rest : List RobotsRule) : Weighed path (rules ++ rest) (rest.foldl (weigh path) best) := by
  induction rest generalizing rules best with
  | nil =>
    rw [List.append_nil]
    exact weighed
  | cons r rest ih =>
    have next := ih (weighed.step r)
    rwa [List.append_assoc] at next

def longest? (path : List Char) (rules : List RobotsRule) : Option Nat :=
  ((rules.filter fun r => Pattern.matchesPath r.pattern.toList path).map
    (·.pattern.utf8ByteSize)).max?

theorem longest?_eq_some_iff :
    longest? path rules = some length ↔ IsGreatest (lengths path rules) length := by
  unfold longest?
  rw [List.max?_eq_some_iff]
  simp only [List.mem_map, List.mem_filter, and_assoc]
  rfl

theorem longest?_eq_none_iff : longest? path rules = none ↔ lengths path rules = ∅ := by
  unfold longest?
  rw [List.max?_eq_none_iff, List.map_eq_nil_iff, List.filter_eq_nil_iff,
    Set.eq_empty_iff_forall_notMem]
  simp only [mem_lengths, not_exists, not_and]
  constructor
  · intro unmatched length r member matched
    exact absurd matched (unmatched r member)
  · intro absent r member matched
    exact absent _ r member matched rfl

theorem longestAllows_iff : longestAllows rules path ↔
    ∀ length, IsGreatest (lengths path rules) length → AllowsAt path rules length := by
  unfold longestAllows
  cases found : longest? path rules with
  | none =>
    have none := longest?_eq_none_iff.mp found
    rw [longest?] at found
    simp [found, none, IsGreatest]
  | some length =>
    have greatest := longest?_eq_some_iff.mp found
    rw [longest?] at found
    simp only [found, List.any_eq_true, List.mem_filter, Bool.and_eq_true, beq_iff_eq, and_assoc]
    constructor
    · intro allows other longest
      rwa [longest.unique greatest]
    · intro allows
      exact allows length greatest

/-- What the rules are found to say rule by rule they say together. -/
theorem foldl_weigh (rules : List RobotsRule) (path : List Char) :
    ((rules.foldl (weigh path) none).map (·.2)).getD true = longestAllows rules path := by
  have start : Weighed path [] none := by simp [Weighed, lengths]
  have weighed := start.foldl rules
  rw [List.nil_append] at weighed
  rw [Bool.eq_iff_iff, longestAllows_iff]
  cases best : rules.foldl (weigh path) none with
  | none =>
    rw [best] at weighed
    have none : lengths path rules = ∅ := weighed
    simp [none, IsGreatest]
  | some found =>
    rw [best] at weighed
    obtain ⟨greatest, allows⟩ := weighed
    refine allows.trans ⟨?_, fun told => told _ greatest⟩
    intro allowsHere length longest
    rwa [longest.unique greatest]

/-- More rules that are allowed deny nothing. -/
theorem longestAllows_of_allowed {more : List RobotsRule} (kept : ∀ r ∈ rules, r ∈ more)
    (new : ∀ r ∈ more, r ∈ rules ∨ r.allow) (allows : longestAllows rules path) :
    longestAllows more path := by
  rw [longestAllows_iff] at allows ⊢
  intro length greatest
  obtain ⟨r, member, matched, size⟩ := greatest.1
  rcases new r member with old | allowed
  · have greatestBefore : IsGreatest (lengths path rules) length := by
      refine ⟨⟨r, old, matched, size⟩, ?_⟩
      intro other among
      obtain ⟨before, stood, fits⟩ := among
      exact greatest.2 ⟨before, kept before stood, fits⟩
    obtain ⟨found, stood, fits⟩ := allows length greatestBefore
    exact ⟨found, kept found stood, fits⟩
  · exact ⟨r, member, matched, size, allowed⟩

/-- More rules that are not allowed allow nothing. -/
theorem longestAllows_of_denied {more : List RobotsRule} (kept : ∀ r ∈ rules, r ∈ more)
    (new : ∀ r ∈ more, r ∈ rules ∨ r.allow = false) (allows : longestAllows more path) :
    longestAllows rules path := by
  rw [longestAllows_iff] at allows ⊢
  intro length greatest
  obtain ⟨r, member, matched, size⟩ := greatest.1
  have here : length ∈ lengths path more := ⟨r, kept r member, matched, size⟩
  cases found : longest? path more with
  | none =>
    rw [longest?_eq_none_iff.mp found] at here
    exact absurd here (Set.notMem_empty _)
  | some longest =>
    have greatestAfter := longest?_eq_some_iff.mp found
    obtain ⟨best, among, matchedToo, sizeToo, allowed⟩ := allows longest greatestAfter
    -- An allowed rule is none of the new ones, so no pattern of the old ones is longer.
    have old : best ∈ rules := (new best among).resolve_right (by simp [allowed])
    have shorter : longest ≤ length := greatest.2 ⟨best, old, matchedToo, sizeToo⟩
    have same : longest = length := Nat.le_antisymm shorter (greatestAfter.2 here)
    exact ⟨best, old, matchedToo, same ▸ sizeToo, allowed⟩

private theorem longestAllows_congr {others : List RobotsRule}
    (same : ∀ r, r ∈ rules ↔ r ∈ others) :
    longestAllows rules path = longestAllows others path := by
  rw [Bool.eq_iff_iff]
  constructor
  · exact longestAllows_of_allowed (fun r => (same r).mp) fun r member => .inl ((same r).mpr member)
  · exact longestAllows_of_allowed (fun r => (same r).mpr) fun r member => .inl ((same r).mp member)

end Patterns

/-- The decision is the one that is said without an order among groups and rules. -/
theorem isAllowed_eq_verdict (rules : RobotsRules) (agent path : String) :
    rules.isAllowed agent path = rules.verdict agent path := by
  unfold isAllowed verdict
  cases rules.deniesAll with
  | true => rfl
  | false =>
    rw [rulesFor_eq]
    cases told : rules.topScore? (lowered agent) with
    | none =>
      simp only [addressed, told]
      rfl
    | some top => exact foldl_weigh _ _

/-! ## Other groups with the same rules -/

section Rearranged

variable {agent : String} {groups others more : List RobotsGroup} {rule : RobotsRule}

structure SaysSame (agent : String) (groups others : List RobotsGroup) : Prop where
  scores : scores agent groups = scores agent others
  rules : ∀ score r, r ∈ rulesAt agent groups score ↔ r ∈ rulesAt agent others score

private theorem SaysSame.symm (same : SaysSame agent groups others) :
    SaysSame agent others groups :=
  ⟨same.scores.symm, fun score r => (same.rules score r).symm⟩

theorem SaysSame.trans {last : List RobotsGroup} (first : SaysSame agent groups others)
    (second : SaysSame agent others last) : SaysSame agent groups last :=
  ⟨first.scores.trans second.scores,
    fun score r => (first.rules score r).trans (second.rules score r)⟩

private theorem SaysSame.among (same : SaysSame agent groups others)
    (earlier later : List RobotsGroup) :
    SaysSame agent (earlier ++ groups ++ later) (earlier ++ others ++ later) where
  scores := by simp only [scores_append, same.scores]
  rules score r := by simp only [rulesAt_append, List.mem_append, same.rules]

private theorem SaysSame.verdict (same : SaysSame (lowered agent) groups others) (deniesAll : Bool)
    (path : String) :
    verdict ⟨groups, deniesAll⟩ agent path = verdict ⟨others, deniesAll⟩ agent path := by
  have rules : ∀ r, r ∈ addressed ⟨groups, deniesAll⟩ (lowered agent) ↔
      r ∈ addressed ⟨others, deniesAll⟩ (lowered agent) := by
    intro r
    simp only [mem_addressed, same.scores, same.rules]
  simp only [RobotsRules.verdict, longestAllows_congr rules]

/-- Groups and rules in another order, and groups cut into several ones with the same agents. -/
inductive Rearranged : List RobotsGroup → List RobotsGroup → Prop where
  | groups {groups others : List RobotsGroup} : groups.Perm others → Rearranged groups others
  | rules {earlier later : List RobotsGroup} {agents : List String}
      {rules others : List RobotsRule} :
      rules.Perm others →
      Rearranged (earlier ++ [⟨agents, rules⟩] ++ later) (earlier ++ [⟨agents, others⟩] ++ later)
  | cut {earlier later : List RobotsGroup} {agents : List String} {parts : List (List RobotsRule)} :
      parts ≠ [] →
      Rearranged (earlier ++ [⟨agents, parts.flatten⟩] ++ later)
        (earlier ++ parts.map (RobotsGroup.mk agents) ++ later)
  | symm {groups others : List RobotsGroup} : Rearranged groups others → Rearranged others groups
  | trans {groups others last : List RobotsGroup} : Rearranged groups others →
      Rearranged others last → Rearranged groups last

private theorem Rearranged.saysSame (rearranged : Rearranged groups others) (agent : String) :
    SaysSame agent groups others := by
  induction rearranged with
  | groups perm =>
    refine ⟨?_, fun score r => ?_⟩
    · ext score
      simp only [mem_scores, perm.mem_iff]
    · simp only [mem_rulesAt, perm.mem_iff]
  | @rules earlier later agents rules others perm =>
    refine SaysSame.among ⟨?_, fun score r => ?_⟩ earlier later
    · ext score
      simp [mem_scores, RobotsGroup.score?]
    · simp [mem_rulesAt, RobotsGroup.score?, perm.mem_iff]
  | @cut earlier later agents parts cuts =>
    obtain ⟨part, among⟩ := List.exists_mem_of_ne_nil parts cuts
    refine SaysSame.among ⟨?_, fun score r => ?_⟩ earlier later
    · ext score
      simp only [mem_scores, List.mem_singleton, exists_eq_left, List.mem_map,
        exists_exists_and_eq_and]
      exact ⟨fun scored => ⟨part, among, scored⟩, fun scored => scored.elim fun _ both => both.2⟩
    · simp only [mem_rulesAt, List.mem_singleton, exists_eq_left, List.mem_map,
        exists_exists_and_eq_and, List.mem_flatten]
      constructor
      · intro found
        obtain ⟨scored, part, among, member⟩ := found
        exact ⟨part, among, scored, member⟩
      · intro found
        obtain ⟨part, among, scored, member⟩ := found
        exact ⟨scored, part, among, member⟩
  | symm _ ih => exact ih.symm
  | trans _ _ first second => exact first.trans second

inductive Adds (rule : RobotsRule) : List RobotsGroup → List RobotsGroup → Prop where
  | add {earlier later : List RobotsGroup} {agents : List String} {before after : List RobotsRule} :
      Adds rule (earlier ++ [⟨agents, before ++ after⟩] ++ later)
        (earlier ++ [⟨agents, before ++ rule :: after⟩] ++ later)

private theorem Adds.scores_eq (adds : Adds rule groups more) (agent : String) :
    scores agent groups = scores agent more := by
  cases adds with
  | @add earlier later agents before after =>
    ext score
    simp only [scores_append, Set.mem_union, mem_scores, List.mem_singleton, exists_eq_left]
    rfl

/-- The rules under a score stay, and the new one may be among them. -/
theorem Adds.mem_rulesAt (adds : Adds rule groups more) (agent : String) (score : Nat) :
    (∀ r ∈ rulesAt agent groups score, r ∈ rulesAt agent more score) ∧
      ∀ r ∈ rulesAt agent more score, r ∈ rulesAt agent groups score ∨ r = rule := by
  cases adds with
  | @add earlier later agents before after =>
    have same : RobotsGroup.score? agent ⟨agents, before ++ rule :: after⟩ =
        RobotsGroup.score? agent ⟨agents, before ++ after⟩ := rfl
    simp only [rulesAt_append, List.mem_append, RobotsRules.mem_rulesAt, List.mem_cons]
    grind

theorem Adds.mem_addressed (adds : Adds rule groups more) (agent : String) (deniesAll : Bool) :
    (∀ r ∈ addressed ⟨groups, deniesAll⟩ agent, r ∈ addressed ⟨more, deniesAll⟩ agent) ∧
      ∀ r ∈ addressed ⟨more, deniesAll⟩ agent,
        r ∈ addressed ⟨groups, deniesAll⟩ agent ∨ r = rule := by
  simp only [RobotsRules.mem_addressed, adds.scores_eq agent]
  constructor
  · intro r found
    obtain ⟨top, greatest, member⟩ := found
    exact ⟨top, greatest, (adds.mem_rulesAt agent top).1 r member⟩
  · intro r found
    obtain ⟨top, greatest, member⟩ := found
    exact ((adds.mem_rulesAt agent top).2 r member).imp_left fun old => ⟨top, greatest, old⟩

private theorem Adds.verdict_of_allow (adds : Adds rule groups more) (allow : rule.allow = true)
    (deniesAll : Bool) (agent path : String)
    (allows : verdict ⟨groups, deniesAll⟩ agent path = true) :
    verdict ⟨more, deniesAll⟩ agent path = true := by
  obtain ⟨kept, new⟩ := adds.mem_addressed (lowered agent) deniesAll
  unfold verdict at allows ⊢
  rw [Bool.and_eq_true] at allows ⊢
  refine ⟨allows.1, longestAllows_of_allowed kept ?_ allows.2⟩
  intro r member
  rcases new r member with old | same
  · exact .inl old
  · exact .inr (same.symm ▸ allow)

private theorem Adds.verdict_of_disallow (adds : Adds rule groups more)
    (disallow : rule.allow = false) (deniesAll : Bool) (agent path : String)
    (allows : verdict ⟨more, deniesAll⟩ agent path = true) :
    verdict ⟨groups, deniesAll⟩ agent path = true := by
  obtain ⟨kept, new⟩ := adds.mem_addressed (lowered agent) deniesAll
  unfold verdict at allows ⊢
  rw [Bool.and_eq_true] at allows ⊢
  refine ⟨allows.1, longestAllows_of_denied kept ?_ allows.2⟩
  intro r member
  rcases new r member with old | same
  · exact .inl old
  · exact .inr (same.symm ▸ disallow)

end Rearranged

/-- Of the rules of all groups that name the agent most closely the longest matching pattern
decides, and an allow rule wins. So no order of groups or rules matters. -/
theorem isAllowed_determined (rules : RobotsRules) (agent path : String) :
    rules.isAllowed agent path = rules.verdict agent path ∧
    (∀ others, Rearranged rules.groups others →
      isAllowed ⟨others, rules.deniesAll⟩ agent path = rules.isAllowed agent path) ∧
    ∀ rule more, Adds rule rules.groups more →
      (rule.allow = true → rules.isAllowed agent path = true →
        isAllowed ⟨more, rules.deniesAll⟩ agent path = true) ∧
      (rule.allow = false → rules.isAllowed agent path = false →
        isAllowed ⟨more, rules.deniesAll⟩ agent path = false) := by
  simp only [isAllowed_eq_verdict, true_and]
  refine ⟨fun others rearranged => ?_, fun rule more adds => ⟨fun allow => ?_, fun disallow => ?_⟩⟩
  · exact ((rearranged.saysSame (lowered agent)).verdict rules.deniesAll path).symm
  · exact adds.verdict_of_allow allow rules.deniesAll agent path
  · intro denied
    rw [Bool.eq_false_iff] at denied ⊢
    exact fun allows => denied (adds.verdict_of_disallow disallow rules.deniesAll agent path allows)

/-- Two groups name the agent equally closely, and a third one is for everybody else. -/
def posted : RobotsRules where
  groups :=
    [⟨["*"], [⟨false, "/"⟩]⟩, ⟨["bot"], [⟨false, "/a"⟩, ⟨true, "/a/b"⟩]⟩,
      ⟨["x", "bot"], [⟨true, "/a/*"⟩]⟩]
  deniesAll := false

def regrouped : List RobotsGroup :=
  [⟨["*"], [⟨false, "/"⟩]⟩, ⟨["bot"], [⟨false, "/a"⟩]⟩, ⟨["bot"], [⟨true, "/a/b"⟩]⟩,
    ⟨["x", "bot"], [⟨true, "/a/*"⟩]⟩]

def extended (rule : RobotsRule) : List RobotsGroup :=
  [⟨["*"], [⟨false, "/"⟩]⟩, ⟨["bot"], [⟨false, "/a"⟩, rule, ⟨true, "/a/b"⟩]⟩,
    ⟨["x", "bot"], [⟨true, "/a/*"⟩]⟩]

theorem posted_determined :
    posted.isAllowed "Bot-2" "/a/c" = true ∧ posted.isAllowed "Bot-2" "/a" = false ∧
      posted.isAllowed "Bot-2" "/a/c" = posted.verdict "Bot-2" "/a/c" ∧
      Rearranged posted.groups regrouped ∧ isAllowed ⟨regrouped, false⟩ "Bot-2" "/a/c" = true ∧
      Adds ⟨true, "/"⟩ posted.groups (extended ⟨true, "/"⟩) ∧
      isAllowed ⟨extended ⟨true, "/"⟩, false⟩ "Bot-2" "/a/c" = true ∧
      Adds ⟨false, "/a/c"⟩ posted.groups (extended ⟨false, "/a/c"⟩) ∧
      isAllowed ⟨extended ⟨false, "/a/c"⟩, false⟩ "Bot-2" "/a" = false := by
  have allowed : posted.isAllowed "Bot-2" "/a/c" = true := by decide
  have denied : posted.isAllowed "Bot-2" "/a" = false := by decide
  have cut : Rearranged posted.groups regrouped :=
    @Rearranged.cut [⟨["*"], [⟨false, "/"⟩]⟩] [⟨["x", "bot"], [⟨true, "/a/*"⟩]⟩] ["bot"]
      [[⟨false, "/a"⟩], [⟨true, "/a/b"⟩]] (by decide)
  have adds : ∀ rule, Adds rule posted.groups (extended rule) := fun rule =>
    @Adds.add rule [⟨["*"], [⟨false, "/"⟩]⟩] [⟨["x", "bot"], [⟨true, "/a/*"⟩]⟩] ["bot"]
      [⟨false, "/a"⟩] [⟨true, "/a/b"⟩]
  obtain ⟨verdict, same, more⟩ := isAllowed_determined posted "Bot-2" "/a/c"
  have less := (isAllowed_determined posted "Bot-2" "/a").2.2
  exact ⟨allowed, denied, verdict, cut, (same _ cut).trans allowed, adds _,
    (more _ _ (adds _)).1 rfl allowed, adds _, (less _ _ (adds _)).2 rfl denied⟩

end FeedIngest.Crawl.RobotsRules
