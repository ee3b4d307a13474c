import FeedIngest.Proofs.Crawl.Robots.Rules

/-!
# Whose groups have a say

A group speaks to everybody or to the agents whose names begin with one of its names. Groups for
other agents do not matter to the verdict. A group with an empty name is for nobody, but an empty
name begins every name: where no group names the agent, such a group counts like one for everybody.
-/

set_option autoImplicit false

namespace FeedIngest.Crawl

/-- A group has a name that the agent's name begins with, and that is not empty. -/
def RobotsGroup.names (agent : String) (g : RobotsGroup) : Bool :=
  g.agents.any fun name => name != "*" && name != "" && name.toList.isPrefixOf agent.toList

def RobotsGroup.concerns (agent : String) (g : RobotsGroup) : Bool :=
  g.agents.any fun name => name == "*" || name != "" && name.toList.isPrefixOf agent.toList

namespace RobotsRules

open Text

def within (rules : RobotsRules) (chosen : RobotsGroup → Bool) : RobotsRules :=
  { rules with groups := rules.groups.filter chosen }

def rulesUnder (names : List String) (groups : List RobotsGroup) : List RobotsRule :=
  (groups.filter fun g => names.any g.agents.contains).flatMap (·.rules)

variable {agent : String} {rules : RobotsRules} {chosen : RobotsGroup → Bool} {g : RobotsGroup}
  {score top : Nat}

/-! ## Leaving out groups -/

private theorem rulesAt_filter {groups : List RobotsGroup}
    (kept : ∀ g ∈ groups, RobotsGroup.score? agent g = some score → chosen g = true) :
    rulesAt agent (groups.filter chosen) score = rulesAt agent groups score := by
  unfold rulesAt
  rw [List.filter_filter]
  congr 1
  refine List.filter_congr fun g member => ?_
  by_cases scored : RobotsGroup.score? agent g = some score
  · simp [scored, kept g member scored]
  · simp [scored]

/-- Who keeps the groups with the greatest score keeps the rules for the agent. -/
theorem addressed_within (greatest : IsGreatest (scores agent rules.groups) top)
    (kept : ∀ g ∈ rules.groups, RobotsGroup.score? agent g = some top → chosen g = true) :
    (rules.within chosen).addressed agent = rules.addressed agent := by
  have greatestToo : IsGreatest (scores agent (rules.within chosen).groups) top := by
    constructor
    · obtain ⟨g, member, scored⟩ := greatest.1
      exact ⟨g, List.mem_filter.mpr ⟨member, kept g member scored⟩, scored⟩
    · rintro score ⟨g, member, scored⟩
      exact greatest.2 ⟨g, (List.mem_filter.mp member).1, scored⟩
  rw [addressed_of_topScore? (topScore?_eq_some_iff.mpr greatest),
    addressed_of_topScore? (topScore?_eq_some_iff.mpr greatestToo)]
  exact rulesAt_filter kept

theorem addressed_of_unscored (unscored : scores agent rules.groups = ∅) :
    rules.addressed agent = [] := by
  simp only [addressed, topScore?_eq_none_iff.mpr unscored]

private theorem scores_within (unscored : scores agent rules.groups = ∅) :
    scores agent (rules.within chosen).groups = ∅ := by
  rw [Set.eq_empty_iff_forall_notMem] at unscored ⊢
  rintro score ⟨g, member, scored⟩
  exact unscored score ⟨g, (List.mem_filter.mp member).1, scored⟩

/-- Groups without a score may be left out. -/
theorem addressed_within_of_scored
    (kept : ∀ g ∈ rules.groups, chosen g = false → RobotsGroup.score? agent g = none) :
    (rules.within chosen).addressed agent = rules.addressed agent := by
  cases told : rules.topScore? agent with
  | none =>
    have unscored := topScore?_eq_none_iff.mp told
    rw [addressed_of_unscored unscored, addressed_of_unscored (scores_within unscored)]
  | some top =>
    refine addressed_within (topScore?_eq_some_iff.mp told) fun g member scored => ?_
    by_contra out
    rw [kept g member (Bool.eq_false_iff.mpr out)] at scored
    cases scored

/-! ## Scores and names -/

theorem exists_name_of_score? (scored : RobotsGroup.score? agent g = some score) :
    ∃ name ∈ g.agents, RobotsGroup.nameScore? agent name = some score := by
  have among := List.max?_mem scored
  exact List.mem_filterMap.mp among

theorem score?_ge {name : String} (member : name ∈ g.agents)
    (scored : RobotsGroup.nameScore? agent name = some score) :
    ∃ total, RobotsGroup.score? agent g = some total ∧ score ≤ total := by
  have among : score ∈ g.agents.filterMap (RobotsGroup.nameScore? agent) :=
    List.mem_filterMap.mpr ⟨name, member, scored⟩
  cases total : RobotsGroup.score? agent g with
  | none =>
    rw [List.max?_eq_none_iff.mp total] at among
    cases among
  | some total' => exact ⟨total', rfl, (List.max?_eq_some_iff.mp total).2 score among⟩

/-- A name scores as one for everybody, as an empty one, or as a beginning of the agent's name. -/
theorem nameScore?_cases {name : String}
    (scored : RobotsGroup.nameScore? agent name = some score) :
    name = "*" ∧ score = 0 ∨ name = "" ∧ score = 0 ∨
      (name ≠ "*" ∧ name ≠ "" ∧ name.toList.isPrefixOf agent.toList = true) ∧ 0 < score := by
  unfold RobotsGroup.nameScore? at scored
  split at scored
  · next star => exact .inl ⟨star, (Option.some.inj scored).symm⟩
  · next other =>
    split at scored
    · next begins =>
      cases scored
      by_cases empty : name = ""
      · subst empty
        exact .inr (.inl ⟨rfl, rfl⟩)
      · refine .inr (.inr ⟨⟨other, empty, begins⟩, Nat.pos_of_ne_zero fun none => empty ?_⟩)
        exact String.utf8ByteSize_eq_zero_iff.mp none
    · cases scored

theorem names_of_score? (scored : RobotsGroup.score? agent g = some score) (positive : 0 < score) :
    g.names agent = true := by
  obtain ⟨name, member, named⟩ := exists_name_of_score? scored
  rcases nameScore?_cases named with ⟨_, none⟩ | ⟨_, none⟩ | ⟨⟨other, nonempty, begins⟩, _⟩
  · exact absurd none (Nat.ne_of_gt positive)
  · exact absurd none (Nat.ne_of_gt positive)
  · refine List.any_eq_true.mpr ⟨name, member, ?_⟩
    simp [other, nonempty, begins]

theorem exists_score_of_names (named : g.names agent = true) :
    ∃ score, RobotsGroup.score? agent g = some score ∧ 0 < score := by
  obtain ⟨name, member, begins⟩ := List.any_eq_true.mp named
  simp only [Bool.and_eq_true, bne_iff_ne, ne_eq] at begins
  obtain ⟨⟨other, nonempty⟩, begins⟩ := begins
  have scored : RobotsGroup.nameScore? agent name = some name.utf8ByteSize := by
    rw [RobotsGroup.nameScore?, if_neg other, if_pos begins]
  obtain ⟨total, is, least⟩ := score?_ge member scored
  have positive : 0 < name.utf8ByteSize :=
    Nat.pos_of_ne_zero fun none => nonempty (String.utf8ByteSize_eq_zero_iff.mp none)
  exact ⟨total, is, Nat.lt_of_lt_of_le positive least⟩

private theorem concerns_of_names (named : g.names agent = true) : g.concerns agent = true := by
  obtain ⟨name, member, begins⟩ := List.any_eq_true.mp named
  simp only [Bool.and_eq_true, bne_iff_ne, ne_eq] at begins
  refine List.any_eq_true.mpr ⟨name, member, ?_⟩
  simp [begins.1.2, begins.2]

/-- A group that does not name the agent is for him if it is for everybody. -/
theorem concerns_eq_contains (unnamed : g.names agent = false) :
    g.concerns agent = g.agents.contains "*" := by
  rw [Bool.eq_iff_iff, List.contains_iff_mem]
  constructor
  · intro concerned
    obtain ⟨name, member, fits⟩ := List.any_eq_true.mp concerned
    have unfit := List.any_eq_false.mp unnamed name member
    by_cases star : name = "*"
    · exact star ▸ member
    · simp [star] at fits unfit
      exact absurd fits.2 (by simpa using unfit fits.1)
  · intro member
    exact List.any_eq_true.mpr ⟨"*", member, by simp⟩

private theorem score?_of_concerns_or_empty
    (concerned : (g.concerns agent || g.agents.contains "") = false) :
    RobotsGroup.score? agent g = none := by
  obtain ⟨unconcerned, addressed⟩ := Bool.or_eq_false_iff.mp concerned
  cases scored : RobotsGroup.score? agent g with
  | none => rfl
  | some score =>
    obtain ⟨name, member, named⟩ := exists_name_of_score? scored
    have unfit := List.any_eq_false.mp unconcerned name member
    rcases nameScore?_cases named with ⟨star, _⟩ | ⟨empty, _⟩ | ⟨⟨_, nonempty, begins⟩, _⟩
    · simp [star] at unfit
    · rw [empty, ← List.contains_iff_mem, addressed] at member
      cases member
    · simp [nonempty, begins] at unfit

/-- Where no group names the agent, those with a score are the groups for everybody and those with
an empty name. -/
theorem score?_eq_zero_iff (unnamed : g.names agent = false) :
    RobotsGroup.score? agent g = some 0 ↔ "*" ∈ g.agents ∨ "" ∈ g.agents := by
  constructor
  · intro scored
    obtain ⟨name, member, named⟩ := exists_name_of_score? scored
    rcases nameScore?_cases named with ⟨rfl, _⟩ | ⟨rfl, _⟩ | ⟨_, positive⟩
    · exact .inl member
    · exact .inr member
    · exact absurd positive (Nat.lt_irrefl 0)
  · intro member
    have scored : ∃ total, RobotsGroup.score? agent g = some total ∧ 0 ≤ total := by
      rcases member with star | empty
      · exact score?_ge star rfl
      · exact score?_ge empty rfl
    obtain ⟨total, scored, _⟩ := scored
    rcases Nat.eq_zero_or_pos total with rfl | positive
    · exact scored
    · rw [names_of_score? scored positive] at unnamed
      cases unnamed

/-- Where no group names the agent, the rules for him are those of the groups for everybody and of
those with an empty name. -/
theorem addressed_of_unnamed (unnamed : ∀ g ∈ rules.groups, g.names agent = false) :
    rules.addressed agent = rulesUnder ["*", ""] rules.groups := by
  have least : rulesAt agent rules.groups 0 = rulesUnder ["*", ""] rules.groups := by
    unfold rulesAt rulesUnder
    congr 1
    refine List.filter_congr fun g member => ?_
    rw [Bool.eq_iff_iff, beq_iff_eq, score?_eq_zero_iff (unnamed g member)]
    simp
  rw [← least]
  cases told : rules.topScore? agent with
  | none =>
    have unscored := topScore?_eq_none_iff.mp told
    rw [addressed_of_unscored unscored, rulesAt_eq_nil]
    rw [unscored]
    exact Set.notMem_empty 0
  | some top =>
    obtain ⟨g, member, scored⟩ := (topScore?_eq_some_iff.mp told).1
    rcases Nat.eq_zero_or_pos top with rfl | positive
    · exact addressed_of_topScore? told
    · have named := names_of_score? scored positive
      rw [unnamed g member] at named
      cases named

/-- Of these only those of the groups for everybody are left when the other groups go. -/
theorem addressed_within_of_unnamed (unnamed : ∀ g ∈ rules.groups, g.names agent = false) :
    (rules.within (RobotsGroup.concerns agent)).addressed agent = rulesUnder ["*"] rules.groups := by
  have unnamedToo : ∀ g ∈ (rules.within (RobotsGroup.concerns agent)).groups,
      g.names agent = false := fun g member => unnamed g (List.mem_filter.mp member).1
  rw [addressed_of_unnamed unnamedToo]
  unfold rulesUnder within
  rw [List.filter_filter]
  congr 1
  refine List.filter_congr fun g member => ?_
  rw [concerns_eq_contains (unnamed g member)]
  simp only [List.any_cons, List.any_nil, Bool.or_false]
  cases g.agents.contains "*" <;> simp

/-- Where a group names the agent, the other groups may go. -/
theorem addressed_within_of_named (member : g ∈ rules.groups) (named : g.names agent = true) :
    (rules.within (RobotsGroup.concerns agent)).addressed agent = rules.addressed agent := by
  obtain ⟨score, scored, positive⟩ := exists_score_of_names named
  cases told : rules.topScore? agent with
  | none =>
    have unscored := topScore?_eq_none_iff.mp told
    have among : score ∈ scores agent rules.groups := ⟨g, member, scored⟩
    rw [unscored] at among
    exact absurd among (Set.notMem_empty score)
  | some top =>
    have greatest := topScore?_eq_some_iff.mp told
    have above : 0 < top := Nat.lt_of_lt_of_le positive (greatest.2 ⟨g, member, scored⟩)
    exact addressed_within greatest fun other _ scoredToo =>
      concerns_of_names (names_of_score? scoredToo above)

/-- Groups that neither concern an agent nor have an empty name have no say. Groups with an empty
name speak like those for everybody. -/
theorem isAllowed_within_iff (rules : RobotsRules) (agent path : String) :
    (rules.within fun g => g.concerns (lowered agent) || g.agents.contains "").isAllowed agent path =
        rules.isAllowed agent path ∧
      ((rules.within (RobotsGroup.concerns (lowered agent))).isAllowed agent path =
          rules.isAllowed agent path ↔
        rules.deniesAll = true ∨ (∃ g ∈ rules.groups, g.names (lowered agent) = true) ∨
          longestAllows (rulesUnder ["*"] rules.groups) path.toList =
            longestAllows (rulesUnder ["*", ""] rules.groups) path.toList) := by
  simp only [isAllowed_eq_verdict, verdict]
  constructor
  · rw [addressed_within_of_scored fun g _ out => score?_of_concerns_or_empty out]
    rfl
  · rw [show (rules.within (RobotsGroup.concerns (lowered agent))).deniesAll = rules.deniesAll
      from rfl]
    cases rules.deniesAll with
    | true => simp
    | false =>
      by_cases named : ∃ g ∈ rules.groups, g.names (lowered agent) = true
      · obtain ⟨g, member, names⟩ := named
        rw [addressed_within_of_named member names]
        simp only [true_iff]
        exact .inr (.inl ⟨g, member, names⟩)
      · have unnamed : ∀ g ∈ rules.groups, g.names (lowered agent) = false := by
          intro g member
          rw [Bool.eq_false_iff]
          exact fun names => named ⟨g, member, names⟩
        rw [addressed_within_of_unnamed unnamed, addressed_of_unnamed unnamed]
        simp [named]

/-- A group that is addressed to nobody blocks everybody. -/
theorem not_forall_isAllowed_within :
    ¬∀ text agent path : String,
      ((parse text).within (RobotsGroup.concerns (lowered agent))).isAllowed agent path =
        (parse text).isAllowed agent path := by
  intro claimed
  exact absurd (claimed "User-agent:\nDisallow: /" "bot" "/") (by decide)

end RobotsRules

end FeedIngest.Crawl
