import FeedIngest.Proofs.Crawl.Robots.Normal

/-!
# Texts one after the other

If a text leaves no group open to more agents, and the text after it begins with agents of its own,
then nothing crosses the seam between them: the first agent line closes whatever group there is, and
from there on the second text is read as if it stood alone.
-/

set_option autoImplicit false

namespace FeedIngest.Crawl.RobotsRules

/-! ## Lines -/

private theorem lines_append {cs other : List Char} (unmarked : other.head? ≠ some '\uFEFF') :
    lines (cs ++ '\n' :: other) = lines cs ++ lines other := by
  have dropped : (cs ++ '\n' :: other).dropWhile (· == '\uFEFF') =
      cs.dropWhile (· == '\uFEFF') ++ '\n' :: other := by
    rw [List.dropWhile_append]
    split
    · next gone =>
      rw [List.isEmpty_iff.mp gone, List.nil_append, List.dropWhile_cons_of_neg (by decide)]
    · rfl
  rw [lines, dropped, lines, lines, List.dropWhile_beq_eq_self_of_head?_ne unmarked]
  exact List.splitOnP_append_cons _ _ (beq_self_eq_true '\n')

/-! ## Readings -/

section Reading

variable {r : Reading} {d : Directive} {ds : List Directive}

/-- The same reading after some groups that were closed before it began. -/
def Reading.after (groups : List RobotsGroup) (r : Reading) : Reading :=
  { r with closed := groups ++ r.closed }

private theorem Reading.take_after (groups : List RobotsGroup) (r : Reading) (d : Directive) :
    (r.after groups).take d = (r.take d).after groups := by
  cases d with
  | userAgent name =>
    by_cases ruled : r.inRules = true <;> simp [Reading.take, Reading.after, ruled]
  | rule allow pattern =>
    by_cases nobody : r.agents.isEmpty = true
    · simp [Reading.take, Reading.after, nobody]
    · by_cases bare : pattern.isEmpty = true <;> simp [Reading.take, Reading.after, nobody, bare]

private theorem Reading.foldl_after (groups : List RobotsGroup) (r : Reading)
    (ds : List Directive) :
    ds.foldl Reading.take (r.after groups) = (ds.foldl Reading.take r).after groups := by
  induction ds generalizing r with
  | nil => rfl
  | cons d ds ih => rw [List.foldl_cons, Reading.take_after, ih, List.foldl_cons]

private theorem Reading.groups_after (groups : List RobotsGroup) (r : Reading) :
    (r.after groups).groups = groups ++ r.groups := by
  by_cases nobody : r.agents.isEmpty = true <;> simp [Reading.groups, Reading.after, nobody]

theorem Reading.Ready.take_rule (ready : r.Ready) (allow : Bool) (pattern : String) :
    (r.take (.rule allow pattern)).Ready := by
  rw [Reading.take]
  split
  · exact ready
  · next addressed =>
    have addressed : r.agents ≠ [] := mt List.isEmpty_iff.mpr addressed
    split
    · exact .inl ⟨addressed, rfl⟩
    · exact .inl ⟨addressed, rfl⟩

/-- Rule lines alone leave the next agent line to open a group. -/
theorem Reading.Ready.foldl_rules (ready : r.Ready) (rules : ∀ name, .userAgent name ∉ ds) :
    (ds.foldl Reading.take r).Ready := by
  refine List.foldlRecOn ds _ ready fun r ready d member => ?_
  cases d with
  | userAgent name => exact absurd member (rules name)
  | rule allow pattern => exact ready.take_rule allow pattern

theorem ready_start : Reading.start.Ready := .inr ⟨rfl, rfl, rfl⟩

/-- Before the first agent line nothing counts. -/
theorem ready_of_nobody (ds : List Directive)
    (nobody : (ds.foldl Reading.take .start).agents = []) :
    (ds.foldl Reading.take .start).Ready := by
  have kept : (ds.foldl Reading.take .start).agents = [] →
      (ds.foldl Reading.take .start).Ready := by
    refine List.foldlRecOn (motive := fun r : Reading => r.agents = [] → r.Ready) ds _
      (fun _ => ready_start) ?_
    intro r ih d _ nobody
    cases d with
    | userAgent name =>
      rw [Reading.take] at nobody
      split at nobody
      · cases nobody
      · exact absurd nobody (List.append_ne_nil_of_right_ne_nil _ (List.cons_ne_nil _ _))
    | rule allow pattern =>
      have agents : (r.take (.rule allow pattern)).agents = r.agents := by
        rw [Reading.take]
        split
        · rfl
        · split <;> rfl
      exact (ih (agents ▸ nobody)).take_rule allow pattern
  exact kept nobody

/-- After a rule line the next agent line opens a group, whatever came before. -/
theorem ready_foldl_rule (ds : List Directive) (allow : Bool) (pattern : String) :
    ((ds.foldl Reading.take .start).take (.rule allow pattern)).Ready := by
  by_cases nobody : (ds.foldl Reading.take .start).agents = []
  · exact (ready_of_nobody ds nobody).take_rule allow pattern
  · rw [Reading.take, if_neg (mt List.isEmpty_iff.mp nobody)]
    split
    · exact .inl ⟨nobody, rfl⟩
    · exact .inl ⟨nobody, rfl⟩

/-- What is read from an agent line on comes after the groups that were there. -/
theorem Reading.Ready.groups_foldl (ready : r.Ready) (name : String) (ds : List Directive) :
    ((.userAgent name :: ds).foldl Reading.take r).groups =
      r.groups ++ ((.userAgent name :: ds).foldl Reading.take .start).groups := by
  have opened : r.take (.userAgent name) =
      (Reading.start.take (.userAgent name)).after r.groups := by
    rw [ready.take, ready_start.take]
    exact congrArg (Reading.mk · [name] [] false) (List.append_nil _).symm
  rw [List.foldl_cons, opened, Reading.foldl_after, Reading.groups_after, List.foldl_cons]

end Reading

/-! ## Two texts -/

/-- There is no agent line, or there is a rule line after the last one. -/
def EndsRuled (ds : List Directive) : Prop :=
  (∀ name, .userAgent name ∉ ds) ∨
    ∃ earlier allow pattern later, ds = earlier ++ .rule allow pattern :: later ∧
      ∀ name, .userAgent name ∉ later

def BeginsWithAgent (ds : List Directive) : Prop := ∀ d ∈ ds.head?, ∃ name, d = .userAgent name

section Seam

variable {ds more : List Directive}

private theorem EndsRuled.ready (ends : EndsRuled ds) : (ds.foldl Reading.take .start).Ready := by
  rcases ends with rules | ⟨earlier, allow, pattern, later, rfl, rules⟩
  · exact ready_start.foldl_rules rules
  · rw [List.foldl_append, List.foldl_cons]
    exact (ready_foldl_rule earlier allow pattern).foldl_rules rules

private theorem groups_append (ends : EndsRuled ds) (begins : BeginsWithAgent more) :
    ((ds ++ more).foldl Reading.take .start).groups =
      (ds.foldl Reading.take .start).groups ++ (more.foldl Reading.take .start).groups := by
  rw [List.foldl_append]
  cases more with
  | nil => exact (List.append_nil _).symm
  | cons d more =>
    obtain ⟨name, rfl⟩ := begins d rfl
    exact ends.ready.groups_foldl name more

/-- The groups of two texts with a line break between them are the groups of the one and then those
of the other, if the one has a rule line after its last agent line, or no agent line at all, and the
other begins with an agent line and not with a byte order mark. -/
theorem parse_append {text other : String} (ends : EndsRuled (directives (lines text.toList)))
    (unmarked : other.toList.head? ≠ some '\uFEFF')
    (begins : BeginsWithAgent (directives (lines other.toList))) :
    parse (text ++ "\n" ++ other) = ⟨(parse text).groups ++ (parse other).groups, false⟩ := by
  have joined : (text ++ "\n" ++ other).toList = text.toList ++ '\n' :: other.toList := by
    rw [String.toList_append, String.toList_append, List.append_assoc]
    rfl
  have said : directives (lines (text.toList ++ '\n' :: other.toList)) =
      directives (lines text.toList) ++ directives (lines other.toList) := by
    rw [lines_append unmarked, directives, List.filterMap_append]
    rfl
  rw [parse_eq, joined, said, groups_append ends begins]
  rfl

end Seam

/-- The first text has a comment after its rule, and the second one a remark before its agents. -/
theorem parse_append_two :
    EndsRuled (directives (lines "\uFEFFDisallow: /x\nUser-agent: a\nDisallow:\n# end".toList)) ∧
    BeginsWithAgent (directives (lines "Sitemap: /s\nUser-agent: b\nAllow: /y".toList)) ∧
    parse ("\uFEFFDisallow: /x\nUser-agent: a\nDisallow:\n# end" ++ "\n" ++
        "Sitemap: /s\nUser-agent: b\nAllow: /y") =
      ⟨[⟨["a"], []⟩, ⟨["b"], [⟨true, "/y"⟩]⟩], false⟩ := by
  have ends : EndsRuled (directives
      (lines "\uFEFFDisallow: /x\nUser-agent: a\nDisallow:\n# end".toList)) := by
    have said : directives (lines "\uFEFFDisallow: /x\nUser-agent: a\nDisallow:\n# end".toList) =
        [.rule false "/x", .userAgent "a"] ++ .rule false "" :: [] := by decide
    exact .inr ⟨_, _, _, _, said, fun _ => List.not_mem_nil⟩
  have begins : BeginsWithAgent
      (directives (lines "Sitemap: /s\nUser-agent: b\nAllow: /y".toList)) := by
    have said : directives (lines "Sitemap: /s\nUser-agent: b\nAllow: /y".toList) =
        [.userAgent "b", .rule true "/y"] := by decide
    rw [said]
    rintro d ⟨⟩
    exact ⟨_, rfl⟩
  refine ⟨ends, begins, ?_⟩
  rw [parse_append ends (by decide) begins]
  decide

end FeedIngest.Crawl.RobotsRules
