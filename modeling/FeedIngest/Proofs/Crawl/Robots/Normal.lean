import FeedIngest.Proofs.Crawl.Robots.Line

/-!
# The normal form of robots rules

Groups that are read from a text address somebody, and their names and patterns have no blanks
around them, no comment and no line break. Groups of this kind can be written out, with an empty
disallow line where a group has no rules, and what is written is read as the same groups. So what a
text says can be written out again without a loss.
-/

set_option autoImplicit false

namespace FeedIngest.Crawl.RobotsRules

open Text

/-! ## What is read -/

/-- A text that is read again as it stands after a key. -/
structure Plain (text : String) : Prop where
  trimmed : trim text.toList = text.toList
  bare : '#' ∉ text.toList
  unbroken : '\n' ∉ text.toList

structure PlainName (name : String) : Prop extends Plain name where
  lower : name.toList.map asciiLower = name.toList

structure PlainRule (r : RobotsRule) : Prop extends Plain r.pattern where
  nonempty : r.pattern ≠ ""

structure NormalGroup (g : RobotsGroup) : Prop where
  addressed : g.agents ≠ []
  agents : ∀ name ∈ g.agents, PlainName name
  rules : ∀ r ∈ g.rules, PlainRule r

def NormalDirective : Directive → Prop
  | .userAgent name => PlainName name
  | .rule _ pattern => Plain pattern

section Reading

variable {line key value comment : List Char} {d : Directive} {r : Reading}

private theorem plain_trim (bare : '#' ∉ value) (unbroken : '\n' ∉ value) :
    Plain (String.ofList (trim value)) where
  trimmed := by rw [String.toList_ofList, trim_trim]
  bare member := by
    rw [String.toList_ofList] at member
    exact bare ((framed_trim value).mem member)
  unbroken member := by
    rw [String.toList_ofList] at member
    exact unbroken ((framed_trim value).mem member)

private theorem plainName_lower {name : List Char} (plain : Plain (String.ofList name)) :
    PlainName (String.ofList (name.map asciiLower)) := by
  obtain ⟨trimmed, bare, unbroken⟩ := plain
  rw [String.toList_ofList] at trimmed bare unbroken
  constructor
  · constructor
    · rw [String.toList_ofList, trim_map_asciiLower, trimmed]
    · rwa [String.toList_ofList, mem_map_asciiLower (by decide)]
    · rwa [String.toList_ofList, mem_map_asciiLower (by decide)]
  · rw [String.toList_ofList, List.map_map]
    exact List.map_congr_left fun c _ => asciiLower_asciiLower c

private theorem normal_of_meaning? (bare : '#' ∉ value) (unbroken : '\n' ∉ value)
    (said : meaning? key value = some d) : NormalDirective d := by
  have plain := plain_trim bare unbroken
  simp only [meaning?] at said
  split at said
  · cases said
    exact plainName_lower plain
  · split at said
    · cases said
      exact plain
    · split at said
      · cases said
        exact plain
      · cases said

private theorem normal_of_directive? (unbroken : '\n' ∉ line) (said : directive? line = some d) :
    NormalDirective d := by
  obtain ⟨key, value, comment, cut, meaning⟩ := cut_of_directive? said
  refine normal_of_meaning? cut.value (fun member => unbroken ?_) meaning
  rw [cut.written]
  exact List.mem_append_right _ (List.mem_cons_of_mem _ (List.mem_append_left _ member))

structure Reading.Normal (r : Reading) : Prop where
  closed : ∀ g ∈ r.closed, NormalGroup g
  agents : ∀ name ∈ r.agents, PlainName name
  rules : ∀ rule ∈ r.rules, PlainRule rule
  inRules : r.inRules = true → r.agents ≠ []

theorem normal_start : Reading.start.Normal := ⟨nofun, nofun, nofun, nofun⟩

private theorem Reading.Normal.take (normal : r.Normal) (ok : NormalDirective d) :
    (r.take d).Normal := by
  cases d with
  | userAgent name =>
    have named : PlainName name := ok
    rw [Reading.take]
    split
    · next ruled =>
      refine ⟨?_, List.forall_mem_singleton.mpr named, nofun, nofun⟩
      refine List.forall_mem_append.mpr ⟨normal.closed, List.forall_mem_singleton.mpr ?_⟩
      exact ⟨normal.inRules ruled, normal.agents, normal.rules⟩
    · refine ⟨normal.closed, ?_, normal.rules, fun _ => List.append_ne_nil_of_right_ne_nil _ nofun⟩
      exact List.forall_mem_append.mpr ⟨normal.agents, List.forall_mem_singleton.mpr named⟩
  | rule allow pattern =>
    have plain : Plain pattern := ok
    rw [Reading.take]
    split
    · exact normal
    · next addressed =>
      have nonempty : r.agents ≠ [] := fun none => addressed (List.isEmpty_iff.mpr none)
      split
      · exact ⟨normal.closed, normal.agents, normal.rules, fun _ => nonempty⟩
      · next some =>
        refine ⟨normal.closed, normal.agents, ?_, fun _ => nonempty⟩
        refine List.forall_mem_append.mpr ⟨normal.rules, List.forall_mem_singleton.mpr ⟨plain, ?_⟩⟩
        rintro rfl
        exact some rfl

private theorem Reading.Normal.foldl (normal : r.Normal) {ds : List Directive}
    (ok : ∀ d ∈ ds, NormalDirective d) : (ds.foldl Reading.take r).Normal := by
  induction ds generalizing r with
  | nil => exact normal
  | cons d ds ih =>
    obtain ⟨first, later⟩ := List.forall_mem_cons.mp ok
    exact ih (normal.take first) later

private theorem Reading.Normal.groups (normal : r.Normal) : ∀ g ∈ r.groups, NormalGroup g := by
  rw [Reading.groups]
  split
  · exact normal.closed
  · next addressed =>
    refine List.forall_mem_append.mpr ⟨normal.closed, List.forall_mem_singleton.mpr ?_⟩
    exact ⟨fun none => addressed (List.isEmpty_iff.mpr none), normal.agents, normal.rules⟩

/-- The groups of a text are normal. -/
theorem normal_groups (text : String) : ∀ g ∈ (parse text).groups, NormalGroup g := by
  rw [parse_eq]
  refine (normal_start.foldl fun d member => ?_).groups
  obtain ⟨line, among, said⟩ := List.mem_filterMap.mp member
  exact normal_of_directive? ((written_lines _).unbroken line among) said

end Reading

/-! ## What is written -/

section Lines

variable {g : RobotsGroup} {groups : List RobotsGroup} {text : String}

def groupDirectives (g : RobotsGroup) : List Directive :=
  g.agents.map .userAgent ++
    if g.rules.isEmpty then [.rule false ""] else g.rules.map fun r => .rule r.allow r.pattern

theorem directive?_written {front key : String} (ends : front.toList = key.toList ++ [':', ' '])
    (colonless : ':' ∉ key.toList) (bareKey : '#' ∉ key.toList) (plain : Plain text) :
    directive? (front ++ text).toList = meaning? key.toList (' ' :: text.toList) := by
  have bare : '#' ∉ ' ' :: text.toList := by simp [plain.bare]
  have cut : Cut (front ++ text).toList key.toList (' ' :: text.toList) [] := by
    refine ⟨?_, colonless, bareKey, bare, nofun⟩
    rw [String.toList_append, ends, List.append_assoc, List.append_nil]
    rfl
  exact cut.directive?_eq

theorem trim_written (plain : Plain text) : trim (' ' :: text.toList) = text.toList := by
  have margin : Framed text.toList (' ' :: text.toList) :=
    ⟨[' '], [], List.forall_mem_singleton.mpr (by decide), nofun, (List.append_nil _).symm⟩
  rw [margin.trim_eq, plain.trimmed]

private theorem directive?_agentLine {name : String} (plain : PlainName name) :
    directive? ("User-agent: " ++ name).toList = some (.userAgent name) := by
  have ends : "User-agent: ".toList = "User-agent".toList ++ [':', ' '] := by decide
  have names : Names "User-agent".toList "user-agent" := (names_iff (by decide)).mpr (by decide)
  rw [directive?_written ends (by decide) (by decide) plain.toPlain, meaning?_of_userAgent names,
    trim_written plain.toPlain, plain.lower, String.ofList_toList]

private theorem directive?_ruleLine {r : RobotsRule} (plain : PlainRule r) :
    directive? ((if r.allow then "Allow: " else "Disallow: ") ++ r.pattern).toList =
      some (.rule r.allow r.pattern) := by
  cases r.allow with
  | true =>
    have ends : "Allow: ".toList = "Allow".toList ++ [':', ' '] := by decide
    have names : Names "Allow".toList "allow" := (names_iff (by decide)).mpr (by decide)
    rw [if_pos rfl, directive?_written ends (by decide) (by decide) plain.toPlain,
      meaning?_of_allow names, trim_written plain.toPlain, String.ofList_toList]
  | false =>
    have ends : "Disallow: ".toList = "Disallow".toList ++ [':', ' '] := by decide
    have names : Names "Disallow".toList "disallow" := (names_iff (by decide)).mpr (by decide)
    rw [if_neg Bool.false_ne_true, directive?_written ends (by decide) (by decide) plain.toPlain,
      meaning?_of_disallow names, trim_written plain.toPlain, String.ofList_toList]

private theorem directive?_bareLine : directive? "Disallow:".toList = some (.rule false "") := by
  decide

private theorem filterMap_renderGroup (normal : NormalGroup g) :
    (renderGroup g).filterMap (directive? ∘ String.toList) = groupDirectives g := by
  have agents : (g.agents.map ("User-agent: " ++ ·)).filterMap (directive? ∘ String.toList) =
      g.agents.map .userAgent := by
    rw [List.filterMap_map]
    refine List.filterMap_eq_map_iff_forall_eq_some.mpr fun name member => ?_
    rw [Function.comp_apply, Function.comp_apply, directive?_agentLine (normal.agents name member)]
  rw [renderGroup, groupDirectives, List.filterMap_append, agents]
  split
  · simp only [List.filterMap_cons, Function.comp_apply, directive?_bareLine, List.filterMap_nil]
  · rw [List.filterMap_map]
    refine congrArg _ (List.filterMap_eq_map_iff_forall_eq_some.mpr fun r member => ?_)
    rw [Function.comp_apply, Function.comp_apply, directive?_ruleLine (normal.rules r member)]

private theorem intercalate_ended (ls : List (List Char)) :
    ['\n'].intercalate (ls ++ [[]]) = ls.flatMap (· ++ ['\n']) := by
  induction ls with
  | nil => rfl
  | cons line ls ih =>
    have more : ls ++ [[]] ≠ [] := List.append_ne_nil_of_right_ne_nil _ (List.cons_ne_nil _ _)
    rw [List.cons_append, List.intercalate_cons_of_ne_nil more, ih, List.flatMap_cons]

private theorem toList_render (groups : List RobotsGroup) : (render groups).toList =
    ((groups.flatMap renderGroup).map String.toList).flatMap (· ++ ['\n']) := by
  simp [render, String.toList_join, List.flatMap_map]

structure RenderedLine (line : String) : Prop where
  unbroken : '\n' ∉ line.toList
  unmarked : ∃ c, line.toList.head? = some c ∧ c ≠ '\uFEFF'

private theorem renderedLine {key : String} (rendered : RenderedLine key) (plain : Plain text) :
    RenderedLine (key ++ text) := by
  obtain ⟨unbroken, c, first, unmarked⟩ := rendered
  constructor
  · rw [String.toList_append, List.mem_append, not_or]
    exact ⟨unbroken, plain.unbroken⟩
  · refine ⟨c, ?_, unmarked⟩
    rw [String.toList_append, List.head?_append, first]
    rfl

private theorem renderedLine_of_mem (normal : NormalGroup g) :
    ∀ line ∈ renderGroup g, RenderedLine line := by
  refine List.forall_mem_append.mpr ⟨List.forall_mem_map.mpr fun name member => ?_, ?_⟩
  · exact renderedLine ⟨by decide, 'U', by decide, by decide⟩ (normal.agents name member).toPlain
  · split
    · exact List.forall_mem_singleton.mpr ⟨by decide, 'D', by decide, by decide⟩
    · refine List.forall_mem_map.mpr fun r member => ?_
      have plain := (normal.rules r member).toPlain
      split
      · exact renderedLine ⟨by decide, 'A', by decide, by decide⟩ plain
      · exact renderedLine ⟨by decide, 'D', by decide, by decide⟩ plain

private theorem written_render (normal : ∀ g ∈ groups, NormalGroup g) :
    Written (render groups).toList ((groups.flatMap renderGroup).map String.toList ++ [[]]) := by
  have rendered : ∀ line ∈ groups.flatMap renderGroup, RenderedLine line := by
    intro line member
    obtain ⟨g, among, inside⟩ := List.mem_flatMap.mp member
    exact renderedLine_of_mem (normal g among) line inside
  refine ⟨⟨[], nofun, ?_⟩, ?_, ?_, List.append_ne_nil_of_right_ne_nil _ nofun⟩
  · rw [toList_render, intercalate_ended]
    rfl
  · rw [intercalate_ended]
    cases written : groups.flatMap renderGroup with
    | nil => nofun
    | cons line more =>
      obtain ⟨c, first, unmarked⟩ := (rendered line (written ▸ List.mem_cons_self)).unmarked
      rw [List.map_cons, List.flatMap_cons, List.head?_append, List.head?_append, first]
      exact fun marked => unmarked (Option.some.inj marked)
  · refine List.forall_mem_append.mpr ⟨List.forall_mem_map.mpr fun line member => ?_, ?_⟩
    · exact (rendered line member).unbroken
    · exact List.forall_mem_singleton.mpr List.not_mem_nil

private theorem directives_render (normal : ∀ g ∈ groups, NormalGroup g) :
    directives (lines (render groups).toList) = groups.flatMap groupDirectives := by
  have blank : directive? [] = none := by decide
  rw [(written_render normal).lines_eq, directives, List.filterMap_append, List.filterMap_map,
    List.filterMap_cons_none blank, List.filterMap_nil, List.append_nil, List.filterMap_flatMap]
  exact List.flatMap_congr fun g member => filterMap_renderGroup (normal g member)

end Lines

section Groups

variable {g : RobotsGroup} {groups : List RobotsGroup} {r : Reading}

def Reading.Ready (r : Reading) : Prop :=
  r.agents ≠ [] ∧ r.inRules = true ∨ r.agents = [] ∧ r.rules = [] ∧ r.inRules = false

theorem Reading.Ready.take (ready : r.Ready) (name : String) :
    r.take (.userAgent name) = ⟨r.groups, [name], [], false⟩ := by
  rcases r with ⟨closed, agents, rules, inRules⟩
  rcases ready with ⟨addressed, rfl⟩ | ⟨rfl, rfl, rfl⟩
  · have nonempty : agents.isEmpty = false := by simpa using addressed
    simp [Reading.take, Reading.groups, nonempty]
  · rfl

private theorem foldl_agents (closed : List RobotsGroup) (agents names : List String) :
    (names.map Directive.userAgent).foldl Reading.take ⟨closed, agents, [], false⟩ =
      ⟨closed, agents ++ names, [], false⟩ := by
  induction names generalizing agents with
  | nil => rw [List.append_nil]; rfl
  | cons name names ih =>
    have next := ih (agents ++ [name])
    rw [List.append_assoc] at next
    exact next

private theorem foldl_rules {agents : List String} (addressed : agents ≠ [])
    (closed : List RobotsGroup) (before rules : List RobotsRule) (inRules : Bool)
    (plain : ∀ rule ∈ rules, PlainRule rule) :
    (rules.map fun r => Directive.rule r.allow r.pattern).foldl Reading.take
        ⟨closed, agents, before, inRules⟩ =
      ⟨closed, agents, before ++ rules, inRules || !rules.isEmpty⟩ := by
  induction rules generalizing before inRules with
  | nil => simp
  | cons rule rules ih =>
    obtain ⟨first, later⟩ := List.forall_mem_cons.mp plain
    have taken : Reading.take ⟨closed, agents, before, inRules⟩ (.rule rule.allow rule.pattern) =
        ⟨closed, agents, before ++ [rule], true⟩ := by
      simp [Reading.take, addressed, first.nonempty]
    rw [List.map_cons, List.foldl_cons, taken, ih _ _ later]
    simp

private theorem Reading.Ready.foldl_group (ready : r.Ready) (normal : NormalGroup g) :
    (groupDirectives g).foldl Reading.take r = ⟨r.groups, g.agents, g.rules, true⟩ := by
  have opened : (g.agents.map Directive.userAgent).foldl Reading.take r =
      ⟨r.groups, g.agents, [], false⟩ := by
    obtain ⟨name, names, is⟩ := List.exists_cons_of_ne_nil normal.addressed
    rw [is, List.map_cons, List.foldl_cons, ready.take, foldl_agents]
    rfl
  rw [groupDirectives, List.foldl_append, opened]
  split
  · next ruleless =>
    simp [Reading.take, normal.addressed, List.isEmpty_iff.mp ruleless]
  · next ruled =>
    rw [foldl_rules normal.addressed _ _ _ _ normal.rules]
    simp [ruled]

private theorem foldl_groups (ready : r.Ready) (normal : ∀ g ∈ groups, NormalGroup g) :
    ((groups.flatMap groupDirectives).foldl Reading.take r).groups = r.groups ++ groups := by
  induction groups generalizing r with
  | nil => exact (List.append_nil _).symm
  | cons g groups ih =>
    obtain ⟨first, later⟩ := List.forall_mem_cons.mp normal
    have readyNext : Reading.Ready ⟨r.groups, g.agents, g.rules, true⟩ :=
      .inl ⟨first.addressed, rfl⟩
    rw [List.flatMap_cons, List.foldl_append, ready.foldl_group first, ih readyNext later,
      List.append_cons]
    congr 1
    simp [Reading.groups, first.addressed]

end Groups

/-- Normal groups are written out without a loss. -/
theorem parse_render {groups : List RobotsGroup} (normal : ∀ g ∈ groups, NormalGroup g) :
    parse (render groups) = ⟨groups, false⟩ := by
  have ready : Reading.start.Ready := .inr ⟨rfl, rfl, rfl⟩
  rw [parse_eq, directives_render normal, foldl_groups ready normal]
  rfl

/-- No other groups are. -/
theorem parse_render_iff (groups : List RobotsGroup) :
    parse (render groups) = ⟨groups, false⟩ ↔ ∀ g ∈ groups, NormalGroup g := by
  refine ⟨fun same => ?_, parse_render⟩
  have normal := normal_groups (render groups)
  rwa [same] at normal

/-- What a text says can be written out, and is then read as the same rules. -/
theorem parse_render_parse (text : String) : parse (render (parse text).groups) = parse text :=
  parse_render (normal_groups text)

/-- A group without rules gets an empty disallow line. -/
example : render (parse "USER-agent : Bot#1\n\nuser-agent:*\nallow:\nUser-agent: x\nAllow: /").groups =
    "User-agent: bot\nUser-agent: *\nDisallow:\nUser-agent: x\nAllow: /\n" := by decide

end FeedIngest.Crawl.RobotsRules
