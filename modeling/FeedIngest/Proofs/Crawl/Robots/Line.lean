import FeedIngest.Crawl.Robots.Rules
import FeedIngest.Proofs.Text.Blank

/-!
# Lines of a robots file

What follows the leading byte order marks of a text is cut into lines, and a line into its key, its
value and its comment. A line says what its key and its value say, up to the blanks around them; a
line without a colon before its comment says nothing.
-/

set_option autoImplicit false

namespace FeedIngest.Crawl.RobotsRules

open Text

/-! ## One line -/

section Line

variable {line key value comment : List Char}

structure Cut (line key value comment : List Char) : Prop where
  written : line = key ++ ':' :: (value ++ comment)
  colonless : ':' ∉ key
  key : '#' ∉ key
  value : '#' ∉ value
  comment : ∀ c ∈ comment.head?, c = '#'

def meaning? (key value : List Char) : Option Directive :=
  let key := String.ofList ((trim key).map asciiLower)
  let value := trim value
  if key = "user-agent" then some (.userAgent (String.ofList (value.map asciiLower)))
  else if key = "allow" then some (.rule true (String.ofList value))
  else if key = "disallow" then some (.rule false (String.ofList value))
  else none

theorem directive?_eq (line : List Char) : directive? line =
    (splitFirst? ':' (trim (line.takeWhile (· != '#')))).bind fun cut => meaning? cut.1 cut.2 := by
  unfold directive?
  split <;> next split => rw [split]; rfl

private theorem takeWhile_bare {content : List Char} (bare : '#' ∉ content)
    (ends : ∀ c ∈ comment.head?, c = '#') :
    (content ++ comment).takeWhile (· != '#') = content := by
  have kept : ∀ c ∈ content, (c != '#') = true := by
    intro c member
    exact bne_iff_ne.mpr fun same => bare (same ▸ member)
  rw [List.takeWhile_append_of_pos kept]
  cases comment with
  | nil => exact List.append_nil content
  | cons c comment =>
    rw [ends c rfl, List.takeWhile_cons_of_neg (by decide), List.append_nil]

private theorem Cut.takeWhile_eq (cut : Cut line key value comment) :
    line.takeWhile (· != '#') = key ++ ':' :: value := by
  have bare : '#' ∉ key ++ ':' :: value := by
    simp [cut.key, cut.value]
  have whole : line = (key ++ ':' :: value) ++ comment := by
    rw [cut.written, List.append_assoc, List.cons_append]
  rw [whole, takeWhile_bare bare cut.comment]

private theorem meaning?_trim (key value : List Char) :
    meaning? (trimStart key) (trimEnd value) = meaning? key value := by
  rw [meaning?, trim_trimStart, trim_trimEnd, meaning?]

theorem Cut.directive?_eq (cut : Cut line key value comment) :
    directive? line = meaning? key value := by
  have visible : isBlank ':' = false := by decide
  have colonless : ':' ∉ trimStart key := fun member =>
    cut.colonless ((List.dropWhile_suffix isBlank).mem member)
  rw [RobotsRules.directive?_eq, cut.takeWhile_eq, trim_around visible,
    splitFirst?_of_not_mem colonless]
  exact meaning?_trim key value

theorem directive?_of_colonless (colonless : ':' ∉ line.takeWhile (· != '#')) :
    directive? line = none := by
  have unsplit : ':' ∉ trim (line.takeWhile (· != '#')) := fun member =>
    colonless ((framed_trim _).mem member)
  rw [directive?_eq, splitFirst?_eq_none_iff.mpr unsplit]
  rfl

theorem exists_cut (colon : ':' ∈ line.takeWhile (· != '#')) :
    ∃ key value comment, Cut line key value comment := by
  obtain ⟨key, value, content, colonless⟩ := List.eq_append_cons_of_mem colon
  have bare : '#' ∉ line.takeWhile (· != '#') := by
    intro member
    have other := List.mem_takeWhile_imp member
    exact bne_iff_ne.mp other rfl
  rw [content] at bare
  simp only [List.mem_append, List.mem_cons, not_or] at bare
  refine ⟨key, value, line.dropWhile (· != '#'), ?_, colonless, bare.1, bare.2.2, ?_⟩
  · have whole : line.takeWhile (· != '#') ++ line.dropWhile (· != '#') = line :=
      List.takeWhile_append_dropWhile
    rw [content, List.append_assoc] at whole
    exact whole.symm
  · intro c first
    have stops := List.head?_dropWhile_not (· != '#') line
    rw [Option.mem_def.mp first] at stops
    simpa using stops

/-- A line says something only if it can be cut. -/
theorem cut_of_directive? {d : Directive} (said : directive? line = some d) :
    ∃ key value comment, Cut line key value comment ∧ meaning? key value = some d := by
  have colon : ':' ∈ line.takeWhile (· != '#') := by
    by_contra colonless
    rw [directive?_of_colonless colonless] at said
    cases said
  obtain ⟨key, value, comment, cut⟩ := exists_cut colon
  exact ⟨key, value, comment, cut, cut.directive?_eq.symm.trans said⟩

/-! ### Keys -/

/-- A key is a name, up to blanks around it and to the case of its letters. -/
def Names (key : List Char) (name : String) : Prop :=
  ∃ core, Framed core key ∧ core.map asciiLower = name.toList

theorem names_iff {name : String} (trimmed : trim name.toList = name.toList) :
    Names key name ↔ String.ofList ((trim key).map asciiLower) = name := by
  constructor
  · rintro ⟨core, framed, lower⟩
    rw [framed.trim_eq, ← trim_map_asciiLower, lower, trimmed, String.ofList_toList]
  · intro same
    refine ⟨trim key, framed_trim key, ?_⟩
    rw [← same, String.toList_ofList]

theorem meaning?_of_userAgent (names : Names key "user-agent") (value : List Char) :
    meaning? key value = some (.userAgent (String.ofList ((trim value).map asciiLower))) := by
  rw [names_iff (by decide)] at names
  simp only [meaning?, names]
  rfl

theorem meaning?_of_allow (names : Names key "allow") (value : List Char) :
    meaning? key value = some (.rule true (String.ofList (trim value))) := by
  rw [names_iff (by decide)] at names
  simp only [meaning?, names]
  rfl

theorem meaning?_of_disallow (names : Names key "disallow") (value : List Char) :
    meaning? key value = some (.rule false (String.ofList (trim value))) := by
  rw [names_iff (by decide)] at names
  simp only [meaning?, names]
  rfl

theorem meaning?_of_other (userAgent : ¬Names key "user-agent") (allow : ¬Names key "allow")
    (disallow : ¬Names key "disallow") (value : List Char) : meaning? key value = none := by
  rw [names_iff (by decide)] at userAgent allow disallow
  simp only [meaning?]
  rw [if_neg userAgent, if_neg allow, if_neg disallow]

end Line

/-! ## The lines of a text -/

section Lines

variable {text : List Char} {ls : List (List Char)}

/-- A text that consists of leading byte order marks and of lines. -/
structure Written (text : List Char) (ls : List (List Char)) : Prop where
  written : ∃ marks, (∀ c ∈ marks, c = '\uFEFF') ∧ text = marks ++ ['\n'].intercalate ls
  unmarked : (['\n'].intercalate ls).head? ≠ some '\uFEFF'
  unbroken : ∀ line ∈ ls, '\n' ∉ line
  nonempty : ls ≠ []

theorem written_lines (text : List Char) : Written text (lines text) := by
  have unsplit : ['\n'].intercalate (lines text) = text.dropWhile (· == '\uFEFF') :=
    List.intercalate_splitOn '\n'
  refine ⟨⟨text.takeWhile (· == '\uFEFF'), ?_, ?_⟩, ?_, ?_, List.splitOn_ne_nil _ _⟩
  · intro c member
    have mark := List.mem_takeWhile_imp member
    exact beq_iff_eq.mp mark
  · rw [unsplit, List.takeWhile_append_dropWhile]
  · rw [unsplit]
    intro marked
    have stops := List.head?_dropWhile_not (· == '\uFEFF') text
    rw [marked] at stops
    cases stops
  · exact fun line member => not_mem_of_mem_splitOn member

/-- A text has only one list of lines. -/
theorem Written.lines_eq (written : Written text ls) : lines text = ls := by
  obtain ⟨⟨marks, onlyMarks, rfl⟩, unmarked, unbroken, nonempty⟩ := written
  have dropped : ∀ c ∈ marks, (c == '\uFEFF') = true := fun c member =>
    beq_iff_eq.mpr (onlyMarks c member)
  rw [lines, List.dropWhile_append_of_pos dropped,
    List.dropWhile_beq_eq_self_of_head?_ne unmarked, List.splitOn_intercalate '\n' unbroken nonempty]

def directives (ls : List (List Char)) : List Directive := ls.filterMap directive?

theorem parse_eq (text : String) :
    parse text = ⟨((directives (lines text.toList)).foldl Reading.take .start).groups, false⟩ := rfl

end Lines

end FeedIngest.Crawl.RobotsRules
