import Mathlib.Data.List.Basic
import FeedIngest.Crawl.Robots.Pattern
import FeedIngest.Proofs.Text.Blank

/-!
# What a path pattern means

A pattern is cut into its pieces in exactly one way. It matches a path if some runs of characters
between the pieces make up the path, up to a tail. The matcher takes the first place for every
piece: whatever follows a later place is the end of what follows the first one, and a run may always
be longer. Only the last piece of a pattern that is tied to the end has no choice of places.
-/

set_option autoImplicit false

namespace FeedIngest

/-! ## The places of a piece -/

namespace Text

variable {piece cs rest : List Char}

theorem dropHead?_eq_some_iff : dropHead? piece cs = some rest ↔ cs = piece ++ rest := by
  induction piece generalizing cs with
  | nil => simp [dropHead?]
  | cons h hs ih =>
    cases cs with
    | nil => simp [dropHead?]
    | cons c cs =>
      by_cases same : h = c
      · rw [dropHead?, if_pos same, ih, same, List.cons_append, List.cons.injEq]
        exact (and_iff_right rfl).symm
      · rw [dropHead?, if_neg same]
        refine ⟨nofun, fun equal => absurd (List.cons.inj equal).1.symm same⟩

theorem exists_run_of_dropThrough? (found : dropThrough? piece cs = some rest) :
    ∃ run, cs = run ++ piece ++ rest := by
  induction cs with
  | nil =>
    cases piece with
    | nil => exact ⟨[], Option.some.inj found⟩
    | cons => cases found
  | cons c cs ih =>
    rw [dropThrough?] at found
    cases here : dropHead? piece (c :: cs) with
    | some after =>
      rw [here] at found
      rw [← Option.some.inj found]
      exact ⟨[], dropHead?_eq_some_iff.mp here⟩
    | none =>
      rw [here] at found
      obtain ⟨run, is⟩ := ih found
      exact ⟨c :: run, by rw [is]; rfl⟩

/-- The first place of a piece leaves at least what any other place leaves. -/
theorem exists_first_place (run piece rest : List Char) :
    ∃ found, dropThrough? piece (run ++ piece ++ rest) = some found ∧ rest <:+ found := by
  induction run with
  | nil =>
    have here : dropHead? piece (piece ++ rest) = some rest := dropHead?_eq_some_iff.mpr rfl
    refine ⟨rest, ?_, List.suffix_refl rest⟩
    rw [List.nil_append]
    cases is : piece ++ rest with
    | nil =>
      obtain ⟨rfl, rfl⟩ := List.append_eq_nil_iff.mp is
      rfl
    | cons c cs =>
      rw [is] at here
      rw [dropThrough?, here]
  | cons c run ih =>
    rw [List.cons_append, List.cons_append, dropThrough?]
    cases here : dropHead? piece (c :: (run ++ piece ++ rest)) with
    | some after =>
      refine ⟨after, rfl, ?_⟩
      -- Both are ends of the same text, and this one is the longer.
      have whole := dropHead?_eq_some_iff.mp here
      have afterEnd : after <:+ c :: (run ++ piece ++ rest) := ⟨piece, whole.symm⟩
      have restEnd : rest <:+ c :: (run ++ piece ++ rest) := ⟨c :: (run ++ piece), by simp⟩
      refine List.suffix_of_suffix_length_le restEnd afterEnd ?_
      have lengths := congrArg List.length whole
      simp only [List.length_cons, List.length_append] at lengths
      omega
    | none => exact ih

end Text

namespace Crawl.Pattern

open Text

/-! ## Cutting a pattern -/

def Pieces.text (p : Pieces) : List Char :=
  ['*'].intercalate (p.first :: p.later) ++ if p.anchored then ['$'] else []

/-- A pattern has these pieces: no star is left in them, and a `$` at its very end is none of their
characters. -/
structure Pieces.Make (p : Pieces) (pattern : List Char) : Prop where
  written : pattern = p.text
  starless : ∀ piece ∈ p.first :: p.later, '*' ∉ piece
  untied : p.anchored = false → pattern.getLast? ≠ some '$'

def body (pattern : List Char) : List Char :=
  if pattern.getLast? == some '$' then pattern.dropLast else pattern

theorem pieces_spec (pattern : List Char) :
    (pieces pattern).anchored = (pattern.getLast? == some '$') ∧
      (pieces pattern).first :: (pieces pattern).later = (body pattern).splitOn '*' := by
  unfold pieces body
  dsimp only
  split
  · next none => exact absurd none (List.splitOn_ne_nil _ _)
  · next first later cut => exact ⟨rfl, cut.symm⟩

theorem body_append (pattern : List Char) :
    body pattern ++ (if pattern.getLast? == some '$' then ['$'] else []) = pattern := by
  unfold body
  split
  · next tied => exact List.dropLast_append_getLast? '$' (Option.mem_def.mpr (beq_iff_eq.mp tied))
  · exact List.append_nil pattern

private theorem pieces_make (pattern : List Char) : (pieces pattern).Make pattern := by
  obtain ⟨anchored, cut⟩ := pieces_spec pattern
  constructor
  · rw [Pieces.text, cut, anchored, List.intercalate_splitOn, body_append]
  · rw [cut]
    exact fun piece member => not_mem_of_mem_splitOn member
  · intro untied
    rwa [anchored, beq_eq_false_iff_ne] at untied

/-- A pattern has no other pieces than those it is cut into. -/
theorem make_iff {p : Pieces} {pattern : List Char} : p.Make pattern ↔ p = pieces pattern := by
  constructor
  · intro make
    have tied : p.anchored = (pattern.getLast? == some '$') := by
      cases is : p.anchored with
      | false => exact (beq_eq_false_iff_ne.mpr (make.untied is)).symm
      | true =>
        rw [make.written, Pieces.text, is, if_pos rfl, List.getLast?_concat, beq_self_eq_true]
    have cut : (body pattern).splitOn '*' = p.first :: p.later := by
      have same : body pattern = ['*'].intercalate (p.first :: p.later) := by
        have whole := (body_append pattern).trans make.written
        rw [Pieces.text, tied] at whole
        exact List.append_cancel_right whole
      rw [same, List.splitOn_intercalate _ make.starless (List.cons_ne_nil _ _)]
    obtain ⟨anchored, cutToo⟩ := pieces_spec pattern
    obtain ⟨first, later⟩ := List.cons.inj (cut.symm.trans cutToo.symm)
    cases p
    cases is : pieces pattern
    simp_all
  · rintro rfl
    exact pieces_make pattern

/-! ## Filling the runs -/

section Runs

variable {anchored : Bool} {piece : List Char} {later : List (List Char)}
  {cs rest longer : List Char}

theorem fillsLater_cons_iff : FillsLater anchored (piece :: later) cs ↔
    ∃ run rest, cs = run ++ piece ++ rest ∧ FillsLater anchored later rest := by
  constructor
  · intro filled
    cases filled with
    | piece run _ _ rest filled => exact ⟨run, rest, rfl, filled⟩
  · rintro ⟨run, rest, rfl, filled⟩
    exact .piece run piece later rest filled

/-- Unless nothing but the end may follow, what follows a place may as well be longer. -/
theorem FillsLater.extend (free : later = [] → anchored = false)
    (filled : FillsLater anchored later rest) (ends : rest <:+ longer) :
    FillsLater anchored later longer := by
  cases filled with
  | tail =>
    refine .tail longer fun tied => ?_
    rw [free rfl] at tied
    cases tied
  | piece run piece later rest filled =>
    obtain ⟨front, rfl⟩ := ends
    exact fillsLater_cons_iff.mpr ⟨front ++ run, rest, by simp, filled⟩

/-- Nothing is missed by taking the first place. -/
theorem fillsLater_first_place (free : later = [] → anchored = false) :
    FillsLater anchored (piece :: later) cs ↔
      ∃ rest, dropThrough? piece cs = some rest ∧ FillsLater anchored later rest := by
  rw [fillsLater_cons_iff]
  constructor
  · rintro ⟨run, rest, rfl, filled⟩
    obtain ⟨found, first, ends⟩ := exists_first_place run piece rest
    exact ⟨found, first, filled.extend free ends⟩
  · rintro ⟨rest, first, filled⟩
    obtain ⟨run, is⟩ := exists_run_of_dropThrough? first
    exact ⟨run, rest, is, filled⟩

theorem fillsLater_nil_iff : FillsLater anchored [] cs ↔ (anchored = true → cs = []) :=
  ⟨fun filled => by cases filled with | tail _ ends => exact ends, .tail cs⟩

theorem matchLater_iff : matchLater anchored later cs = true ↔ FillsLater anchored later cs := by
  fun_induction matchLater anchored later cs with
  | case1 cs =>
    rw [fillsLater_nil_iff, ← List.isEmpty_iff]
    cases anchored <;> simp
  | case2 last cs tied =>
    rw [List.isPrefixOf_iff_prefix, List.reverse_prefix, fillsLater_cons_iff]
    constructor
    · rintro ⟨run, rfl⟩
      exact ⟨run, [], (List.append_nil _).symm, fillsLater_nil_iff.mpr fun _ => rfl⟩
    · rintro ⟨run, rest, rfl, filled⟩
      rw [fillsLater_nil_iff.mp filled tied, List.append_nil]
      exact List.suffix_append run last
  | case3 last cs untied =>
    have free : anchored = false := Bool.eq_false_iff.mpr untied
    have fills : ∀ rest, FillsLater anchored [] rest := fun rest =>
      fillsLater_nil_iff.mpr fun tied => absurd tied untied
    rw [fillsLater_first_place fun _ => free, Option.isSome_iff_exists]
    simp only [fills, and_true]
  | case4 cs piece later several rest found ih =>
    rw [ih, fillsLater_first_place fun none => absurd none several, found]
    simp only [Option.some.injEq, exists_eq_left']
  | case5 cs piece later several nowhere =>
    rw [fillsLater_first_place fun none => absurd none several, nowhere]
    simp

theorem fillsLater_iff : FillsLater anchored later cs ↔
    ∃ (runs : List (List Char)) (tail : List Char), runs.length = later.length ∧
      (anchored = true → tail = []) ∧ cs = (List.zipWith (· ++ ·) runs later).flatten ++ tail := by
  constructor
  · intro filled
    induction filled with
    | tail rest ends => exact ⟨[], rest, rfl, ends, rfl⟩
    | piece run piece later rest _ ih =>
      obtain ⟨runs, tail, length, ends, rfl⟩ := ih
      refine ⟨run :: runs, tail, congrArg (· + 1) length, ends, ?_⟩
      rw [List.zipWith_cons_cons, List.flatten_cons, List.append_assoc (run ++ piece)]
  · rintro ⟨runs, tail, length, ends, rfl⟩
    induction later generalizing runs with
    | nil =>
      rw [List.length_eq_zero_iff.mp length]
      exact .tail tail ends
    | cons piece later ih =>
      obtain ⟨run, runs, rfl⟩ := List.exists_cons_of_length_eq_add_one length
      rw [List.zipWith_cons_cons, List.flatten_cons, List.append_assoc (run ++ piece)]
      exact .piece run piece later _ (ih runs (Nat.succ.inj length))

end Runs

private theorem matchesPath_iff_matches (pattern path : List Char) :
    matchesPath pattern path = true ↔ Matches pattern path := by
  unfold matchesPath Matches
  dsimp only
  cases begins : dropHead? (pieces pattern).first path with
  | some rest =>
    rw [dropHead?_eq_some_iff] at begins
    subst begins
    simp [matchLater_iff]
  | none =>
    refine ⟨nofun, ?_⟩
    rintro ⟨rest, is, _⟩
    rw [dropHead?_eq_some_iff.mpr is] at begins
    cases begins

/-- A pattern has its pieces in one way only, and it matches just the paths that are made up of
them, with a run of characters between each two and a tail, which is empty if the pattern is tied to
the end. -/
theorem matchesPath_iff_runs (pattern path : List Char) :
    (∀ p : Pieces, p.Make pattern ↔ p = pieces pattern) ∧
      (matchesPath pattern path = true ↔ ∃ (runs : List (List Char)) (tail : List Char),
        runs.length = (pieces pattern).later.length ∧
        ((pieces pattern).anchored = true → tail = []) ∧
        path = (pieces pattern).first ++
          (List.zipWith (· ++ ·) runs (pieces pattern).later).flatten ++ tail) := by
  refine ⟨fun _ => make_iff, ?_⟩
  rw [matchesPath_iff_matches, Matches]
  simp only [fillsLater_iff]
  constructor
  · rintro ⟨rest, rfl, runs, tail, length, ends, rfl⟩
    exact ⟨runs, tail, length, ends, (List.append_assoc _ _ _).symm⟩
  · rintro ⟨runs, tail, length, ends, rfl⟩
    exact ⟨_, List.append_assoc _ _ _, runs, tail, length, ends, rfl⟩

/-- A `$` that does not stand at the very end is a character like any other. -/
example : matchesPath "/a$b*c$".toList "/a$bxc".toList = true ∧
    matchesPath "/a$b*c$".toList "/a$bxcd".toList = false := by decide

end Crawl.Pattern

end FeedIngest
