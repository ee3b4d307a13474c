import Mathlib.Data.List.DropRight
import FeedIngest.Text.Blank

/-!
# Margins, letter case and separators

Trimming takes away just the blanks around a text, ASCII letters are the only characters that have
another case, and a text is split at the first separator.
-/

set_option autoImplicit false

namespace FeedIngest.Text

variable {c sep : Char} {cs core before after : List Char}

/-! ## Margins -/

def Blanks (cs : List Char) : Prop := ∀ c ∈ cs, isBlank c = true

theorem Blanks.not_mem (blank : Blanks cs) (visible : isBlank c = false) : c ∉ cs := by
  intro member
  rw [blank c member] at visible
  cases visible

def Framed (core cs : List Char) : Prop :=
  ∃ before after, Blanks before ∧ Blanks after ∧ cs = before ++ core ++ after

theorem trimEnd_eq_rdropWhile (cs : List Char) : trimEnd cs = cs.rdropWhile isBlank := rfl

private theorem trimStart_append (blank : Blanks before) (cs : List Char) :
    trimStart (before ++ cs) = trimStart cs := List.dropWhile_append_of_pos blank

private theorem trimEnd_append (blank : Blanks after) (cs : List Char) :
    trimEnd (cs ++ after) = trimEnd cs := by
  have turned : ∀ c ∈ after.reverse, isBlank c = true := fun c member =>
    blank c (List.mem_reverse.mp member)
  rw [trimEnd, dropEnd, List.reverse_append, List.dropWhile_append_of_pos turned]
  rfl

theorem trim_append (blank : Blanks after) (cs : List Char) : trim (cs ++ after) = trim cs := by
  rw [trim, trim, trimStart, trimStart, List.dropWhile_append]
  split
  · next nothing =>
    rw [List.isEmpty_iff.mp nothing, List.dropWhile_eq_nil_iff.mpr blank]
  · exact trimEnd_append blank _

theorem framed_trim (cs : List Char) : Framed (trim cs) cs := by
  refine ⟨cs.takeWhile isBlank, (trimStart cs).rtakeWhile isBlank, ?_, ?_, ?_⟩
  · exact fun c member => List.mem_takeWhile_imp member
  · exact fun c member => List.mem_rtakeWhile_imp member
  · rw [trim, trimEnd_eq_rdropWhile, List.append_assoc, List.rdropWhile_append_rtakeWhile,
      trimStart,
      List.takeWhile_append_dropWhile]

theorem Framed.trim_eq (framed : Framed core cs) : trim cs = trim core := by
  obtain ⟨before, after, blankBefore, blankAfter, rfl⟩ := framed
  rw [trim_append blankAfter, trim, trimStart_append blankBefore, trim]

theorem Framed.mem (framed : Framed core cs) (member : c ∈ core) : c ∈ cs := by
  obtain ⟨before, after, _, _, rfl⟩ := framed
  exact List.mem_append_left _ (List.mem_append_right _ member)

theorem Framed.mem_of_visible (framed : Framed core cs) (visible : isBlank c = false)
    (member : c ∈ cs) : c ∈ core := by
  obtain ⟨before, after, blankBefore, blankAfter, rfl⟩ := framed
  rcases List.mem_append.mp member with left | right
  · exact (List.mem_append.mp left).resolve_left (blankBefore.not_mem visible)
  · exact absurd right (blankAfter.not_mem visible)

theorem trim_trim (cs : List Char) : trim (trim cs) = trim cs := (framed_trim cs).trim_eq.symm

def Snug (cs : List Char) : Prop :=
  (∀ c ∈ cs.head?, isBlank c = false) ∧ ∀ c ∈ cs.getLast?, isBlank c = false

theorem trimStart_eq_self_iff : trimStart cs = cs ↔ ∀ c ∈ cs.head?, isBlank c = false := by
  cases cs with
  | nil => simp [trimStart]
  | cons c cs =>
    rw [trimStart, List.dropWhile_eq_self_iff]
    simp

theorem trimEnd_eq_self_iff : trimEnd cs = cs ↔ ∀ c ∈ cs.getLast?, isBlank c = false := by
  rw [trimEnd_eq_rdropWhile, List.rdropWhile_eq_self_iff]
  cases cs with
  | nil => simp
  | cons c cs => simp [List.getLast?_cons, List.getLast_eq_getLastD]

/-- Trimming changes just the texts that begin or end with a blank. -/
theorem trim_eq_self_iff : trim cs = cs ↔ Snug cs := by
  rw [Snug, ← trimStart_eq_self_iff, ← trimEnd_eq_self_iff]
  constructor
  · intro same
    have shorter : (trim cs).length ≤ (trimStart cs).length :=
      (List.rdropWhile_prefix isBlank _).length_le
    have start : trimStart cs = cs := by
      refine (List.dropWhile_suffix isBlank).eq_of_length_le ?_
      rwa [same] at shorter
    exact ⟨start, by rwa [trim, start] at same⟩
  · rintro ⟨start, last⟩
    rw [trim, start, last]

theorem trim_trimStart (cs : List Char) : trim (trimStart cs) = trim cs := by
  rw [trim, trimStart, trimStart, List.dropWhile_idempotent]
  rfl

theorem trim_trimEnd (cs : List Char) : trim (trimEnd cs) = trim cs := by
  refine (Framed.trim_eq ⟨[], cs.rtakeWhile isBlank, nofun, ?_, ?_⟩).symm
  · exact fun c member => List.mem_rtakeWhile_imp member
  · exact List.rdropWhile_append_rtakeWhile.symm

/-- Trimming stops at a character that is not blank. -/
theorem trim_around (visible : isBlank c = false) (before after : List Char) :
    trim (before ++ c :: after) = trimStart before ++ c :: trimEnd after := by
  have visible' : ¬isBlank c = true := Bool.eq_false_iff.mp visible
  have start : trimStart (before ++ c :: after) = trimStart before ++ c :: after := by
    rw [trimStart, List.dropWhile_append, List.dropWhile_cons_of_neg visible']
    split
    · next nothing => rw [trimStart, List.isEmpty_iff.mp nothing, List.nil_append]
    · rfl
  rw [trim, start, trimEnd, dropEnd, List.reverse_append, List.reverse_cons, List.append_assoc,
    List.dropWhile_append]
  split
  · next nothing =>
    have blank : trimEnd after = [] := by
      rw [trimEnd, dropEnd, List.isEmpty_iff.mp nothing, List.reverse_nil]
    rw [List.singleton_append, List.dropWhile_cons_of_neg visible', blank]
    simp
  · simp [trimEnd, dropEnd]

/-! ## Letter case -/

theorem toNat_asciiLower (c : Char) : (asciiLower c).toNat =
    if 65 ≤ c.toNat ∧ c.toNat ≤ 90 then c.toNat + 32 else c.toNat := by
  have upper : ('A' ≤ c ∧ c ≤ 'Z') ↔ 65 ≤ c.toNat ∧ c.toNat ≤ 90 := Iff.rfl
  rw [asciiLower]
  split
  · next letter =>
    have range := upper.mp letter
    have valid : (c.toNat + 32).isValidChar := .inl (by omega)
    rw [if_pos range, Char.ofNat, dif_pos valid]
    rfl
  · next other => rw [if_neg (mt upper.mpr other)]

theorem asciiLower_asciiLower (c : Char) : asciiLower (asciiLower c) = asciiLower c := by
  apply Char.toNat_inj.mp
  have lower := toNat_asciiLower c
  rw [toNat_asciiLower, if_neg]
  split at lower <;> omega

private theorem isBlank_eq_false (least : 33 ≤ c.toNat) (greatest : c.toNat < 127) :
    isBlank c = false := by
  simp [isBlank]
  omega

theorem isBlank_asciiLower (c : Char) : isBlank (asciiLower c) = isBlank c := by
  have lower := toNat_asciiLower c
  split at lower
  · have visible : isBlank c = false := isBlank_eq_false (by omega) (by omega)
    have visibleToo : isBlank (asciiLower c) = false := isBlank_eq_false (by omega) (by omega)
    rw [visible, visibleToo]
  · rw [Char.toNat_inj.mp lower]

/-- Characters that are no letters are not changed, and none is changed to them. -/
theorem mem_map_asciiLower (sign : c.toNat < 65) : c ∈ cs.map asciiLower ↔ c ∈ cs := by
  have same : ∀ d, asciiLower d = c ↔ d = c := by
    intro d
    have lower := toNat_asciiLower d
    constructor
    · rintro rfl
      apply Char.toNat_inj.mp
      split at lower <;> omega
    · rintro rfl
      apply Char.toNat_inj.mp
      rw [lower, if_neg (by omega)]
  simp [List.mem_map, same]

private theorem trimStart_map_asciiLower (cs : List Char) :
    trimStart (cs.map asciiLower) = (trimStart cs).map asciiLower := by
  have same : isBlank ∘ asciiLower = isBlank := funext isBlank_asciiLower
  rw [trimStart, List.dropWhile_map, same, trimStart]

private theorem trimEnd_map_asciiLower (cs : List Char) :
    trimEnd (cs.map asciiLower) = (trimEnd cs).map asciiLower := by
  have same : isBlank ∘ asciiLower = isBlank := funext isBlank_asciiLower
  rw [trimEnd, dropEnd, ← List.map_reverse, List.dropWhile_map, same, ← List.map_reverse, trimEnd,
    dropEnd]

theorem trim_map_asciiLower (cs : List Char) :
    trim (cs.map asciiLower) = (trim cs).map asciiLower := by
  rw [trim, trimStart_map_asciiLower, trimEnd_map_asciiLower, trim]

/-! ## Separators -/

theorem splitFirst?_of_not_mem (absent : sep ∉ before) (after : List Char) :
    splitFirst? sep (before ++ sep :: after) = some (before, after) := by
  induction before with
  | nil => rw [List.nil_append, splitFirst?, if_pos rfl]
  | cons c before ih =>
    obtain ⟨other, rest⟩ := not_or.mp (mt List.mem_cons.mpr absent)
    rw [List.cons_append, splitFirst?, if_neg (Ne.symm other), ih rest]
    rfl

theorem splitFirst?_eq_none_iff : splitFirst? sep cs = none ↔ sep ∉ cs := by
  constructor
  · intro unsplit member
    obtain ⟨before, after, rfl, absent⟩ := List.eq_append_cons_of_mem member
    rw [splitFirst?_of_not_mem absent] at unsplit
    cases unsplit
  · intro absent
    induction cs with
    | nil => rfl
    | cons c cs ih =>
      obtain ⟨other, rest⟩ := not_or.mp (mt List.mem_cons.mpr absent)
      rw [splitFirst?, if_neg (Ne.symm other), ih rest]
      rfl

theorem not_mem_of_mem_splitOn {piece : List Char} (member : piece ∈ cs.splitOn sep) :
    sep ∉ piece := by
  induction cs generalizing piece with
  | nil =>
    rw [List.mem_singleton.mp member]
    exact List.not_mem_nil
  | cons c cs ih =>
    rw [List.splitOn_cons_eq_if_modifyHead] at member
    split at member
    · rcases List.mem_cons.mp member with rfl | later
      · exact List.not_mem_nil
      · exact ih later
    · next other =>
      obtain ⟨first, later, cut⟩ := List.exists_cons_of_ne_nil (List.splitOn_ne_nil sep cs)
      rw [cut] at member ih
      rcases List.mem_cons.mp member with rfl | among
      · rw [List.mem_cons, not_or]
        exact ⟨fun same => other (beq_iff_eq.mpr same.symm), ih List.mem_cons_self⟩
      · exact ih (List.mem_cons_of_mem _ among)

end FeedIngest.Text
