import Mathlib.Logic.Relation
import FeedIngest.Proofs.Crawl.Robots.Line

/-!
# Edits that change no rules

Lines that say nothing may be put in anywhere, and a line may be given a comment, other letter case
where that does not count, and other blanks around its parts. Each such edit leaves what the lines
say as it is, so the rules that are read after any number of them are the same.
-/

set_option autoImplicit false

namespace FeedIngest.Crawl.RobotsRules

open Text

/-! ## Edits -/

def SameCore (cs other : List Char) : Prop := ∃ core, Framed core cs ∧ Framed core other

def SameLetters (cs other : List Char) : Prop := cs.map asciiLower = other.map asciiLower

/-- A line that says nothing: it is blank, only a comment, has no colon before its comment, or a key
that is none of the three known ones. -/
inductive Silent : List Char → Prop where
  | blank {line : List Char} : Blanks line → Silent line
  | remark {margin text : List Char} : Blanks margin → Silent (margin ++ '#' :: text)
  | colonless {line : List Char} : ':' ∉ line.takeWhile (· != '#') → Silent line
  | otherKey {line key value comment : List Char} :
      Cut line key value comment → ¬Names key "user-agent" → ¬Names key "allow" →
      ¬Names key "disallow" → Silent line

inductive Altered : List Char → List Char → Prop where
  | remark {line text : List Char} : Altered line (line ++ '#' :: text)
  | keyCase {line key value comment other : List Char} :
      Cut line key value comment → SameLetters key other →
      Altered line (other ++ ':' :: (value ++ comment))
  | agentCase {line key value comment other : List Char} :
      Cut line key value comment → Names key "user-agent" → SameLetters value other →
      Altered line (key ++ ':' :: (other ++ comment))
  | margin {line other : List Char} : SameCore line other → Altered line other
  | keyMargin {line key value comment other : List Char} :
      Cut line key value comment → SameCore key other →
      Altered line (other ++ ':' :: (value ++ comment))
  | valueMargin {line key value comment other : List Char} :
      Cut line key value comment → SameCore value other →
      Altered line (key ++ ':' :: (other ++ comment))
  | ending {line : List Char} : Altered line (line ++ ['\r'])

inductive Edit : List (List Char) → List (List Char) → Prop where
  | insert {earlier later : List (List Char)} {line : List Char} :
      Silent line → Edit (earlier ++ later) (earlier ++ line :: later)
  | alter {earlier later : List (List Char)} {line other : List Char} :
      Altered line other → Edit (earlier ++ line :: later) (earlier ++ other :: later)

/-! ## What an edited line says -/

section Line

variable {line other key value comment core text margin : List Char}

private theorem SameCore.trim_eq (same : SameCore key other) : trim key = trim other := by
  obtain ⟨core, framed, framedToo⟩ := same
  exact framed.trim_eq.trans framedToo.trim_eq.symm

private theorem SameCore.mem {c : Char} (same : SameCore key other) (visible : isBlank c = false)
    (member : c ∈ other) : c ∈ key := by
  obtain ⟨core, framed, framedToo⟩ := same
  exact framed.mem (framedToo.mem_of_visible visible member)

private theorem SameLetters.trim_eq (same : SameLetters key other) :
    (trim key).map asciiLower = (trim other).map asciiLower := by
  rw [← trim_map_asciiLower, same, trim_map_asciiLower]

private theorem SameLetters.mem {c : Char} (same : SameLetters key other) (sign : c.toNat < 65)
    (member : c ∈ other) : c ∈ key := by
  rw [← mem_map_asciiLower sign] at member ⊢
  rwa [same]

private theorem meaning?_congr_key (same : (trim key).map asciiLower = (trim other).map asciiLower)
    (value : List Char) : meaning? key value = meaning? other value := by
  unfold meaning?
  rw [same]

private theorem meaning?_congr_value (key : List Char) (same : trim value = trim other) :
    meaning? key value = meaning? key other := by
  unfold meaning?
  rw [same]

theorem isBlank_of_sign {c : Char} (sign : c = ':' ∨ c = '#') : isBlank c = false := by
  rcases sign with rfl | rfl <;> decide

private theorem Cut.rekey (cut : Cut line key value comment)
    (kept : ∀ c, c = ':' ∨ c = '#' → c ∈ other → c ∈ key) :
    Cut (other ++ ':' :: (value ++ comment)) other value comment where
  written := rfl
  colonless member := cut.colonless (kept ':' (.inl rfl) member)
  key member := cut.key (kept '#' (.inr rfl) member)
  value := cut.value
  comment := cut.comment

private theorem Cut.revalue (cut : Cut line key value comment) (bare : '#' ∉ other) :
    Cut (key ++ ':' :: (other ++ comment)) key other comment where
  written := rfl
  colonless := cut.colonless
  key := cut.key
  value := bare
  comment := cut.comment

theorem takeWhile_remark (line text : List Char) :
    (line ++ '#' :: text).takeWhile (· != '#') = line.takeWhile (· != '#') := by
  rw [List.takeWhile_append, List.takeWhile_cons_of_neg (by decide)]
  split
  · next whole =>
    rw [List.append_nil]
    exact ((List.takeWhile_prefix _).eq_of_length whole).symm
  · rfl

/-- Blanks around a line are blanks around what stands before its comment. -/
theorem trim_takeWhile (framed : Framed core line) :
    trim (line.takeWhile (· != '#')) = trim (core.takeWhile (· != '#')) := by
  have bare : ∀ cs, Blanks cs → ∀ c ∈ cs, (c != '#') = true := by
    intro cs blank c member
    refine bne_iff_ne.mpr fun same => ?_
    exact blank.not_mem (isBlank_of_sign (.inr same)) member
  obtain ⟨before, after, blankBefore, blankAfter, rfl⟩ := framed
  rw [List.append_assoc, List.takeWhile_append_of_pos (bare before blankBefore),
    Framed.trim_eq ⟨before, [], blankBefore, nofun, (List.append_nil _).symm⟩,
    List.takeWhile_append]
  split
  · next whole =>
    rw [List.takeWhile_eq_self_iff.mpr (bare after blankAfter), trim_append blankAfter,
      (List.takeWhile_prefix _).eq_of_length whole]
  · rfl

private theorem directive?_of_framed (framed : Framed core line) :
    directive? line = directive? core := by
  rw [directive?_eq, trim_takeWhile framed, directive?_eq]

private theorem Silent.directive? (silent : Silent line) : directive? line = none := by
  cases silent with
  | blank blank =>
    refine directive?_of_colonless fun member => ?_
    exact blank.not_mem (isBlank_of_sign (.inl rfl)) ((List.takeWhile_prefix _).mem member)
  | remark blank =>
    refine directive?_of_colonless fun member => ?_
    rw [takeWhile_remark] at member
    exact blank.not_mem (isBlank_of_sign (.inl rfl)) ((List.takeWhile_prefix _).mem member)
  | colonless colonless => exact directive?_of_colonless colonless
  | otherKey cut userAgent allow disallow =>
    rw [cut.directive?_eq, meaning?_of_other userAgent allow disallow]

private theorem Altered.directive? (altered : Altered line other) :
    directive? other = directive? line := by
  cases altered with
  | remark => rw [directive?_eq, takeWhile_remark, directive?_eq]
  | keyCase cut same =>
    have recut := cut.rekey fun c sign => same.mem (by rcases sign with rfl | rfl <;> decide)
    rw [recut.directive?_eq, cut.directive?_eq, meaning?_congr_key same.trim_eq]
  | agentCase cut names same =>
    have recut := cut.revalue fun member => cut.value (same.mem (by decide) member)
    rw [recut.directive?_eq, cut.directive?_eq, meaning?_of_userAgent names,
      meaning?_of_userAgent names, same.trim_eq]
  | margin same =>
    obtain ⟨core, framed, framedToo⟩ := same
    rw [directive?_of_framed framedToo, directive?_of_framed framed]
  | keyMargin cut same =>
    have recut := cut.rekey fun c sign => same.mem (isBlank_of_sign sign)
    rw [recut.directive?_eq, cut.directive?_eq, meaning?_congr_key]
    rw [same.trim_eq]
  | valueMargin cut same =>
    have recut := cut.revalue fun member => cut.value (same.mem (by decide) member)
    rw [recut.directive?_eq, cut.directive?_eq, meaning?_congr_value _ same.trim_eq]
  | ending =>
    refine directive?_of_framed ⟨[], ['\r'], nofun, ?_, rfl⟩
    exact List.forall_mem_singleton.mpr (by decide)

end Line

/-! ## What an edited text says -/

private theorem Edit.directives_eq {ls edited : List (List Char)} (edit : Edit ls edited) :
    directives edited = directives ls := by
  cases edit with
  | insert silent =>
    rw [directives, List.filterMap_append, List.filterMap_cons_none silent.directive?,
      ← List.filterMap_append]
    rfl
  | alter altered => simp only [directives, List.filterMap_append, List.filterMap_cons,
      altered.directive?]

private theorem directives_eq_of_edits {ls edited : List (List Char)}
    (edits : Relation.ReflTransGen Edit ls edited) : directives edited = directives ls := by
  induction edits with
  | refl => rfl
  | tail _ edit ih => exact edit.directives_eq.trans ih

/-- Two texts, each with any number of byte order marks in front, whose lines come from one another
by any number of edits that carry no meaning, have the same rules. -/
theorem parse_eq_of_edits {text other : String} {ls edited : List (List Char)}
    (written : Written text.toList ls) (edits : Relation.ReflTransGen Edit ls edited)
    (rewritten : Written other.toList edited) : parse other = parse text := by
  rw [parse_eq, parse_eq, rewritten.lines_eq, written.lines_eq, directives_eq_of_edits edits]

def notice : List (List Char) := ["User-agent: Bot".toList, "Disallow: /a".toList]

/-- The agent line has other letters and another ending, the rule has a comment, and there is a line
about a sitemap. -/
def renewed : List (List Char) :=
  ["USER-AGENT: bOT\r".toList, "Sitemap: /s".toList, "Disallow: /a# not yet".toList]

private theorem notice_renewed : Relation.ReflTransGen Edit notice renewed := by
  have written : Cut "User-agent: Bot".toList "User-agent".toList " Bot".toList [] :=
    ⟨by decide, by decide, by decide, by decide, nofun⟩
  have louder : Cut "USER-AGENT: Bot".toList "USER-AGENT".toList " Bot".toList [] :=
    ⟨by decide, by decide, by decide, by decide, nofun⟩
  have agent : Names "USER-AGENT".toList "user-agent" := (names_iff (by decide)).mpr (by decide)
  have sitemap : Silent "Sitemap: /s".toList := by
    refine @Silent.otherKey _ "Sitemap".toList " /s".toList []
      ⟨by decide, by decide, by decide, by decide, nofun⟩ ?_ ?_ ?_ <;>
      rw [names_iff (by decide)] <;> decide
  have keyCase : Altered "User-agent: Bot".toList "USER-AGENT: Bot".toList :=
    @Altered.keyCase _ _ _ _ "USER-AGENT".toList written (by unfold SameLetters; decide)
  have agentCase : Altered "USER-AGENT: Bot".toList "USER-AGENT: bOT".toList :=
    @Altered.agentCase _ _ _ _ " bOT".toList louder agent (by unfold SameLetters; decide)
  have returned : Altered "USER-AGENT: bOT".toList "USER-AGENT: bOT\r".toList := .ending
  have remark : Altered "Disallow: /a".toList "Disallow: /a# not yet".toList :=
    @Altered.remark _ " not yet".toList
  exact ((((Relation.ReflTransGen.single (@Edit.alter [] _ _ _ keyCase)).tail
    (@Edit.alter [] _ _ _ agentCase)).tail (@Edit.alter [] _ _ _ returned)).tail
    (@Edit.insert ["USER-AGENT: bOT\r".toList] _ _ sitemap)).tail
    (@Edit.alter ["USER-AGENT: bOT\r".toList, "Sitemap: /s".toList] [] _ _ remark)

theorem parse_renewed : Written "User-agent: Bot\nDisallow: /a".toList notice ∧
    Relation.ReflTransGen Edit notice renewed ∧
    Written "\uFEFFUSER-AGENT: bOT\r\nSitemap: /s\nDisallow: /a# not yet".toList renewed ∧
    parse "\uFEFFUSER-AGENT: bOT\r\nSitemap: /s\nDisallow: /a# not yet" =
      parse "User-agent: Bot\nDisallow: /a" := by
  have written : Written "User-agent: Bot\nDisallow: /a".toList notice :=
    ⟨⟨[], nofun, by decide⟩, by decide, by decide, by decide⟩
  have rewritten :
      Written "\uFEFFUSER-AGENT: bOT\r\nSitemap: /s\nDisallow: /a# not yet".toList renewed :=
    ⟨⟨['\uFEFF'], List.forall_mem_singleton.mpr rfl, by decide⟩, by decide, by decide, by decide⟩
  exact ⟨written, notice_renewed, rewritten, parse_eq_of_edits written notice_renewed rewritten⟩

end FeedIngest.Crawl.RobotsRules
