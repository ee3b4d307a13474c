import FeedIngest.Proofs.Json.Number
import FeedIngest.Proofs.Json.Quoted

/-!
# Reading every text of a value

One value has many texts: blanks may stand around its parts, and its strings and numbers may be
spelled in several ways. Whichever of its texts is given, the same value is read.
-/

set_option autoImplicit false

namespace FeedIngest.Json

structure Gap where
  chars : List Char
  blank : ∀ c ∈ chars, c = ' ' ∨ c = '\n' ∨ c = '\t' ∨ c = '\r'

def Gap.none : Gap := ⟨[], fun _ member => absurd member List.not_mem_nil⟩

@[simp]
theorem Gap.chars_none : Gap.none.chars = [] := rfl

structure Slot where
  before : Gap
  json : Json
  text : List Char
  after : Gap

def Slot.written (s : Slot) : List Char := s.before.chars ++ (s.text ++ s.after.chars)

structure Entry where
  before : Gap
  name : String
  nameText : List Char
  between : Gap
  value : Slot

def Entry.written (e : Entry) : List Char :=
  e.before.chars ++
    ('"' :: (e.nameText ++ ('"' :: (e.between.chars ++ (':' :: e.value.written)))))

def Entry.member (e : Entry) : String × Json := (e.name, e.value.json)

/-- Parts with a comma between each two of them, up to a closing bracket. -/
def enclosed (close : Char) : List (List Char) → List Char
  | [] => [close]
  | [part] => part ++ [close]
  | part :: parts => part ++ (',' :: enclosed close parts)

inductive Spells : Json → List Char → Prop where
  | null : Spells .null ['n', 'u', 'l', 'l']
  | true : Spells (.bool true) ['t', 'r', 'u', 'e']
  | false : Spells (.bool false) ['f', 'a', 'l', 's', 'e']
  | number {n : JsonNumber} {text : List Char} (spells : SpellsNumber n text) :
      Spells (.number n) text
  | string {s : String} {text : List Char} (spells : SpellsString s text) :
      Spells (.string s) ('"' :: (text ++ ['"']))
  | broken {text : List Char} (broken : SpellsBroken text) :
      Spells .brokenString ('"' :: (text ++ ['"']))
  | noItems (gap : Gap) : Spells (.array []) ('[' :: (gap.chars ++ [']']))
  | items (slots : List Slot) (spell : ∀ s ∈ slots, Spells s.json s.text) :
      Spells (.array (slots.map (·.json))) ('[' :: enclosed ']' (slots.map (·.written)))
  | noMembers (gap : Gap) : Spells (.object []) ('\x7b' :: (gap.chars ++ ['\x7d']))
  | members (entries : List Entry) (names : ∀ e ∈ entries, SpellsString e.name e.nameText)
      (spell : ∀ e ∈ entries, Spells e.value.json e.value.text) :
      Spells (.object (entries.map (·.member)))
        ('\x7b' :: enclosed '\x7d' (entries.map (·.written)))

namespace Reader

variable {rest : Input}

/-! ## Gaps -/

private theorem isBlank_of_mem {gap : Gap} {c : Char} (member : c ∈ gap.chars) :
    isBlank (some c) = true := by
  obtain rfl | rfl | rfl | rfl := gap.blank c member <;> rfl

theorem skipBlanks_gap (gap : Gap) (rest : Input) :
    skipBlanks (gap.chars.map some ++ rest) = skipBlanks rest := by
  apply List.dropWhile_append_of_pos
  intro c member
  obtain ⟨d, inside, rfl⟩ := List.mem_map.mp member
  exact isBlank_of_mem inside

theorem skipBlanks_visible {c : Char} (visible : isBlank (some c) = false) :
    skipBlanks (some c :: rest) = some c :: rest := by
  rw [skipBlanks, List.dropWhile_cons, visible]
  rfl

theorem value?_gap (steps : Nat) (gap : Gap) (rest : Input) :
    value? steps (gap.chars.map some ++ rest) = value? steps rest := by
  cases steps with
  | zero => rfl
  | succ steps => rw [value?, value?, skipBlanks_gap]

private theorem items?_gap (steps : Nat) (read : List Json) (gap : Gap) (rest : Input) :
    items? steps read (gap.chars.map some ++ rest) = items? steps read rest := by
  cases steps with
  | zero => rfl
  | succ steps => rw [items?, items?, value?_gap]

private theorem members?_gap (steps : Nat) (read : Members) (gap : Gap) (rest : Input) :
    members? steps read (gap.chars.map some ++ rest) = members? steps read rest := by
  cases steps with
  | zero => rfl
  | succ steps => rw [members?, members?, skipBlanks_gap]

theorem endsInteger_gap (gap : Gap) (ends : EndsInteger rest) :
    EndsInteger (gap.chars.map some ++ rest) := by
  cases chars : gap.chars with
  | nil => exact ends
  | cons c more =>
    obtain rfl | rfl | rfl | rfl := gap.blank c (by rw [chars]; exact List.mem_cons_self) <;>
      exact ⟨rfl, by decide, by decide, by decide⟩

/-! ## Values in their slots -/

/-- A value is read from a text, if there are steps for each of its characters. -/
def ReadsAs (json : Json) (text : List Char) : Prop :=
  ∀ steps rest, EndsInteger rest → text.length < steps →
    value? steps (text.map some ++ rest) = some (json, rest)

section Items

variable {steps : Nat} {slot : Slot} {read : List Json}

theorem value?_slot (reads : ReadsAs slot.json slot.text) (ends : EndsInteger rest)
    (enough : slot.written.length < steps) :
    value? steps (slot.written.map some ++ rest) =
      some (slot.json, slot.after.chars.map some ++ rest) := by
  have inside : slot.text.length < steps := by
    simp only [Slot.written, List.length_append] at enough
    omega
  rw [Slot.written, List.map_append, List.append_assoc, value?_gap, List.map_append,
    List.append_assoc]
  exact reads steps _ (endsInteger_gap slot.after ends) inside

private theorem items?_last (reads : ReadsAs slot.json slot.text)
    (enough : slot.written.length < steps) :
    items? (steps + 1) read (slot.written.map some ++ some ']' :: rest) =
      some (.array (read.reverse ++ [slot.json]), rest) := by
  have ends : EndsInteger (some ']' :: rest) := ⟨rfl, by decide, by decide, by decide⟩
  rw [items?, value?_slot reads ends enough]
  dsimp only
  rw [skipBlanks_gap, skipBlanks_visible rfl]
  simp

private theorem items?_more (reads : ReadsAs slot.json slot.text)
    (enough : slot.written.length < steps) :
    items? (steps + 1) read (slot.written.map some ++ some ',' :: rest) =
      items? steps (slot.json :: read) rest := by
  have ends : EndsInteger (some ',' :: rest) := ⟨rfl, by decide, by decide, by decide⟩
  rw [items?, value?_slot reads ends enough]
  dsimp only
  rw [skipBlanks_gap, skipBlanks_visible rfl]
  rfl

/-- The items of an array are read after its bracket, one after the other. -/
theorem items?_enclosed {slots : List Slot}
    (reads : ∀ s ∈ slot :: slots, ReadsAs s.json s.text)
    (enough : (enclosed ']' ((slot :: slots).map (·.written))).length < steps) :
    items? steps read ((enclosed ']' ((slot :: slots).map (·.written))).map some ++ rest) =
      some (.array (read.reverse ++ (slot :: slots).map (·.json)), rest) := by
  induction slots generalizing slot read steps with
  | nil =>
    obtain ⟨steps, rfl⟩ := Nat.exists_eq_add_one_of_ne_zero (Nat.ne_zero_of_lt enough)
    have text : enclosed ']' ([slot].map (·.written)) = slot.written ++ [']'] := rfl
    rw [text, List.length_append, List.length_singleton] at enough
    rw [text, List.map_append, List.append_assoc]
    exact items?_last (reads slot List.mem_cons_self) (by omega)
  | cons next slots ih =>
    obtain ⟨steps, rfl⟩ := Nat.exists_eq_add_one_of_ne_zero (Nat.ne_zero_of_lt enough)
    obtain ⟨first, others⟩ := List.forall_mem_cons.mp reads
    have text : enclosed ']' ((slot :: next :: slots).map (·.written)) =
        slot.written ++ ',' :: enclosed ']' ((next :: slots).map (·.written)) := rfl
    rw [text, List.length_append, List.length_cons] at enough
    rw [text, List.map_append, List.append_assoc, List.map_cons, List.cons_append,
      items?_more first (by omega), ih others (by omega)]
    simp

end Items

section Members

variable {steps : Nat} {entry : Entry} {read : List (String × Json)}

def membersOn? (steps : Nat) (read : List (String × Json)) (input : Input) :
    Option (Json × Input) :=
  match skipBlanks input with
  | some ',' :: rest => members? steps (some read) rest
  | some '\x7d' :: rest => some (.object read.reverse, rest)
  | _ => none

private theorem members?_entry (name : SpellsString entry.name entry.nameText)
    (reads : ReadsAs entry.value.json entry.value.text) (ends : EndsInteger rest)
    (enough : entry.written.length < steps) :
    members? (steps + 1) (some read) (entry.written.map some ++ rest) =
      membersOn? steps (entry.member :: read) (entry.value.after.chars.map some ++ rest) := by
  have inside : entry.value.written.length < steps := by
    simp only [Entry.written, List.length_append, List.length_cons] at enough
    omega
  have text : entry.written.map some ++ rest = entry.before.chars.map some ++ some '"' ::
      (entry.nameText.map some ++ some '"' :: (entry.between.chars.map some ++ some ':' ::
        (entry.value.written.map some ++ rest))) := by
    simp [Entry.written]
  have quote : ∀ input, skipBlanks (some '"' :: input) = some '"' :: input := fun _ => rfl
  have colon : ∀ input, skipBlanks (some ':' :: input) = some ':' :: input := fun _ => rfl
  simp only [text, members?, membersOn?, skipBlanks_gap, quote, string?_of_spells name, colon,
    value?_slot reads ends inside]
  rfl

private theorem membersOn?_comma (gap : Gap) :
    membersOn? steps read (gap.chars.map some ++ some ',' :: rest) =
      members? steps (some read) rest := by
  rw [membersOn?, skipBlanks_gap]
  rfl

private theorem membersOn?_brace (gap : Gap) :
    membersOn? steps read (gap.chars.map some ++ some '\x7d' :: rest) =
      some (.object read.reverse, rest) := by
  rw [membersOn?, skipBlanks_gap]
  rfl

/-- The members of an object are read after its brace, one after the other. -/
theorem members?_enclosed {entries : List Entry}
    (names : ∀ e ∈ entry :: entries, SpellsString e.name e.nameText)
    (reads : ∀ e ∈ entry :: entries, ReadsAs e.value.json e.value.text)
    (enough : (enclosed '\x7d' ((entry :: entries).map (·.written))).length < steps) :
    members? steps (some read)
        ((enclosed '\x7d' ((entry :: entries).map (·.written))).map some ++ rest) =
      some (.object (read.reverse ++ (entry :: entries).map (·.member)), rest) := by
  induction entries generalizing entry read steps with
  | nil =>
    obtain ⟨steps, rfl⟩ := Nat.exists_eq_add_one_of_ne_zero (Nat.ne_zero_of_lt enough)
    have text : enclosed '\x7d' ([entry].map (·.written)) = entry.written ++ ['\x7d'] := rfl
    rw [text, List.length_append, List.length_singleton] at enough
    have ends : EndsInteger (some '\x7d' :: rest) := ⟨rfl, by decide, by decide, by decide⟩
    rw [text, List.map_append, List.append_assoc]
    show members? (steps + 1) (some read) (entry.written.map some ++ some '\x7d' :: rest) = _
    rw [members?_entry (names entry List.mem_cons_self) (reads entry List.mem_cons_self) ends
      (by omega), membersOn?_brace]
    simp
  | cons next entries ih =>
    obtain ⟨steps, rfl⟩ := Nat.exists_eq_add_one_of_ne_zero (Nat.ne_zero_of_lt enough)
    have text : enclosed '\x7d' ((entry :: next :: entries).map (·.written)) =
        entry.written ++ ',' :: enclosed '\x7d' ((next :: entries).map (·.written)) := rfl
    rw [text, List.length_append, List.length_cons] at enough
    have ends : ∀ input, EndsInteger (some ',' :: input) :=
      fun _ => ⟨rfl, by decide, by decide, by decide⟩
    obtain ⟨name, otherNames⟩ := List.forall_mem_cons.mp names
    obtain ⟨first, others⟩ := List.forall_mem_cons.mp reads
    rw [text, List.map_append, List.append_assoc, List.map_cons, List.cons_append,
      members?_entry name first (ends _) (by omega), membersOn?_comma,
      ih otherNames others (by omega)]
    simp

end Members

/-! ## All values -/

/-- A text of a value begins with a character that is neither a blank nor a closing bracket. -/
theorem spells_begins {json : Json} {text : List Char} (spells : Spells json text) :
    ∃ c more, text = c :: more ∧ isBlank (some c) = false ∧ c ≠ ']' := by
  cases spells with
  | number spells =>
    obtain ⟨c, more, begins, sort⟩ := number_begins spells
    have other := begins_otherwise sort
    simp only [otherBeginnings, List.mem_cons, List.not_mem_nil, or_false, not_or] at other
    exact ⟨c, more, begins, by simp [isBlank, other], other.2.2.2.2.2.2.2.2.2.2⟩
  | _ => exact ⟨_, _, rfl, rfl, by decide⟩

private theorem value?_array {slot : Slot} {slots : List Slot} {steps : Nat}
    (begins : ∃ c more, slot.text = c :: more ∧ isBlank (some c) = false ∧ c ≠ ']')
    (reads : ∀ s ∈ slot :: slots, ReadsAs s.json s.text)
    (enough : (enclosed ']' ((slot :: slots).map (·.written))).length < steps) :
    value? (steps + 1) (('[' :: enclosed ']' ((slot :: slots).map (·.written))).map some ++ rest) =
      some (.array ((slot :: slots).map (·.json)), rest) := by
  have items := @items?_enclosed rest steps slot [] slots reads enough
  -- The array is not taken for an empty one.
  obtain ⟨c, more, text, visible, noBracket⟩ := begins
  obtain ⟨tail, whole⟩ : ∃ tail, (enclosed ']' ((slot :: slots).map (·.written))).map some ++ rest =
      slot.before.chars.map some ++ some c :: tail := by
    cases slots with
    | nil => exact ⟨_, by simp [enclosed, Slot.written, text]; rfl⟩
    | cons next slots => exact ⟨_, by simp [enclosed, Slot.written, text]; rfl⟩
  rw [whole, items?_gap] at items
  have bracket : ∀ input, skipBlanks (some '[' :: input) = some '[' :: input := fun _ => rfl
  rw [List.map_cons, List.cons_append, whole]
  simp only [value?, bracket, skipBlanks_gap, skipBlanks_visible visible]
  simpa [noBracket] using items

private theorem value?_object {entry : Entry} {entries : List Entry} {steps : Nat}
    (names : ∀ e ∈ entry :: entries, SpellsString e.name e.nameText)
    (reads : ∀ e ∈ entry :: entries, ReadsAs e.value.json e.value.text)
    (enough : (enclosed '\x7d' ((entry :: entries).map (·.written))).length < steps) :
    value? (steps + 1)
        (('\x7b' :: enclosed '\x7d' ((entry :: entries).map (·.written))).map some ++ rest) =
      some (.object ((entry :: entries).map (·.member)), rest) := by
  have members := @members?_enclosed rest steps entry [] entries names reads enough
  obtain ⟨tail, whole⟩ : ∃ tail,
      (enclosed '\x7d' ((entry :: entries).map (·.written))).map some ++ rest =
        entry.before.chars.map some ++ some '"' :: tail := by
    cases entries with
    | nil => exact ⟨_, by simp [enclosed, Entry.written]; rfl⟩
    | cons next entries => exact ⟨_, by simp [enclosed, Entry.written]; rfl⟩
  rw [whole, members?_gap] at members
  have brace : ∀ input, skipBlanks (some '\x7b' :: input) = some '\x7b' :: input := fun _ => rfl
  have quote : ∀ input, skipBlanks (some '"' :: input) = some '"' :: input := fun _ => rfl
  rw [List.map_cons, List.cons_append, whole]
  simp only [value?, brace, skipBlanks_gap, quote]
  simpa using members

/-- There is a step at least, since a text is not shorter than nothing. -/
theorem ReadsAs.of_succ {json : Json} {text : List Char}
    (reads : ∀ steps rest, EndsInteger rest → text.length ≤ steps →
      value? (steps + 1) (text.map some ++ rest) = some (json, rest)) : ReadsAs json text := by
  intro steps rest ends enough
  obtain ⟨steps, rfl⟩ := Nat.exists_eq_add_one_of_ne_zero (Nat.ne_zero_of_lt enough)
  exact reads steps rest ends (Nat.le_of_lt_succ enough)

private theorem readsAs_of_spells {json : Json} {text : List Char} (spells : Spells json text) :
    ReadsAs json text := by
  have quote : ∀ input, skipBlanks (some '"' :: input) = some '"' :: input := fun _ => rfl
  have bracket : ∀ input, skipBlanks (some '[' :: input) = some '[' :: input := fun _ => rfl
  have brace : ∀ input, skipBlanks (some '\x7b' :: input) = some '\x7b' :: input := fun _ => rfl
  induction spells with
  | null => exact .of_succ fun _ _ _ _ => rfl
  | true => exact .of_succ fun _ _ _ _ => rfl
  | false => exact .of_succ fun _ _ _ _ => rfl
  | number spells =>
    exact .of_succ fun steps rest ends _ => value?_of_spellsNumber spells steps ends
  | string spells =>
    refine .of_succ fun steps rest _ _ => ?_
    rw [List.map_cons, List.map_append, List.cons_append, List.append_assoc]
    simp only [value?, quote, List.map_cons, List.map_nil, List.cons_append, List.nil_append,
      string?_of_spells spells]
  | broken broken =>
    refine .of_succ fun steps rest _ _ => ?_
    rw [List.map_cons, List.map_append, List.cons_append, List.append_assoc]
    simp only [value?, quote, List.map_cons, List.map_nil, List.cons_append, List.nil_append,
      string?_of_broken broken]
  | noItems gap =>
    refine .of_succ fun steps rest _ _ => ?_
    rw [List.map_cons, List.map_append, List.cons_append, List.append_assoc]
    simp only [value?, bracket, skipBlanks_gap]
    rfl
  | items slots spell ih =>
    cases slots with
    | nil => exact .of_succ fun _ _ _ _ => rfl
    | cons slot slots =>
      refine .of_succ fun steps rest _ enough => ?_
      exact value?_array (spells_begins (spell slot List.mem_cons_self)) ih enough
  | noMembers gap =>
    refine .of_succ fun steps rest _ _ => ?_
    rw [List.map_cons, List.map_append, List.cons_append, List.append_assoc]
    simp only [value?, brace, skipBlanks_gap]
    rfl
  | members entries names spell ih =>
    cases entries with
    | nil => exact .of_succ fun _ _ _ _ => rfl
    | cons entry entries =>
      exact .of_succ fun steps rest _ enough => value?_object names ih enough

theorem document?_of_spells {json : Json} {text : List Char} (spells : Spells json text)
    (before after : Gap) :
    document? ((before.chars ++ (text ++ after.chars)).map some) = some json := by
  have reads := readsAs_of_spells spells
    (2 * ((before.chars ++ (text ++ after.chars)).map some).length + 2)
    (after.chars.map some ++ []) (endsInteger_gap after trivial)
    (by simp only [List.length_map, List.length_append]; omega)
  have nothing : skipBlanks (after.chars.map some ++ []) = [] := skipBlanks_gap after []
  rw [List.append_nil] at reads nothing
  rw [document?, List.map_append, value?_gap, List.map_append] at *
  rw [reads]
  dsimp only
  rw [nothing]
  rfl

end Reader

end FeedIngest.Json
