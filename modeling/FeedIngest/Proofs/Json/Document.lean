import FeedIngest.Proofs.Json.Spelling
import FeedIngest.Proofs.Text.Utf8

/-!
# Reading written documents

A value whose numbers are integers and whose strings are texts is read back as it was written, on
one line or on many: what is written is one of its texts, with the line breaks for gaps.
-/

set_option autoImplicit false

namespace FeedIngest.Json

/-- A value whose numbers are integers and whose strings are texts. -/
inductive Plain : Json → Prop where
  | null : Plain .null
  | bool {value : Bool} : Plain (.bool value)
  | int {value : Int} : Plain (.ofInt value)
  | string {value : String} : Plain (.string value)
  | array {items : List Json} : (∀ item ∈ items, Plain item) → Plain (.array items)
  | object {members : List (String × Json)} :
      (∀ member ∈ members, Plain member.2) → Plain (.object members)

namespace Writer

structure Layout.Loose (layout : Layout) : Prop where
  newline : ∀ depth, ∀ c ∈ layout.newline depth, Reader.isBlank (some c) = true
  colon : ∃ blanks, layout.colon = ':' :: blanks ∧ ∀ c ∈ blanks, Reader.isBlank (some c) = true

theorem pretty_loose : pretty.Loose where
  newline depth c member := by
    rcases List.mem_cons.mp member with rfl | member
    · rfl
    · obtain ⟨indent, among, inside⟩ := List.mem_flatten.mp member
      rw [List.eq_of_mem_replicate among] at inside
      simp_all [Reader.isBlank]
  colon := ⟨[' '], rfl, by simp [Reader.isBlank]⟩

theorem compact_loose : compact.Loose where
  newline _ _ member := nomatch member
  colon := ⟨[], rfl, fun _ member => nomatch member⟩

private theorem values_eq_map (layout : Layout) (depth : Nat) (items : List Json) :
    values layout depth items = items.map (value layout depth) := by
  induction items with
  | nil => rfl
  | cons item rest ih => rw [values, ih, List.map_cons]

def member (layout : Layout) (depth : Nat) (field : String × Json) : List Char :=
  string field.1 ++ layout.colon ++ value layout depth field.2

private theorem members_eq_map (layout : Layout) (depth : Nat) (fields : List (String × Json)) :
    members layout depth fields = fields.map (member layout depth) := by
  induction fields with
  | nil => rfl
  | cons field rest ih => rw [members, ih, List.map_cons, member]

/-- What stands behind the first part, up to the closing bracket. -/
def Layout.closing (layout : Layout) (close : Char) (depth : Nat) (parts : List (List Char)) :
    List Char :=
  parts.flatMap (fun part => ',' :: layout.newline (depth + 1) ++ part) ++ layout.newline depth ++
    [close]

theorem Layout.enclose_cons (layout : Layout) (opening close : Char) (depth : Nat)
    (first : List Char) (others : List (List Char)) :
    layout.enclose opening close depth (first :: others) =
      opening :: (layout.newline (depth + 1) ++ (first ++ layout.closing close depth others)) := by
  simp [enclose, closing, List.append_assoc]

private theorem Layout.closing_cons (layout : Layout) (close : Char) (depth : Nat)
    (part : List Char) (others : List (List Char)) : layout.closing close depth (part :: others) =
      ',' :: (layout.newline (depth + 1) ++ (part ++ layout.closing close depth others)) := by
  simp [closing, List.append_assoc]

section Parts

variable {layout : Layout} {depth : Nat} {α β : Type}

def Layout.Loose.gap (loose : layout.Loose) (depth : Nat) : Gap where
  chars := layout.newline depth
  blank c member := by simpa [Reader.isBlank, or_assoc] using loose.newline depth c member

/-- Parts of an array or object, each with the gap behind it: the last one reaches to the bracket.
-/
def Layout.Loose.boxes (loose : layout.Loose) (depth : Nat) (box : α → Gap → β) (first : α) :
    List α → List β
  | [] => [box first (loose.gap depth)]
  | next :: others => box first .none :: loose.boxes depth box next others

theorem Layout.Loose.exists_of_mem_boxes (loose : layout.Loose) {box : α → Gap → β} {first : α}
    {others : List α} {b : β} (member : b ∈ loose.boxes depth box first others) :
    ∃ a ∈ first :: others, ∃ after, b = box a after := by
  induction others generalizing first with
  | nil => exact ⟨first, List.mem_cons_self, _, List.mem_singleton.mp member⟩
  | cons next others ih =>
    cases List.mem_cons.mp member with
    | inl same => exact ⟨first, List.mem_cons_self, _, same⟩
    | inr later =>
      obtain ⟨a, among, after, same⟩ := ih later
      exact ⟨a, List.mem_cons_of_mem _ among, after, same⟩

theorem Layout.Loose.map_boxes (loose : layout.Loose) (box : α → Gap → β) (content : β → α)
    (contents : ∀ a after, content (box a after) = a) (first : α) (others : List α) :
    (loose.boxes depth box first others).map content = first :: others := by
  induction others generalizing first with
  | nil => rw [boxes, List.map_singleton, contents]
  | cons next others ih => rw [boxes, List.map_cons, contents, ih]

theorem Layout.Loose.enclosed_boxes (loose : layout.Loose) (box : α → Gap → β)
    (text : α → List Char) (written : β → List Char) (writes : ∀ a after, written (box a after) =
      layout.newline (depth + 1) ++ (text a ++ after.chars))
    (close : Char) (first : α) (others : List α) :
    enclosed close ((loose.boxes depth box first others).map written) =
      layout.newline (depth + 1) ++
        (text first ++ layout.closing close depth (others.map text)) := by
  induction others generalizing first with
  | nil => simp [boxes, enclosed, writes, closing, gap]
  | cons next others ih =>
    have part := ih next
    rw [List.map_cons, closing_cons, ← part, boxes, List.map_cons, writes]
    cases others <;> simp [boxes, enclosed]

end Parts

/-! ## Every value -/

variable {layout : Layout}

private theorem spells_array (loose : layout.Loose) {items : List Json} {depth : Nat}
    (spell : ∀ item ∈ items, Spells item (value layout (depth + 1) item)) :
    Spells (.array items) (value layout depth (.array items)) := by
  cases items with
  | nil => exact .items [] nofun
  | cons item items =>
    let box (item : Json) (after : Gap) : Slot :=
      ⟨loose.gap (depth + 1), item, value layout (depth + 1) item, after⟩
    have written := loose.enclosed_boxes box (value layout (depth + 1)) (·.written)
      (fun _ _ => rfl) ']' item items
    have contents : (loose.boxes depth box item items).map (·.json) = item :: items :=
      loose.map_boxes box (·.json) (fun _ _ => rfl) item items
    have spells := Spells.items (loose.boxes depth box item items) (by
      intro slot member
      obtain ⟨item, among, after, rfl⟩ := loose.exists_of_mem_boxes member
      exact spell item among)
    rw [contents, written] at spells
    rw [value, values_eq_map, List.map_cons, Layout.enclose_cons]
    exact spells

private theorem spells_object (loose : layout.Loose) {fields : List (String × Json)} {depth : Nat}
    (spell : ∀ field ∈ fields, Spells field.2 (value layout (depth + 1) field.2)) :
    Spells (.object fields) (value layout depth (.object fields)) := by
  obtain ⟨blanks, colon, blank⟩ := loose.colon
  cases fields with
  | nil => exact .members [] nofun nofun
  | cons field fields =>
    let space : Gap := ⟨blanks, fun c member => by
      simpa [Reader.isBlank, or_assoc] using blank c member⟩
    let box (field : String × Json) (after : Gap) : Entry :=
      ⟨loose.gap (depth + 1), field.1, field.1.toList.flatMap escape, .none,
        ⟨space, field.2, value layout (depth + 1) field.2, after⟩⟩
    have writes : ∀ field after, (box field after).written = layout.newline (depth + 1) ++
        (member layout (depth + 1) field ++ after.chars) := fun field after => by
      simp [box, space, Entry.written, Slot.written, member, string, colon, Layout.Loose.gap]
    have written := loose.enclosed_boxes box _ (·.written) writes '\x7d' field fields
    have contents : (loose.boxes depth box field fields).map (·.member) = field :: fields :=
      loose.map_boxes box (·.member) (fun _ _ => rfl) field fields
    have spells := Spells.members (loose.boxes depth box field fields)
      (by
        intro entry member
        obtain ⟨field, -, after, rfl⟩ := loose.exists_of_mem_boxes member
        exact spellsString_escape field.1)
      (by
        intro entry member
        obtain ⟨field, among, after, rfl⟩ := loose.exists_of_mem_boxes member
        exact spell field among)
    rw [contents, written] at spells
    rw [value, members_eq_map, List.map_cons, Layout.enclose_cons]
    exact spells

/-- What is written of a value is one of its texts. -/
theorem spells_value (loose : layout.Loose) {json : Json} (plain : json.Plain) (depth : Nat) :
    Spells json (value layout depth json) := by
  induction plain generalizing depth with
  | null => exact .null
  | @bool value =>
    cases value with
    | false => exact .false
    | true => exact .true
  | @int value => exact .number (spellsNumber_ofInt value)
  | @string value => exact .string (spellsString_escape value)
  | array _ ih => exact spells_array loose fun item member => ih item member (depth + 1)
  | object _ ih => exact spells_object loose fun field member => ih field member (depth + 1)

end Writer

theorem Reader.document?_value {layout : Writer.Layout} (loose : layout.Loose) {json : Json}
    (plain : json.Plain) : document? ((Writer.value layout 0 json).map some) = some json := by
  have read := document?_of_spells (Writer.spells_value loose plain 0) .none .none
  rwa [Gap.chars_none, List.nil_append, List.append_nil] at read

theorem parse?_renderPretty {json : Json} (plain : json.Plain) :
    parse? json.renderPretty.toUTF8.toList = some json := by
  rw [parse?, Text.Utf8.toUTF8_toList, Text.Utf8.scan_encode, renderPretty, String.toList_ofList]
  exact Reader.document?_value Writer.pretty_loose plain

end FeedIngest.Json
