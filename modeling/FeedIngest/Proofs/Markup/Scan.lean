import FeedIngest.Markup.Entity
import FeedIngest.Markup.Event
import FeedIngest.Proofs.Text.Utf8

/-!
# Scanning written markup

A tag that holds nothing but a name is scanned as that tag, and text whose special characters are
escaped is scanned as runs of text and references, whatever follows.
-/

set_option autoImplicit false

namespace FeedIngest.Markup

open Text.Utf8 (encode)

namespace Scan

variable {s next last : Scan} {rest : List UInt8}

/-- The events up to where a scan stands later. Every step takes a byte at least. -/
inductive Emits : Scan → List Event → Scan → Prop where
  | nothing (s : Scan) : Emits s [] s
  | step {s next last : Scan} {events more : List Event} (steps : s.step = (events, some next))
      (shorter : next.rest.length < s.rest.length) (onward : Emits next more last) :
      Emits s (events ++ more) last

theorem Emits.single {events : List Event} (steps : s.step = (events, some next))
    (shorter : next.rest.length < s.rest.length) : s.Emits events next := by
  have emits := Emits.step steps shorter (.nothing next)
  rwa [List.append_nil] at emits

theorem Emits.trans {events more : List Event} (first : s.Emits events next)
    (second : next.Emits more last) : s.Emits (events ++ more) last := by
  induction first with
  | nothing => exact second
  | step steps shorter _ ih =>
    rw [List.append_assoc]
    exact .step steps shorter (ih second)

theorem eventsOnto_of_emits {events : List Event} (emits : s.Emits events last)
    (ends : last.rest = []) {steps : Nat} (enough : s.rest.length < steps) (passed : List Event) :
    eventsOnto steps passed s = passed.reverse ++ events := by
  induction emits generalizing steps passed with
  | nothing s =>
    obtain ⟨steps, rfl⟩ := Nat.exists_eq_add_one_of_ne_zero (Nat.ne_zero_of_lt enough)
    have stops : s.step = ([], none) := by rw [step, ends]
    rw [eventsOnto, stops]
    simp
  | @step s next last events more stepped shorter onward ih =>
    obtain ⟨steps, rfl⟩ := Nat.exists_eq_add_one_of_ne_zero (Nat.ne_zero_of_lt enough)
    rw [eventsOnto, stepped]
    dsimp only
    rw [ih ends (by omega)]
    simp

theorem decode_encode (utf8 : s.set = .utf8) (cs : List Char) : s.decode (encode cs) = .ok cs := by
  rw [decode, utf8, Text.CharacterSet.decode?, Text.Utf8.decode?_encode]

/-! ## Tags -/

def isNameByte (b : UInt8) : Bool :=
  !isSpace b && !(ascii "<>'\"/!?").contains b

/-- A name that makes a tag by itself. -/
structure IsName (name : List Char) : Prop where
  nonempty : encode name ≠ []
  plain : ∀ b ∈ encode name, isNameByte b = true

def bareTag (name : List Char) : Tag := ⟨.ok name, .ok name, [], false⟩

private theorem isNameByte_special : ∀ c ∈ ['<', '>', '\'', '"', '/', '!', '?'],
    isNameByte (byteOf c) = false := by
  simp only [List.forall_mem_cons]
  exact ⟨rfl, rfl, rfl, rfl, rfl, rfl, rfl, List.forall_mem_nil _⟩

theorem ne_of_isNameByte {b : UInt8} {c : Char} (plain : isNameByte b = true)
    (special : c ∈ ['<', '>', '\'', '"', '/', '!', '?']) : b ≠ byteOf c := by
  rintro rfl
  rw [isNameByte_special c special] at plain
  cases plain

theorem isSpace_of_isNameByte {b : UInt8} (plain : isNameByte b = true) : isSpace b = false := by
  unfold isNameByte at plain
  simpa using (Bool.and_eq_true_iff.mp plain).1

theorem tagContent_name {bytes : List UInt8} (plain : ∀ b ∈ bytes, isNameByte b = true) :
    tagContent (bytes ++ byteOf '>' :: rest) = .ok (bytes, rest) := by
  have onto : ∀ passed, tagOnto none passed (bytes ++ byteOf '>' :: rest) =
      .ok (passed.reverse ++ bytes, rest) := by
    induction bytes with
    | nil => simp [tagOnto]
    | cons b bytes ih =>
      obtain ⟨first, others⟩ := List.forall_mem_cons.mp plain
      intro passed
      rw [List.cons_append, tagOnto, if_neg (ne_of_isNameByte first (by decide)),
        if_neg (ne_of_isNameByte first (by decide)), if_neg (ne_of_isNameByte first (by decide)),
        ih others]
      simp
  rw [tagContent, onto, List.reverse_nil, List.nil_append]

private theorem takeWhile_name {bytes : List UInt8} (plain : ∀ b ∈ bytes, isNameByte b = true) :
    bytes.takeWhile (fun b => !isSpace b) = bytes ∧ bytes.dropWhile (fun b => !isSpace b) = [] := by
  have all : ∀ b ∈ bytes, (!isSpace b) = true := by
    intro b member
    rw [isSpace_of_isNameByte (plain b member)]
    rfl
  have taken := @List.takeWhile_append_of_pos _ (fun b => !isSpace b) bytes [] all
  have dropped := @List.dropWhile_append_of_pos _ (fun b => !isSpace b) bytes [] all
  rw [List.append_nil] at taken dropped
  exact ⟨taken.trans (List.append_nil bytes), dropped⟩

variable {name : List Char}

theorem step_startTag (utf8 : s.set = .utf8) (is : IsName name)
    (here : s.rest = byteOf '<' :: (encode name ++ byteOf '>' :: rest)) :
    s.step = ([.startTag (bareTag name)],
      some { s with rest, opened := encode name :: s.opened }) := by
  have content := @tagContent_name rest _ is.plain
  obtain ⟨whole, nothing⟩ := takeWhile_name is.plain
  have decoded := decode_encode utf8 name
  have unclosed : ((encode name).getLast? == some (byteOf '/')) = false := by
    rw [beq_eq_false_iff_ne]
    intro slash
    have plain := is.plain _ (List.mem_of_getLast? slash)
    exact ne_of_isNameByte plain (by decide) rfl
  have tag : s.startTag (encode name ++ byteOf '>' :: rest) = ([.startTag (bareTag name)],
      some { s with rest, opened := encode name :: s.opened }) := by
    have alone : attributeParts 1 [] = [] := rfl
    simp [startTag, content, unclosed, whole, nothing, decoded, attributes, alone, bareTag]
  obtain ⟨b, bytes, bytesOf⟩ := List.exists_cons_of_ne_nil is.nonempty
  have plain : isNameByte b = true := is.plain b (bytesOf ▸ List.mem_cons_self)
  rw [step, here]
  dsimp only
  rw [if_pos rfl, bytesOf, List.cons_append, markup, if_neg (ne_of_isNameByte plain (by decide)),
    if_neg (ne_of_isNameByte plain (by decide)), if_neg (ne_of_isNameByte plain (by decide)),
    ← List.cons_append, ← bytesOf, tag]

theorem step_endTag (is : IsName name) {opened : List (List UInt8)}
    (isOpen : s.opened = encode name :: opened)
    (here : s.rest = byteOf '<' :: byteOf '/' :: (encode name ++ byteOf '>' :: rest)) :
    s.step = ([.endTag], some { s with rest, opened }) := by
  have content := @tagContent_name rest _ is.plain
  have untrimmed : ((encode name).reverse.dropWhile isSpace).reverse = encode name := by
    obtain ⟨b, bytes, bytesOf⟩ := List.exists_cons_of_ne_nil (List.reverse_ne_nil_iff.mpr is.nonempty)
    have plain : isNameByte b = true := by
      apply is.plain b
      rw [← List.mem_reverse, bytesOf]
      exact List.mem_cons_self
    rw [bytesOf, List.dropWhile_cons, isSpace_of_isNameByte plain, if_neg Bool.false_ne_true,
      ← bytesOf, List.reverse_reverse]
  have nonempty : (encode name).isEmpty = false := List.isEmpty_eq_false_iff.mpr is.nonempty
  have tag : s.endTag (encode name ++ byteOf '>' :: rest) =
      ([.endTag], some { s with rest, opened }) := by
    simp [endTag, content, untrimmed, nonempty, isOpen]
  rw [step, here]
  dsimp only
  rw [if_pos rfl, markup, if_neg (by decide), if_pos rfl, tag]

/-! ## Running text -/

theorem step_text (utf8 : s.set = .utf8) {run : List Char} (nonempty : encode run ≠ [])
    (plain : ∀ b ∈ encode run, isMark b = false) {mark : UInt8} (marks : isMark mark = true)
    (here : s.rest = encode run ++ mark :: rest) :
    s.step = ([.text (.ok run)], some { s with rest := mark :: rest }) := by
  have decoded := decode_encode utf8 run
  have all : ∀ b ∈ encode run, (!isMark b) = true := by
    intro b member
    rw [plain b member]
    rfl
  obtain ⟨b, bytes, bytesOf⟩ := List.exists_cons_of_ne_nil nonempty
  rw [bytesOf] at all decoded
  obtain ⟨first, others⟩ := List.forall_mem_cons.mp all
  have noMark : b ≠ byteOf '<' ∧ b ≠ byteOf '&' := by
    simpa [isMark] using first
  have taken : (bytes ++ mark :: rest).takeWhile (fun b => !isMark b) = bytes := by
    rw [List.takeWhile_append_of_pos others, List.takeWhile_cons, marks]
    simp
  have left : (bytes ++ mark :: rest).dropWhile (fun b => !isMark b) = mark :: rest := by
    rw [List.dropWhile_append_of_pos others, List.dropWhile_cons, marks]
    simp
  rw [step, here, bytesOf, List.cons_append]
  dsimp only
  rw [if_neg noMark.1, if_neg noMark.2, taken, left, decoded]

def isReferenceByte (b : UInt8) : Bool := !isMark b && b != byteOf ';'

theorem step_reference (utf8 : s.set = .utf8)
    (plain : ∀ b ∈ encode name, isReferenceByte b = true)
    (here : s.rest = byteOf '&' :: (encode name ++ byteOf ';' :: rest)) :
    s.step = ([.reference (.ok name)], some { s with rest }) := by
  have decoded := decode_encode utf8 name
  have all : ∀ b ∈ encode name, (!isMark b && b != byteOf ';') = true := plain
  have semicolon : (!isMark (byteOf ';') && byteOf ';' != byteOf ';') = false := rfl
  rw [step, here]
  dsimp only
  rw [if_neg (by decide), if_pos rfl, reference]
  rw [List.dropWhile_append_of_pos all, List.takeWhile_append_of_pos all, List.dropWhile_cons,
    List.takeWhile_cons, semicolon]
  simp [decoded]

end Scan

end FeedIngest.Markup
