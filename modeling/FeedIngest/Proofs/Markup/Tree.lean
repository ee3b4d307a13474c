import FeedIngest.Markup.Node
import FeedIngest.Proofs.Markup.Scan

/-!
# Reading written elements

Markup is written as bare elements around escaped text. What is scanned of it are the events of
whole nodes, so that it is read as these nodes wherever it stands. Running text comes back in parts,
as runs and references, and together they say the text.
-/

set_option autoImplicit false

namespace FeedIngest.Markup

open Text.Utf8 (encode encode_append)

def element (name content : List Char) : List Char :=
  '<' :: (name ++ '>' :: (content ++ '<' :: '/' :: (name ++ ['>'])))

/-- The events of whole nodes. -/
inductive Flat : List Event → List Node → Prop where
  | nil : Flat [] []
  | text {content : Decoded} {events : List Event} {nodes : List Node}
      (others : Flat events nodes) :
      Flat (.text content :: events) (.text content :: nodes)
  | reference {name : Decoded} {events : List Event} {nodes : List Node}
      (others : Flat events nodes) : Flat (.reference name :: events) (.reference name :: nodes)
  | element {tag : Tag} {inner events : List Event} {children nodes : List Node}
      (content : Flat inner children) (others : Flat events nodes) :
      Flat (.startTag tag :: (inner ++ .endTag :: events)) (.element tag children :: nodes)

inductive Running : List Node → List Char → Prop where
  | nil : Running [] []
  | text (run : List Char) {nodes : List Node} {cs : List Char} (others : Running nodes cs) :
      Running (.text (.ok run) :: nodes) (run ++ cs)
  | reference {name : List Char} {c : Char} (is : entity? name = some c) {nodes : List Node}
      {cs : List Char} (others : Running nodes cs) :
      Running (.reference (.ok name) :: nodes) (c :: cs)

def Fills (text : List Char) (nodes : List Node) : Prop :=
  ∀ (s : Scan) (rest : List UInt8), s.set = .utf8 → s.rest = encode text ++ byteOf '<' :: rest →
    ∃ events, s.Emits events { s with rest := byteOf '<' :: rest } ∧ Flat events nodes

def Scans (text : List Char) (nodes : List Node) : Prop :=
  ∀ (s : Scan) (rest : List UInt8), s.set = .utf8 → s.rest = encode text ++ rest →
    ∃ events, s.Emits events { s with rest } ∧ Flat events nodes

section Flat

variable {events more : List Event} {nodes others : List Node}

private theorem Flat.append (first : Flat events nodes) (second : Flat more others) :
    Flat (events ++ more) (nodes ++ others) := by
  induction first with
  | nil => exact second
  | text _ ih => exact .text ih
  | reference _ ih => exact .reference ih
  | element content _ _ ih =>
    rw [List.cons_append, List.append_assoc]
    exact .element content ih

private theorem arrange_flat (flat : Flat events nodes) (frames : List Node.Frame)
    (siblings : List Node) :
    Node.arrange frames siblings (events ++ more) =
      Node.arrange frames (nodes.reverse ++ siblings) more := by
  induction flat generalizing frames siblings more with
  | nil => rfl
  | text _ ih =>
    rw [List.cons_append, Node.arrange, ih]
    simp
  | reference _ ih =>
    rw [List.cons_append, Node.arrange, ih]
    simp
  | element _ _ contentIH ih =>
    rw [List.cons_append, List.append_assoc, Node.arrange, contentIH, List.cons_append,
      Node.arrange, ih]
    simp

end Flat

/-! ## Escaped text -/

def isPlain (c : Char) : Bool := escapeChar c == [c]

private theorem escape_plain {run : List Char} (plain : ∀ c ∈ run, isPlain c = true) :
    escape run = run := by
  induction run with
  | nil => rfl
  | cons c run ih =>
    obtain ⟨first, others⟩ := List.forall_mem_cons.mp plain
    have alone : escapeChar c = [c] := eq_of_beq first
    have rest : run.flatMap escapeChar = run := ih others
    rw [escape, List.flatMap_cons, alone, rest]
    rfl

private theorem isMark_of_plain {run : List Char} (plain : ∀ c ∈ run, isPlain c = true) :
    ∀ b ∈ encode run, Scan.isMark b = false := by
  intro b member
  have angle : b ≠ byteOf '<' := by
    rintro rfl
    have special := plain '<' (Text.Utf8.mem_of_mem_encode (by decide) member)
    cases special
  have ampersand : b ≠ byteOf '&' := by
    rintro rfl
    have special := plain '&' (Text.Utf8.mem_of_mem_encode (by decide) member)
    cases special
  simp [Scan.isMark, angle, ampersand]

/-- A special character is written as a reference to its entity. -/
theorem exists_name_of_special {c : Char} (special : isPlain c = false) :
    ∃ name, escapeChar c = '&' :: (name ++ [';']) ∧ entity? name = some c ∧
      ∀ b ∈ encode name, Scan.isReferenceByte b = true := by
  unfold isPlain escapeChar at special
  unfold escapeChar
  split at special
  · exact ⟨['l', 't'], rfl, rfl, List.all_eq_true.mp rfl⟩
  · exact ⟨['g', 't'], rfl, rfl, List.all_eq_true.mp rfl⟩
  · exact ⟨['a', 'm', 'p'], rfl, rfl, List.all_eq_true.mp rfl⟩
  · exact ⟨['a', 'p', 'o', 's'], rfl, rfl, List.all_eq_true.mp rfl⟩
  · exact ⟨['q', 'u', 'o', 't'], rfl, rfl, List.all_eq_true.mp rfl⟩
  · simp at special

section Running

variable {cs run after : List Char} {nodes : List Node}

private theorem fills_nil : Fills (escape []) [] := by
  intro s rest _ here
  have same : { s with rest := byteOf '<' :: rest } = s := by
    have here : s.rest = byteOf '<' :: rest := here
    rw [← here]
  rw [same]
  exact ⟨[], .nothing s, .nil⟩

private theorem fills_reference {c : Char} {name : List Char}
    (written : escapeChar c = '&' :: (name ++ [';']))
    (plain : ∀ b ∈ encode name, Scan.isReferenceByte b = true)
    (others : Fills (escape cs) nodes) :
    Fills (escape (c :: cs)) (.reference (.ok name) :: nodes) := by
  intro s rest utf8 here
  have bytes : s.rest = byteOf '&' ::
      (encode name ++ byteOf ';' :: (encode (escape cs) ++ byteOf '<' :: rest)) := by
    rw [here, escape, List.flatMap_cons, written, encode_append]
    have reference : encode ('&' :: (name ++ [';'])) =
        byteOf '&' :: (encode name ++ [byteOf ';']) := by
      rw [← List.singleton_append, encode_append, encode_append]
      rfl
    rw [reference]
    simp [escape]
  have stepped := Scan.step_reference utf8 plain bytes
  obtain ⟨events, emits, flat⟩ :=
    others { s with rest := encode (escape cs) ++ byteOf '<' :: rest } rest utf8 rfl
  refine ⟨_, .step stepped ?_ emits, .reference flat⟩
  rw [bytes]
  simp only [List.length_cons, List.length_append]
  omega

theorem exists_mark (special : ∀ c ∈ after.head?, isPlain c = false) (rest : List UInt8) :
    ∃ mark more, encode (escape after) ++ byteOf '<' :: rest = mark :: more ∧
      Scan.isMark mark = true := by
  cases after with
  | nil => exact ⟨_, _, rfl, rfl⟩
  | cons c after =>
    obtain ⟨name, written, _⟩ := exists_name_of_special (special c rfl)
    rw [escape, List.flatMap_cons, written, List.cons_append, ← List.singleton_append,
      encode_append, List.append_assoc]
    exact ⟨_, _, rfl, rfl⟩

private theorem fills_text (nonempty : run ≠ []) (plain : ∀ c ∈ run, isPlain c = true)
    (special : ∀ c ∈ after.head?, isPlain c = false) (others : Fills (escape after) nodes) :
    Fills (escape (run ++ after)) (.text (.ok run) :: nodes) := by
  intro s rest utf8 here
  obtain ⟨mark, more, begins, isMark⟩ := exists_mark special rest
  have split : escape (run ++ after) = run ++ escape after := by
    have same : run.flatMap escapeChar = run := escape_plain plain
    rw [escape, List.flatMap_append, same]
    rfl
  have written : encode run ≠ [] := by
    intro empty
    have decoded := Text.Utf8.decode?_encode run
    rw [empty, Text.Utf8.decode?, Text.Utf8.decodeOnto?] at decoded
    exact nonempty (Option.some.inj decoded).symm
  rw [split, encode_append, List.append_assoc, begins] at here
  have stepped := Scan.step_text utf8 written (isMark_of_plain plain) isMark here
  obtain ⟨events, emits, flat⟩ := others { s with rest := mark :: more } rest utf8 begins.symm
  refine ⟨_, .step stepped ?_ emits, .text flat⟩
  have length := List.length_pos_iff.mpr written
  rw [here]
  simp only [List.length_append]
  omega

/-- Escaped text is scanned as running text that says it. -/
theorem exists_running (cs : List Char) : ∃ nodes, Running nodes cs ∧ Fills (escape cs) nodes := by
  match cs with
  | [] => exact ⟨[], .nil, fills_nil⟩
  | c :: cs =>
    cases plain : isPlain c with
    | false =>
      obtain ⟨name, written, is, plain⟩ := exists_name_of_special plain
      obtain ⟨nodes, running, fills⟩ := exists_running cs
      exact ⟨_, .reference is running, fills_reference written plain fills⟩
    | true =>
      -- The run goes on up to a special character or the tag, as the scan does.
      obtain ⟨nodes, running, fills⟩ := exists_running (cs.dropWhile isPlain)
      have whole : c :: cs = (c :: cs.takeWhile isPlain) ++ cs.dropWhile isPlain := by
        rw [List.cons_append, List.takeWhile_append_dropWhile]
      have all : ∀ d ∈ c :: cs.takeWhile isPlain, isPlain d = true := by
        intro d member
        cases member with
        | head => exact plain
        | tail _ later => exact List.all_eq_true.mp (List.all_takeWhile) d later
      have special : ∀ d ∈ (cs.dropWhile isPlain).head?, isPlain d = false := by
        intro d first
        have stops := List.head?_dropWhile_not isPlain cs
        rwa [Option.mem_def.mp first] at stops
      rw [whole]
      exact ⟨_, .text _ running, fills_text (List.cons_ne_nil _ _) all special fills⟩
termination_by cs.length
decreasing_by
  · simp
  · have shorter := (List.dropWhile_suffix isPlain (l := cs)).length_le
    simp only [List.length_cons]
    omega

end Running

/-! ## Elements -/

section Elements

variable {text more name content : List Char} {nodes others children : List Node}

theorem Scans.fills (scans : Scans text nodes) : Fills text nodes :=
  fun s rest utf8 here => scans s (byteOf '<' :: rest) utf8 here

theorem scans_nil : Scans [] [] := by
  intro s rest _ here
  have same : { s with rest } = s := by
    have here : s.rest = rest := here
    rw [← here]
  rw [same]
  exact ⟨[], .nothing s, .nil⟩

theorem Scans.append (first : Scans text nodes) (second : Scans more others) :
    Scans (text ++ more) (nodes ++ others) := by
  intro s rest utf8 here
  rw [encode_append, List.append_assoc] at here
  obtain ⟨events, emits, flat⟩ := first s _ utf8 here
  obtain ⟨later, emitsToo, flatToo⟩ := second { s with rest := encode more ++ rest } rest utf8 rfl
  exact ⟨_, emits.trans emitsToo, flat.append flatToo⟩

private theorem encode_element (name content : List Char) : encode (element name content) =
    byteOf '<' :: (encode name ++ byteOf '>' :: (encode content ++
      byteOf '<' :: byteOf '/' :: (encode name ++ [byteOf '>']))) := by
  simp only [element, encode, List.flatMap_cons, List.flatMap_append]
  rfl

theorem scans_element (is : Scan.IsName name) (fills : Fills content children) :
    Scans (element name content) [.element (Scan.bareTag name) children] := by
  intro s rest utf8 here
  rw [encode_element] at here
  simp only [List.cons_append, List.append_assoc, List.nil_append] at here
  have opens := Scan.step_startTag utf8 is here
  obtain ⟨events, emits, flat⟩ := fills
    { s with
      rest := encode content ++ byteOf '<' :: byteOf '/' :: (encode name ++ byteOf '>' :: rest)
      opened := encode name :: s.opened } _ utf8 rfl
  have closes := @Scan.step_endTag
    { s with
      rest := byteOf '<' :: byteOf '/' :: (encode name ++ byteOf '>' :: rest)
      opened := encode name :: s.opened } rest name is _ rfl rfl
  have ending :=
    Scan.Emits.single closes (by simp only [List.length_cons, List.length_append]; omega)
  refine ⟨_, .step opens ?_ (emits.trans ending), .element flat .nil⟩
  rw [here]
  simp only [List.length_cons, List.length_append]
  omega

end Elements

/-! ## Attribute values -/

def isValueChar (c : Char) : Bool := !(['&', '\t', '\n', '\r'].contains c)

private theorem valueTextFrom_plain {cs : List Char} (plain : ∀ c ∈ cs, isValueChar c = true)
    (total place : Nat) (read : List Char) :
    valueTextFrom total place read cs = .ok (read.reverse ++ cs) := by
  induction cs generalizing place read with
  | nil => simp [valueTextFrom]
  | cons c cs ih =>
    obtain ⟨first, others⟩ := List.forall_mem_cons.mp plain
    have itself : c ∉ ['&', '\t', '\n', '\r'] := by simpa [isValueChar] using first
    simp only [List.mem_cons, List.not_mem_nil, or_false, not_or] at itself
    obtain ⟨ampersand, tab, line, feed⟩ := itself
    rw [valueTextFrom, if_neg (by simp [tab, line, feed]), ih others]
    · simp
    · exact fun _ here _ => feed here
    · exact ampersand

theorem valueText_plain {cs : List Char} (plain : ∀ c ∈ cs, isValueChar c = true) :
    valueText cs = .ok cs := valueTextFrom_plain plain _ _ []

/-- A document is read as the nodes that are scanned, and breaks off behind them. -/
theorem ofBytes_of_emits {bytes : List UInt8} {last : Scan} {events : List Event}
    {nodes : List Node} (begins : (Scan.start bytes).rest = bytes)
    (emits : (Scan.start bytes).Emits events last) (ends : last.rest = [])
    (flat : Flat events nodes) : Node.ofBytes bytes = nodes ++ [.cut none] := by
  have scanned : Event.scan bytes = events ++ [] := by
    rw [Event.scan, Scan.eventsOnto_of_emits emits ends (by rw [begins]; exact Nat.lt_succ_self _)]
    simp
  rw [Node.ofBytes, scanned, arrange_flat flat]
  simp [Node.arrange, Node.closeAll]

end FeedIngest.Markup
