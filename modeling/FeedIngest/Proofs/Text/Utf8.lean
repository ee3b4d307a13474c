import FeedIngest.Text.Utf8

/-!
# Encoding and scanning

Whatever text is encoded, scanning its bytes gives its characters back. Each character is told
from its first byte, which announces how many follow and how the second one may begin.
-/

set_option autoImplicit false

namespace FeedIngest.Text.Utf8

variable {lead b c d : UInt8} {rest : List UInt8}

private theorem toNat_ofNat {n : Nat} (small : n < 256) : (UInt8.ofNat n).toNat = n := by
  rw [UInt8.toNat_ofNat']
  omega

/-! ## What the first byte announces -/

private theorem announced_two (least : 0xC2 ≤ lead.toNat) (greatest : lead.toNat ≤ 0xDF) :
    announced lead = some (2, 0x80, 0xBF) := by
  unfold announced
  rw [if_pos (by simpa [UInt8.le_iff_toNat_le] using And.intro least greatest)]

private theorem announced_three (least : 0xE0 ≤ lead.toNat) (greatest : lead.toNat ≤ 0xEF) :
    announced lead = some (3, if lead.toNat = 0xE0 then 0xA0 else 0x80,
      if lead.toNat = 0xED then 0x9F else 0xBF) := by
  simp only [announced, UInt8.le_iff_toNat_le, ← UInt8.toNat_inj, UInt8.reduceToNat]
  grind

private theorem announced_four (least : 0xF0 ≤ lead.toNat) (greatest : lead.toNat ≤ 0xF4) :
    announced lead = some (4, if lead.toNat = 0xF0 then 0x90 else 0x80,
      if lead.toNat = 0xF4 then 0x8F else 0xBF) := by
  simp only [announced, UInt8.le_iff_toNat_le, ← UInt8.toNat_inj, UInt8.reduceToNat]
  grind

private theorem isTail_of_bounds (bounds : 0x80 ≤ b.toNat ∧ b.toNat ≤ 0xBF) : isTail b = true := by
  simpa [isTail, UInt8.le_iff_toNat_le] using bounds

/-! ## Characters by their size -/

private theorem head_one (small : lead.toNat < 0x80) :
    head lead rest = .char (Char.ofNat lead.toNat) 1 := by
  unfold head
  rw [if_pos (by simpa [UInt8.lt_iff_toNat_lt] using small)]

private theorem head_two (least : 0xC2 ≤ lead.toNat) (greatest : lead.toNat ≤ 0xDF)
    (second : 0x80 ≤ b.toNat ∧ b.toNat ≤ 0xBF) :
    head lead (b :: rest) = .char (Char.ofNat (lead.toNat % 32 * 64 + low b)) 2 := by
  have long : ¬lead < 0x80 := by
    simp only [UInt8.lt_iff_toNat_lt, UInt8.reduceToNat]
    omega
  have inside : ¬¬((0x80 : UInt8) ≤ b ∧ b ≤ 0xBF) := by
    simpa only [UInt8.le_iff_toNat_le, UInt8.reduceToNat, Classical.not_not] using second
  unfold head
  simp only [if_neg long, announced_two least greatest, if_neg inside, if_true]

private theorem head_three (least : 0xE0 ≤ lead.toNat) (greatest : lead.toNat ≤ 0xEF)
    (second : (if lead.toNat = 0xE0 then 0xA0 else 0x80) ≤ b.toNat ∧
      b.toNat ≤ if lead.toNat = 0xED then 0x9F else 0xBF)
    (third : 0x80 ≤ c.toNat ∧ c.toNat ≤ 0xBF) :
    head lead (b :: c :: rest) =
      .char (Char.ofNat ((lead.toNat % 16 * 64 + low b) * 64 + low c)) 3 := by
  have long : ¬lead < 0x80 := by
    simp only [UInt8.lt_iff_toNat_lt, UInt8.reduceToNat]
    omega
  have inside : ¬¬((if lead.toNat = 0xE0 then (0xA0 : UInt8) else 0x80) ≤ b ∧
      b ≤ if lead.toNat = 0xED then 0x9F else 0xBF) := by
    simpa only [UInt8.le_iff_toNat_le, apply_ite UInt8.toNat, UInt8.reduceToNat,
      Classical.not_not] using second
  unfold head
  simp only [if_neg long, announced_three least greatest, if_neg inside, isTail_of_bounds third]
  rfl

private theorem head_four (least : 0xF0 ≤ lead.toNat) (greatest : lead.toNat ≤ 0xF4)
    (second : (if lead.toNat = 0xF0 then 0x90 else 0x80) ≤ b.toNat ∧
      b.toNat ≤ if lead.toNat = 0xF4 then 0x8F else 0xBF)
    (third : 0x80 ≤ c.toNat ∧ c.toNat ≤ 0xBF) (fourth : 0x80 ≤ d.toNat ∧ d.toNat ≤ 0xBF) :
    head lead (b :: c :: d :: rest) =
      .char (Char.ofNat (((lead.toNat % 8 * 64 + low b) * 64 + low c) * 64 + low d)) 4 := by
  have long : ¬lead < 0x80 := by
    simp only [UInt8.lt_iff_toNat_lt, UInt8.reduceToNat]
    omega
  have inside : ¬¬((if lead.toNat = 0xF0 then (0x90 : UInt8) else 0x80) ≤ b ∧
      b ≤ if lead.toNat = 0xF4 then 0x8F else 0xBF) := by
    simpa only [UInt8.le_iff_toNat_le, apply_ite UInt8.toNat, UInt8.reduceToNat,
      Classical.not_not] using second
  unfold head
  simp only [if_neg long, announced_four least greatest, if_neg inside, isTail_of_bounds third,
    isTail_of_bounds fourth]
  rfl

/-- The bytes of a character begin with that character, whatever follows them. -/
theorem head_encode (c : Char) (rest : List UInt8) :
    ∃ lead tail, String.utf8EncodeChar c = lead :: tail ∧
      head lead (tail ++ rest) = .char c (tail.length + 1) := by
  have valid : c.val.toNat < 0xD800 ∨ 0xDFFF < c.val.toNat ∧ c.val.toNat < 0x110000 := c.valid
  have whole : ∀ n, n = c.val.toNat → Char.ofNat n = c := by
    intro n same
    rw [same]
    exact Char.ofNat_toNat c
  unfold String.utf8EncodeChar
  generalize c.val.toNat = v at valid whole ⊢
  change ∃ lead tail, (if v ≤ 127 then _ else _) = lead :: tail ∧ _
  by_cases one : v ≤ 127
  · have lead := toNat_ofNat (n := v) (by omega)
    rw [if_pos one]
    refine ⟨_, _, rfl, ?_⟩
    rw [head_one (by omega), whole _ lead]
    rfl
  rw [if_neg one]
  have last := toNat_ofNat (n := v % 64 + 128) (by omega)
  by_cases two : v ≤ 2047
  · have lead := toNat_ofNat (n := v / 64 % 32 + 192) (by omega)
    rw [if_pos two]
    refine ⟨_, _, rfl, ?_⟩
    rw [List.singleton_append, head_two (by omega) (by omega) (by omega)]
    rw [whole _ (by simp only [low]; omega)]
    rfl
  rw [if_neg two]
  change ∃ lead tail, (if v ≤ 65535 then _ else _) = lead :: tail ∧ _
  have middle := toNat_ofNat (n := v / 64 % 64 + 128) (by omega)
  by_cases three : v ≤ 65535
  · have lead := toNat_ofNat (n := v / 4096 % 16 + 224) (by omega)
    rw [if_pos three]
    refine ⟨_, _, rfl, ?_⟩
    rw [List.cons_append, List.singleton_append,
      head_three (by omega) (by omega) (by split <;> split <;> omega) (by omega)]
    rw [whole _ (by simp only [low]; omega)]
    rfl
  rw [if_neg three]
  have lead := toNat_ofNat (n := v / 262144 % 8 + 240) (by omega)
  have second := toNat_ofNat (n := v / 4096 % 64 + 128) (by omega)
  refine ⟨_, _, rfl, ?_⟩
  change head (UInt8.ofNat (v / 262144 % 8 + 240)) (UInt8.ofNat (v / 4096 % 64 + 128) ::
    UInt8.ofNat (v / 64 % 64 + 128) :: UInt8.ofNat (v % 64 + 128) :: rest) = _
  rw [head_four (by omega) (by omega) (by split <;> split <;> omega) (by omega) (by omega)]
  rw [whole _ (by simp only [low]; omega)]
  rfl

/-! ## Whole texts -/

private theorem scanOnto_encode (cs : List Char) (read : List (Option Char)) :
    scanOnto read (encode cs) = read.reverse ++ cs.map some := by
  induction cs generalizing read with
  | nil => simp [encode, scanOnto]
  | cons c cs ih =>
    obtain ⟨lead, tail, bytes, begins⟩ := head_encode c (encode cs)
    have split : encode (c :: cs) = lead :: (tail ++ encode cs) := by
      simp only [encode, List.flatMap_cons, bytes, List.cons_append]
    rw [split, scanOnto, begins]
    simp [ih]

/-- Scanning gives back the text that was encoded. -/
theorem scan_encode (cs : List Char) : scan (encode cs) = cs.map some := by
  rw [scan, scanOnto_encode, List.reverse_nil, List.nil_append]

private theorem decodeOnto?_encode (cs read : List Char) :
    decodeOnto? read (encode cs) = some (read.reverse ++ cs) := by
  induction cs generalizing read with
  | nil => simp [encode, decodeOnto?]
  | cons c cs ih =>
    obtain ⟨lead, tail, bytes, begins⟩ := head_encode c (encode cs)
    have split : encode (c :: cs) = lead :: (tail ++ encode cs) := by
      simp only [encode, List.flatMap_cons, bytes, List.cons_append]
    rw [split, decodeOnto?, begins]
    simp [ih]

theorem decode?_encode (cs : List Char) : decode? (encode cs) = some cs := by
  rw [decode?, decodeOnto?_encode, List.reverse_nil, List.nil_append]

theorem encode_append (cs ds : List Char) : encode (cs ++ ds) = encode cs ++ encode ds :=
  List.flatMap_append

/-- A byte below 128 stands for itself only. -/
theorem eq_of_mem_encodeChar {c d : Char} (ascii : d.toNat < 128)
    (member : UInt8.ofNat d.toNat ∈ String.utf8EncodeChar c) : c = d := by
  have small : (UInt8.ofNat d.toNat).toNat = d.toNat := toNat_ofNat (by omega)
  have same : c.val.toNat = d.toNat → c = d := fun same => Char.toNat_inj.mp same
  unfold String.utf8EncodeChar at member
  generalize c.val.toNat = v at member same
  change _ ∈ (if v ≤ 127 then _ else _) at member
  split at member
  · next one =>
    have lead := toNat_ofNat (n := v) (by omega)
    rw [List.mem_singleton.mp member] at small
    exact same (lead.symm.trans small)
  · -- Every byte of a longer character is at least 128.
    have high : 128 ≤ (UInt8.ofNat d.toNat).toNat := by
      revert member
      generalize UInt8.ofNat d.toNat = b
      intro member
      have last := toNat_ofNat (n := v % 64 + 128) (by omega)
      have middle := toNat_ofNat (n := v / 64 % 64 + 128) (by omega)
      have second := toNat_ofNat (n := v / 4096 % 64 + 128) (by omega)
      split at member
      · have lead := toNat_ofNat (n := v / 64 % 32 + 192) (by omega)
        simp only [List.mem_cons, List.not_mem_nil, or_false] at member
        rcases member with rfl | rfl <;> omega
      · split at member
        · have lead := toNat_ofNat (n := v / 4096 % 16 + 224) (by omega)
          simp only [List.mem_cons, List.not_mem_nil, or_false] at member
          rcases member with rfl | rfl | rfl <;> omega
        · have lead := toNat_ofNat (n := v / 262144 % 8 + 240) (by omega)
          simp only [List.mem_cons, List.not_mem_nil, or_false] at member
          rcases member with rfl | rfl | rfl | rfl <;> omega
    omega

theorem mem_of_mem_encode {d : Char} {cs : List Char} (ascii : d.toNat < 128)
    (member : UInt8.ofNat d.toNat ∈ encode cs) : d ∈ cs := by
  obtain ⟨c, among, inside⟩ := List.mem_flatMap.mp member
  exact eq_of_mem_encodeChar ascii inside ▸ among

private theorem toList_loop (bytes : ByteArray) (i : Nat) (read : List UInt8) :
    ByteArray.toList.loop bytes i read = read.reverse ++ bytes.data.toList.drop i := by
  have length : bytes.data.toList.length = bytes.size := rfl
  induction i, read using ByteArray.toList.loop.induct bytes with
  | case1 i read inside ih =>
    have here : bytes.get! i = bytes.data.toList[i] := by
      rw [Array.getElem_toList]
      exact getElem!_pos bytes.data i inside
    have rest := List.drop_eq_getElem_cons (length ▸ inside)
    rw [ByteArray.toList.loop, if_pos inside, ih, here, rest, List.reverse_cons, List.append_assoc]
    rfl
  | case2 i read past =>
    rw [ByteArray.toList.loop, if_neg past, List.drop_eq_nil_of_le (by omega), List.append_nil]

/-- The bytes of a text are those of its characters. -/
theorem toUTF8_toList (s : String) : s.toUTF8.toList = encode s.toList := by
  have bytes : s.toUTF8 = (encode s.toList).toByteArray := by
    have same := String.toByteArray_ofList (l := s.toList)
    rwa [String.ofList_toList] at same
  rw [bytes, ByteArray.toList, toList_loop, List.toList_data_toByteArray]
  rfl

end FeedIngest.Text.Utf8
