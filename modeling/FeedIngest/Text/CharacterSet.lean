import FeedIngest.Text.Blank
import FeedIngest.Text.CharacterSet.Big5
import FeedIngest.Text.CharacterSet.EucKr
import FeedIngest.Text.CharacterSet.Gb18030
import FeedIngest.Text.CharacterSet.Jis
import FeedIngest.Text.CharacterSet.Labels
import FeedIngest.Text.CharacterSet.SingleByte
import FeedIngest.Text.Utf8

/-!
# Character sets

A document is decoded piece by piece under a character set that its first bytes or its
declaration name. A piece with a byte sequence that has no character is not decoded at all.
-/

set_option autoImplicit false

namespace FeedIngest.Text

inductive CharacterSet where
  | utf8
  | utf16 (bigEndian : Bool)
  | singleByte (set : SingleByteSet)
  | shiftJis
  | eucJp
  | iso2022Jp
  | eucKr
  | gbk
  | gb18030
  | big5
  | userDefined
  /-- A set that is named but not trusted: nothing can be decoded. -/
  | replacement
deriving DecidableEq, Repr

namespace CharacterSet

def name : CharacterSet → String
  | utf8 => "UTF-8"
  | utf16 true => "UTF-16BE"
  | utf16 false => "UTF-16LE"
  | singleByte set => set.name
  | shiftJis => "Shift_JIS"
  | eucJp => "EUC-JP"
  | iso2022Jp => "ISO-2022-JP"
  | eucKr => "EUC-KR"
  | gbk => "GBK"
  | gb18030 => "gb18030"
  | big5 => "Big5"
  | userDefined => "x-user-defined"
  | replacement => "replacement"

def known : List CharacterSet :=
  [utf8, utf16 true, utf16 false, shiftJis, eucJp, iso2022Jp, eucKr, gbk, gb18030, big5, userDefined, replacement] ++
    SingleByteSet.all.map singleByte

def ofLabel? (label : List Char) : Option CharacterSet :=
  let isPadding (c : Char) : Bool := c == ' ' || c == '\t' || c == '\n' || c == '\r' || c == '\x0c'
  let label := String.ofList ((dropEnd isPadding (label.dropWhile isPadding)).map asciiLower)
  match characterSetLabels.find? (·.2.contains label) with
  | some (name, _) => known.find? (·.name == name)
  | none => none

def decodeGroups (read : List Char) (next : UInt8 → List UInt8 → Option (List Char × Nat)) :
    List UInt8 → Option (List Char)
  | [] => some read.reverse
  | b :: rest =>
    match next b rest with
    | some (cs, more) => decodeGroups (cs.reverse ++ read) next (rest.drop more)
    | none => none
termination_by bytes => bytes.length
decreasing_by simp only [List.length_drop, List.length_cons]; omega

def decodeBy (next : UInt8 → List UInt8 → Option (Char × Nat)) :
    List UInt8 → Option (List Char) :=
  decodeGroups [] fun b rest => (next b rest).map fun (c, more) => ([c], more)

def unit (bigEndian : Bool) (a b : UInt8) : Nat :=
  if bigEndian then a.toNat * 256 + b.toNat else b.toNat * 256 + a.toNat

def nextUtf16 (bigEndian : Bool) (a : UInt8) : List UInt8 → Option (Char × Nat)
  | b :: rest =>
    let high := unit bigEndian a b
    if high < 0xD800 ∨ 0xE000 ≤ high then some (Char.ofNat high, 1)
    else if 0xDC00 ≤ high then none
    else match rest with
      | c :: d :: _ =>
        let low := unit bigEndian c d
        if 0xDC00 ≤ low ∧ low < 0xE000 then
          some (Char.ofNat (0x10000 + (high - 0xD800) * 0x400 + (low - 0xDC00)), 3)
        else none
      | _ => none
  | [] => none

def katakana (b : UInt8) : Char := Char.ofNat (0xFF61 + (b.toNat - 0xA1))

def nextShiftJis (lead : UInt8) (rest : List UInt8) : Option (Char × Nat) :=
  if lead ≤ 0x80 then some (Char.ofNat lead.toNat, 0)
  else if 0xA1 ≤ lead ∧ lead ≤ 0xDF then some (katakana lead, 0)
  else if lead = 0xA0 ∨ 0xFC < lead then none
  else match rest with
    | trail :: _ =>
      if trail < 0x40 ∨ trail = 0x7F ∨ 0xFC < trail then none
      else
        let first := lead.toNat - (if lead < 0xA0 then 0x81 else 0xC1)
        let second := trail.toNat - (if trail < 0x7F then 0x40 else 0x41)
        let pointer := first * 188 + second
        if 8836 ≤ pointer ∧ pointer ≤ 10715 then some (Char.ofNat (0xE000 + (pointer - 8836)), 1)
        else (Jis.x0208.char? (pointer / 94) (pointer % 94)).map fun c => (c, 1)
    | [] => none

def nextEucJp (lead : UInt8) (rest : List UInt8) : Option (Char × Nat) :=
  let isCell (b : UInt8) : Bool := 0xA1 ≤ b && b ≤ 0xFE
  if lead < 0x80 then some (Char.ofNat lead.toNat, 0)
  else if lead = 0x8E then
    match rest with
    | b :: _ => if 0xA1 ≤ b ∧ b ≤ 0xDF then some (katakana b, 1) else none
    | [] => none
  else if lead = 0x8F then
    match rest with
    | a :: b :: _ =>
      if isCell a && isCell b then
        (Jis.x0212.char? (a.toNat - 0xA1) (b.toNat - 0xA1)).map fun c => (c, 2)
      else none
    | _ => none
  else match rest with
    | b :: _ =>
      if isCell lead && isCell b then
        (Jis.x0208.char? (lead.toNat - 0xA1) (b.toNat - 0xA1)).map fun c => (c, 1)
      else none
    | [] => none

def nextEucKr (lead : UInt8) (rest : List UInt8) : Option (Char × Nat) :=
  if lead < 0x80 then some (Char.ofNat lead.toNat, 0)
  else if lead = 0x80 ∨ lead = 0xFF then none
  else match rest with
    | trail :: _ =>
      if trail < 0x41 ∨ trail = 0xFF then none
      else (EucKr.plane.char? (lead.toNat - 0x81) (trail.toNat - 0x41)).map fun c => (c, 1)
    | [] => none

def isDigitByte (b : UInt8) : Bool := 0x30 ≤ b && b ≤ 0x39

/-- One character of GB 18030, or of GBK, which decodes the same way. -/
def nextGb18030 (lead : UInt8) (rest : List UInt8) : Option (Char × Nat) :=
  if lead < 0x80 then some (Char.ofNat lead.toNat, 0)
  else if lead = 0x80 then some ('€', 0)
  else if lead = 0xFF then none
  else match rest with
    | second :: third :: fourth :: _ =>
      if isDigitByte second then
        if 0x81 ≤ third ∧ third ≤ 0xFE ∧ isDigitByte fourth then
          let number := (lead.toNat - 0x81) * 12600 + (second.toNat - 0x30) * 1260 +
            (third.toNat - 0x81) * 10 + (fourth.toNat - 0x30)
          (Gb18030.long? number).map fun c => (c, 3)
        else none
      else short second
    | second :: _ => short second
    | [] => none
where
  short (trail : UInt8) : Option (Char × Nat) :=
    if trail < 0x40 ∨ trail = 0x7F ∨ trail = 0xFF then none
    else
      let cell := trail.toNat - (if trail < 0x7F then 0x40 else 0x41)
      (Gb18030.plane.char? (lead.toNat - 0x81) cell).map fun c => (c, 1)

def nextBig5 (lead : UInt8) (rest : List UInt8) : Option (List Char × Nat) :=
  if lead < 0x80 then some ([Char.ofNat lead.toNat], 0)
  else if lead = 0x80 ∨ lead = 0xFF then none
  else match rest with
    | trail :: _ =>
      if trail < 0x40 ∨ (0x7E < trail ∧ trail < 0xA1) ∨ trail = 0xFF then none
      else
        let row := lead.toNat - 0x81
        let cell := trail.toNat - (if trail < 0x7F then 0x40 else 0x62)
        match Big5.pairs.lookup (row, cell) with
        | some pair => some (pair, 1)
        | none => (Big5.plane.char? row cell).map fun c => ([c], 1)
    | [] => none

/-- The sets between which escape sequences of ISO-2022-JP switch. -/
inductive JisMode where
  | ascii
  | roman
  | katakana
  | double
deriving DecidableEq, Repr

def JisMode.ofEscape? : List UInt8 → Option JisMode
  | [0x28, 0x42] => some ascii
  | [0x28, 0x4A] => some roman
  | [0x28, 0x49] => some katakana
  | [0x24, 0x40] | [0x24, 0x42] => some double
  | _ => none

def nextIso2022Jp (mode : JisMode) (lead : UInt8) (rest : List UInt8) : Option (Char × Nat) :=
  let isPlain := lead < 0x80 ∧ lead ≠ 0x0E ∧ lead ≠ 0x0F
  match mode with
  | .ascii => if isPlain then some (Char.ofNat lead.toNat, 0) else none
  | .roman =>
    if lead = 0x5C then some ('¥', 0)
    else if lead = 0x7E then some ('‾', 0)
    else if isPlain then some (Char.ofNat lead.toNat, 0)
    else none
  | .katakana =>
    if 0x21 ≤ lead ∧ lead ≤ 0x5F then some (katakana (lead + 0x80), 0) else none
  | .double =>
    match rest with
    | trail :: _ =>
      if 0x21 ≤ lead ∧ lead ≤ 0x7E ∧ 0x21 ≤ trail ∧ trail ≤ 0x7E then
        (Jis.x0208.char? (lead.toNat - 0x21) (trail.toNat - 0x21)).map fun c => (c, 1)
      else none
    | [] => none

/-- Reads ISO-2022-JP from a mode on. Two escape sequences never follow each other. -/
def decodeIso2022Jp (read : List Char) (mode : JisMode) (escaped : Bool) :
    List UInt8 → Option (List Char)
  | [] => some read.reverse
  | b :: rest =>
    if b = 0x1B then
      match JisMode.ofEscape? (rest.take 2) with
      | some mode => if escaped then none else decodeIso2022Jp read mode true (rest.drop 2)
      | none => none
    else match nextIso2022Jp mode b rest with
      | some (c, more) => decodeIso2022Jp (c :: read) mode false (rest.drop more)
      | none => none
termination_by bytes => bytes.length
decreasing_by all_goals simp only [List.length_drop, List.length_cons]; omega

/-- The text of a piece; nothing if one of its byte sequences has no character. -/
def decode? (set : CharacterSet) (bytes : List UInt8) : Option (List Char) :=
  match set with
  | utf8 => Utf8.decode? bytes
  | utf16 bigEndian => decodeBy (nextUtf16 bigEndian) bytes
  | singleByte set => decodeBy (fun b _ => (set.char? b).map fun c => (c, 0)) bytes
  | shiftJis => decodeBy nextShiftJis bytes
  | eucJp => decodeBy nextEucJp bytes
  | iso2022Jp => decodeIso2022Jp [] .ascii false bytes
  | eucKr => decodeBy nextEucKr bytes
  | gbk | gb18030 => decodeBy nextGb18030 bytes
  | big5 => decodeGroups [] nextBig5 bytes
  | userDefined =>
    some (bytes.map fun b =>
      if b < 0x80 then Char.ofNat b.toNat else Char.ofNat (0xF780 + (b.toNat - 0x80)))
  | replacement => if bytes.isEmpty then some [] else none

end CharacterSet

end FeedIngest.Text
