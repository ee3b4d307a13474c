import FeedIngest.Markup.Fault
import FeedIngest.Text.CharacterSet

/-!
# Events of a marked-up document

A document is cut into tags, runs of text and references, one after another. `Event.scan`
makes sure that end tags match and resolves the character set: every part of an event is
decoded under the set in force where it stands, and a part that is no text in that set is a
fault for whoever asks for it.
-/

set_option autoImplicit false

namespace FeedIngest.Markup

open Text

abbrev Decoded := Except Fault (List Char)

/-- A name with a value, not yet resolved. -/
structure Attribute where
  key : Decoded
  value : Decoded

structure Tag where
  name : Decoded
  /-- All that stands between the angle brackets, without the slash of a closed tag. -/
  source : Decoded
  attributes : List Attribute
  selfClosed : Bool

inductive Event where
  | startTag (tag : Tag)
  | endTag
  | text (content : Decoded)
  | cdata (content : Decoded)
  | comment (content : Decoded)
  | reference (name : Decoded)
  | fault (fault : Fault)

def ascii (s : String) : List UInt8 := s.toList.map fun c => UInt8.ofNat c.toNat

def byteOf (c : Char) : UInt8 := UInt8.ofNat c.toNat

def isSpace (b : UInt8) : Bool := b == 0x20 || b == 0x09 || b == 0x0A || b == 0x0D

def startsWith (bytes head : List UInt8) : Bool := head.isPrefixOf bytes

/-- The parts before and after the first occurrence of a mark, behind an accumulator that
holds the bytes passed in reverse. -/
def splitAtOnto? (mark passed : List UInt8) : List UInt8 → Option (List UInt8 × List UInt8)
  | [] => none
  | b :: rest =>
    if mark.isPrefixOf (b :: rest) then some (passed.reverse, (b :: rest).drop mark.length)
    else splitAtOnto? mark (b :: passed) rest

def splitAt? (mark bytes : List UInt8) : Option (List UInt8 × List UInt8) :=
  splitAtOnto? mark [] bytes

/-- What a tag holds up to its closing bracket, which may stand inside of quotes, behind an
accumulator that holds the bytes passed in reverse. -/
def tagOnto (quote : Option Char) (passed : List UInt8) :
    List UInt8 → Except Fault (List UInt8 × List UInt8)
  | [] =>
    match quote with
    | none => .error (.unclosed .tag)
    | some q => .error (.unclosed (.value q))
  | b :: rest =>
    match quote with
    | none =>
      if b = byteOf '>' then .ok (passed.reverse, rest)
      else if b = byteOf '\'' then tagOnto (some '\'') (b :: passed) rest
      else if b = byteOf '"' then tagOnto (some '"') (b :: passed) rest
      else tagOnto none (b :: passed) rest
    | some q => tagOnto (if b = byteOf q then none else some q) (b :: passed) rest

def tagContent (bytes : List UInt8) : Except Fault (List UInt8 × List UInt8) :=
  tagOnto none [] bytes

/-- Where a reading of a document type declaration stands. -/
inductive DoctypePlace where
  | outside
  | subset
  | after
  | quoted (quote : UInt8)
  | declaration

/-- What a document type declaration holds up to its closing bracket. Brackets inside of its
own declarations, comments and instructions do not close it. The first argument bounds the
number of steps. -/
def doctypeOnto (steps : Nat) (place : DoctypePlace) (passed : List UInt8) (bytes : List UInt8) :
    Option (List UInt8 × List UInt8) :=
  match steps, bytes with
  | 0, _ => none
  | _, [] => none
  | steps + 1, b :: rest =>
    let go (place : DoctypePlace) := doctypeOnto steps place (b :: passed) rest
    let skip (mark : List UInt8) :=
      match splitAt? mark rest with
      | some (inner, after) => doctypeOnto steps .subset (mark.reverse ++ inner.reverse ++ b :: passed) after
      | none => none
    match place with
    | .outside =>
      if b = byteOf '>' then some (passed.reverse, rest)
      else if b = byteOf '[' then go .subset
      else go .outside
    | .after => if b = byteOf '>' then some (passed.reverse, rest) else go .after
    | .subset =>
      if b = byteOf ']' then go .after
      else if b = byteOf '<' then
        if startsWith rest (ascii "!--") then skip (ascii "-->")
        else if startsWith rest (ascii "?") then skip (ascii "?>")
        else go .declaration
      else go .subset
    | .declaration =>
      if b = byteOf '>' then go .subset
      else if b = byteOf '\'' ∨ b = byteOf '"' then go (.quoted b)
      else go .declaration
    | .quoted q => go (if b = q then .declaration else .quoted q)

/-- The attributes that follow a name in a tag; `none` stands for a malformed one. A value
has to be in quotes. The first argument bounds the number of steps. -/
def attributeParts (steps : Nat) (bytes : List UInt8) :
    List (Option (List UInt8 × List UInt8)) :=
  match steps, bytes.dropWhile isSpace with
  | 0, _ => []
  | _, [] => []
  | steps + 1, first :: tail =>
    let isKeyEnd (b : UInt8) : Bool := b == byteOf '=' || isSpace b
    let key := first :: tail.takeWhile fun b => !isKeyEnd b
    match (tail.dropWhile fun b => !isKeyEnd b).dropWhile isSpace with
    | [] => [none]
    | b :: rest =>
      if b ≠ byteOf '=' then none :: attributeParts steps (b :: rest)
      else match rest.dropWhile isSpace with
        | [] => [none]
        | quote :: rest =>
          if quote = byteOf '"' ∨ quote = byteOf '\'' then
            match rest.dropWhile (· != quote) with
            | [] => [none]
            | _ :: after => some (key, rest.takeWhile (· != quote)) :: attributeParts steps after
          else none :: attributeParts steps ((quote :: rest).dropWhile fun b => !isSpace b)

structure Scan where
  rest : List UInt8
  opened : List (List UInt8)
  set : CharacterSet
  settled : Bool

namespace Scan

def decode (s : Scan) (bytes : List UInt8) : Decoded :=
  match s.set.decode? bytes with
  | some cs => .ok cs
  | none => .error (.undecodable s.set.name)

/-- A name for a message; empty if it is no text. -/
def nameText (s : Scan) (bytes : List UInt8) : String :=
  String.ofList ((s.set.decode? bytes).getD [])

def fail (fault : Fault) : List Event × Option Scan := ([.fault fault], none)

def attributes (s : Scan) (bytes : List UInt8) : List Attribute :=
  (attributeParts (bytes.length + 1) bytes).filterMap fun part =>
    part.map fun (key, value) => ⟨s.decode key, s.decode value⟩

def startTag (s : Scan) (bytes : List UInt8) : List Event × Option Scan :=
  match tagContent bytes with
  | .error fault => fail fault
  | .ok (content, rest) =>
    let selfClosed := content.getLast? == some (byteOf '/')
    let content := if selfClosed then content.dropLast else content
    let name := content.takeWhile fun b => !isSpace b
    let tag : Event := .startTag
      { name := s.decode name
        source := s.decode content
        attributes := s.attributes (content.dropWhile fun b => !isSpace b)
        selfClosed }
    if selfClosed then ([tag, .endTag], some { s with rest })
    else ([tag], some { s with rest, opened := name :: s.opened })

def endTag (s : Scan) (bytes : List UInt8) : List Event × Option Scan :=
  match tagContent bytes with
  | .error fault => fail fault
  | .ok (content, rest) =>
    let trimmed := (content.reverse.dropWhile isSpace).reverse
    let name := if trimmed.isEmpty then content else trimmed
    match s.opened with
    | [] => fail (.unmatched (s.nameText name))
    | expected :: opened =>
      if name = expected then ([.endTag], some { s with rest, opened })
      else fail (.mismatched (s.nameText expected) (s.nameText name))

def declaredSet? (content : List UInt8) : Option CharacterSet :=
  let parts := (attributeParts (content.length + 1) content).takeWhile Option.isSome
  match (parts.filterMap id).find? (·.1 == ascii "encoding") with
  | some (_, label) => CharacterSet.ofLabel? (label.map fun b => Char.ofNat b.toNat)
  | none => none

def isDeclaration (content : List UInt8) : Bool :=
  startsWith content (ascii "xml") && (content.drop 3).head?.all isSpace

def instruction (s : Scan) (bytes : List UInt8) : List Event × Option Scan :=
  match splitAt? (ascii "?>") (byteOf '?' :: bytes) with
  | none =>
    let follows := (bytes.drop 3).head?
    if startsWith bytes (ascii "xml") && follows.all (fun b => isSpace b || b == byteOf '?') then
      fail (.unclosed .declaration)
    else fail (.unclosed .instruction)
  | some ([], _) => fail (.unclosed .instruction)
  | some (_ :: content, rest) =>
    match s.settled, isDeclaration content, declaredSet? (content.drop 3) with
    | false, true, some set => ([], some { s with rest, set, settled := true })
    | _, _, _ => ([], some { s with rest })

def startsWithUncased (bytes : List UInt8) (word : String) : Bool :=
  ((bytes.take word.length).map fun b => asciiLower (Char.ofNat b.toNat)) ==
    word.toList.map asciiLower

def bang (s : Scan) (bytes : List UInt8) : List Event × Option Scan :=
  match bytes with
  | [] => fail .unknownMarkup
  | b :: rest =>
    if b = byteOf '-' then
      if startsWith rest (ascii "-") then
        match splitAt? (ascii "-->") (rest.drop 1) with
        | some (content, rest) => ([.comment (s.decode content)], some { s with rest })
        | none => fail (.unclosed .comment)
      else fail (.unclosed .comment)
    else if b = byteOf '[' then
      if startsWithUncased bytes "[CDATA[" then
        match splitAt? (ascii "]]>") (bytes.drop 7) with
        | some (content, rest) => ([.cdata (s.decode content)], some { s with rest })
        | none => fail (.unclosed .cdata)
      else fail (.unclosed .cdata)
    else if b = byteOf 'D' ∨ b = byteOf 'd' then
      match doctypeOnto (bytes.length + 1) .outside [] bytes with
      | none => fail (.unclosed .doctype)
      | some (content, rest) =>
        if !startsWithUncased content "DOCTYPE" then fail (.unclosed .doctype)
        else if (content.drop 7).all isSpace then fail .namelessDoctype
        else ([], some { s with rest })
    else fail .unknownMarkup

def markup (s : Scan) (bytes : List UInt8) : List Event × Option Scan :=
  match bytes with
  | [] => fail (.unclosed .tag)
  | b :: rest =>
    if b = byteOf '!' then s.bang rest
    else if b = byteOf '/' then s.endTag rest
    else if b = byteOf '?' then s.instruction rest
    else s.startTag bytes

def isMark (b : UInt8) : Bool := b == byteOf '<' || b == byteOf '&'

def reference (s : Scan) (bytes : List UInt8) : List Event × Option Scan :=
  let isNamePart (b : UInt8) : Bool := !isMark b && b != byteOf ';'
  match bytes.dropWhile isNamePart with
  | b :: rest =>
    if b = byteOf ';' then
      ([.reference (s.decode (bytes.takeWhile isNamePart))], some { s with rest })
    else fail .unclosedReference
  | [] => fail .unclosedReference

/-- The next events, and where the scan stands after them if it goes on. -/
def step (s : Scan) : List Event × Option Scan :=
  match s.rest with
  | [] => ([], none)
  | b :: rest =>
    if b = byteOf '<' then s.markup rest
    else if b = byteOf '&' then s.reference rest
    else
      ([.text (s.decode (b :: rest.takeWhile fun b => !isMark b))],
        some { s with rest := rest.dropWhile fun b => !isMark b })

/-- All events of a scan, behind an accumulator that holds those passed in reverse. The first
argument bounds the number of steps. -/
def eventsOnto (steps : Nat) (passed : List Event) (s : Scan) : List Event :=
  match steps with
  | 0 => passed.reverse
  | steps + 1 =>
    match s.step with
    | (events, some s) => eventsOnto steps (events.reverse ++ passed) s
    | (events, none) => (events.reverse ++ passed).reverse

/-- The character set that the first bytes of a document show, and what follows a byte order
mark. -/
def start (bytes : List UInt8) : Scan :=
  let (set, rest) : CharacterSet × List UInt8 :=
    match bytes with
    | 0xFE :: 0xFF :: rest => (.utf16 true, rest)
    | 0xFF :: 0xFE :: rest => (.utf16 false, rest)
    | 0xEF :: 0xBB :: 0xBF :: rest => (.utf8, rest)
    | 0x00 :: 0x3C :: 0x00 :: 0x3F :: _ => (.utf16 true, bytes)
    | 0x3C :: 0x00 :: 0x3F :: 0x00 :: _ => (.utf16 false, bytes)
    | _ => (.utf8, bytes)
  { rest, opened := [], set, settled := false }

end Scan

/-- The events of a document. A fault can only be the last one. -/
def Event.scan (bytes : List UInt8) : List Event :=
  Scan.eventsOnto (bytes.length + 1) [] (Scan.start bytes)

end FeedIngest.Markup
