import FeedIngest.Text.Compose
import FeedIngest.Url.Idna.Mapping
import FeedIngest.Url.Punycode

/-!
# International domain names

A domain name is mapped character by character, composed, and cut into labels at its dots.
Labels that hold characters beyond ASCII are written in Punycode. A label that is already in
Punycode has to stand for one that the mapping would have left alone.
-/

set_option autoImplicit false

namespace FeedIngest.Url.Idna

open Text

def pairs : List Char → List (Char × Char)
  | a :: b :: rest => (a, b) :: pairs rest
  | _ => []

def pairTable : List (Char × Char) := pairs pairText.toList

def expansionTable : List (Char × List Char) :=
  (expansionText.toList.splitOn '|').filterMap fun entry =>
    match entry with
    | [] => none
    | c :: text => some (c, text)

def inRuns (runs : List (Nat × Nat)) (c : Char) : Bool :=
  runs.any fun (first, last) => first ≤ c.toNat && c.toNat ≤ last

def shift? (c : Char) : Option Shift :=
  shifts.find? fun s => s.first ≤ c.toNat && c.toNat ≤ s.last && (c.toNat - s.first) % s.stride = 0

/-- What a character is mapped to; `none` if a domain name may not hold it. -/
def mapChar? (c : Char) : Option (List Char) :=
  if c.toNat < 128 then some [asciiLower c]
  else match shift? c with
    | some s => some [Char.ofNat (c.toNat + s.offset).toNat]
    | none =>
      match pairTable.lookup c with
      | some d => some [d]
      | none =>
        match expansionTable.lookup c with
        | some text => some text
        | none =>
          if inRuns droppedRuns c then some []
          else if inRuns forbiddenRuns c then none
          else some [c]

def mapText? (cs : List Char) : Option (List Char) :=
  (cs.mapM mapChar?).map fun parts => Compose.normalize parts.flatten

def joinersFit (before : Option Char) : List Char → Bool
  | [] => true
  | c :: cs =>
    let isJoiner := c.toNat = 0x200C || c.toNat = 0x200D
    (!isJoiner || before.any fun b => Compose.classOf b == 9) && joinersFit (some c) cs

/-- A label that may stand in a domain name: not begun by a mark, with its joiners in place. -/
def isSound (label : List Char) : Bool :=
  !(label.head?.any fun c => Compose.classOf c != 0) && joinersFit none label

def labelForm? (label : List Char) : Option (List Char) :=
  if label.take 4 = ['x', 'n', '-', '-'] then
    match Punycode.decode? (label.drop 4) with
    | some text =>
      if text.all (fun c => c.toNat < 128) || mapText? text ≠ some text || !isSound text then none
      else some label
    | none => none
  else if label.all fun c => c.toNat < 128 then some label
  else if isSound label then some ('x' :: 'n' :: '-' :: '-' :: Punycode.encode label)
  else none

def isForbidden (c : Char) : Bool :=
  c.toNat ≤ 0x20 || c.toNat = 0x7F ||
    ['#', '/', ':', '<', '>', '?', '@', '[', '\\', ']', '^', '|', '%'].contains c

def toAscii? (domain : List Char) : Option (List Char) := do
  let mapped ← mapText? domain
  if mapped.any isForbidden then none
  else
    let labels ← (mapped.splitOn '.').mapM labelForm?
    some (['.'].intercalate labels)

end FeedIngest.Url.Idna
