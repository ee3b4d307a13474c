import FeedIngest.Url.Idna
import FeedIngest.Url.Percent

/-!
# Hosts

A host is a domain name, an address of four bytes in any of its spellings, an address of
eight groups in brackets, or, in schemes of their own rules, any text.
-/

set_option autoImplicit false

namespace FeedIngest.Url

open Text

inductive Fault where
  | relative
  | emptyHost
  | badPort
  | badIpv4
  | badIpv6
  | badDomain
  | badHostCharacter
deriving DecidableEq, Repr

def Fault.message : Fault → String
  | relative => "relative URL without a base"
  | emptyHost => "empty host"
  | badPort => "invalid port number"
  | badIpv4 => "invalid IPv4 address"
  | badIpv6 => "invalid IPv6 address"
  | badDomain => "invalid international domain name"
  | badHostCharacter => "invalid domain character"

inductive Host where
  | domain (name : String)
  | ipv4 (address : Nat)
  | ipv6 (groups : List Nat)
  | other (text : String)
deriving DecidableEq, Repr

namespace Host

/-- Reads one part of an address of four bytes: decimal, octal after a zero or hexadecimal
after `0x`. `none` inside stands for a number that is too great. -/
def ipv4Number? (cs : List Char) : Option (Option Nat) :=
  let number (radix : Nat) (cs : List Char) : Option (Option Nat) :=
    match cs.mapM hexValue? with
    | some ds =>
      if ds.all (· < radix) then
        let n := ds.foldl (fun n d => n * radix + d) 0
        some (if n < Nat.pow 2 32 then some n else none)
      else none
    | none => none
  match cs with
  | [] => none
  | '0' :: 'x' :: cs | '0' :: 'X' :: cs => number 16 cs
  | '0' :: c :: cs => number 8 (c :: cs)
  | cs => number 10 cs

/-- The parts of a name between its dots; a dot at the end opens no part. -/
def ipv4Parts (cs : List Char) : List (List Char) :=
  let parts := cs.splitOn '.'
  if parts.getLast? = some [] then parts.dropLast else parts

/-- Whether a name has to be an address because its last part is a number. -/
def endsInNumber (cs : List Char) : Bool :=
  match (ipv4Parts cs).getLast? with
  | none => false
  | some last => (!last.isEmpty && last.all isDigit) || (ipv4Number? last).isSome

/-- The address of a name that has to be one. The last part fills all bytes that the others
leave. -/
def ipv4Address (cs : List Char) : Except Fault Nat :=
  let parts := ipv4Parts cs
  if 4 < parts.length then .error .badIpv4
  else match parts.mapM fun part => (ipv4Number? part).join with
    | none => .error .badIpv4
    | some numbers =>
      let high := numbers.dropLast
      let last := numbers.getLast?.getD 0
      if Nat.pow 256 (4 - high.length) ≤ last ∨ high.any (255 < ·) then .error .badIpv4
      else .ok ((high.mapIdx fun i n => n * Nat.pow 256 (3 - i)).foldl (· + ·) last)

def group (cs : List Char) : List Char × List Char :=
  let ds := (cs.take 4).takeWhile fun c => (hexValue? c).isSome
  (ds, cs.drop ds.length)

/-- Reads four bytes with dots between them, and nothing after them. -/
def dotted? (cs : List Char) : Option (List Nat) :=
  let byte? (part : List Char) : Option Nat :=
    if part.isEmpty || !part.all isDigit || (1 < part.length && part.head? == some '0') ||
        3 < part.length || 255 < digitsValue part then none
    else some (digitsValue part)
  match (cs.splitOn '.').mapM byte? with
  | some [a, b, c, d] => some [a * 256 + b, c * 256 + d]
  | _ => none

/-- The groups of an address read so far, in reverse, and where the gap of zeros is. -/
structure Groups where
  read : List Nat
  gap : Option Nat

/-- Reads the groups of an address. The first argument bounds the number of steps. -/
def groups? (steps : Nat) (g : Groups) (cs : List Char) : Option Groups :=
  match steps, cs with
  | 0, _ => none
  | _, [] => some g
  | steps + 1, cs =>
    if g.read.length = 8 then none
    else match cs with
      | ':' :: cs =>
        if g.gap.isSome then none
        else groups? steps ⟨0 :: g.read, some (g.read.length + 1)⟩ cs
      | cs =>
        let (ds, rest) := group cs
        let value := (ds.filterMap hexValue?).foldl (fun n d => n * 16 + d) 0
        match rest with
        | '.' :: _ =>
          if ds.isEmpty ∨ 6 < g.read.length then none
          else (dotted? cs).map fun parts => ⟨parts.reverse ++ g.read, g.gap⟩
        | ':' :: [] => none
        | ':' :: rest => groups? steps ⟨value :: g.read, g.gap⟩ rest
        | [] => some ⟨value :: g.read, g.gap⟩
        | _ => none

def ipv6? (cs : List Char) : Option (List Nat) :=
  let start? : Option (Groups × List Char) :=
    match cs with
    | ':' :: ':' :: rest => some (⟨[0], some 1⟩, rest)
    | ':' :: _ => none
    | cs => some (⟨[], none⟩, cs)
  match start?.bind fun (g, cs) => groups? (cs.length + 1) g cs with
  | none => none
  | some g =>
    let read := g.read.reverse
    match g.gap with
    | some k => some (read.take k ++ List.replicate (8 - read.length) 0 ++ read.drop k)
    | none => if read.length = 8 then some read else none

/-- The first of the longest runs of two zeros and more: where it begins, and its length. -/
def longestGap (groups : List Nat) : Option (Nat × Nat) :=
  let runs := (List.range groups.length).map fun i =>
    (i, ((groups.drop i).takeWhile (· == 0)).length)
  runs.foldl (fun best (i, n) =>
    if n < 2 then best
    else match best with
      | some (_, m) => if m < n then some (i, n) else best
      | none => some (i, n)) none

def hexText (n : Nat) : List Char :=
  let ds := [n / 4096 % 16, n / 256 % 16, n / 16 % 16].dropWhile (· == 0) ++ [n % 16]
  ds.map fun d => Char.ofNat (if d < 10 then 48 + d else 87 + d)

def groupsText (groups : List Nat) : List Char := [':'].intercalate (groups.map hexText)

def text : Host → String
  | domain name => name
  | other text => text
  | ipv4 n =>
    String.ofList (['.'].intercalate
      ([n / 16777216, n / 65536 % 256, n / 256 % 256, n % 256].map digits))
  | ipv6 groups =>
    let inner := match longestGap groups with
      | some (i, n) =>
        groupsText (groups.take i) ++ [':', ':'] ++ groupsText (groups.drop (i + n))
      | none => groupsText groups
    String.ofList ('[' :: inner ++ [']'])

def bracketed (cs : List Char) : Except Fault Host :=
  if cs.getLast? ≠ some ']' then .error .badIpv6
  else match ipv6? (cs.drop 1).dropLast with
    | some groups => .ok (.ipv6 groups)
    | none => .error .badIpv6

def parse (cs : List Char) : Except Fault Host :=
  if cs.head? = some '[' then bracketed cs
  else match Idna.toAscii? (Utf8.decodeLossy (Percent.decode cs)) with
    | none => .error .badDomain
    | some name =>
      if name.isEmpty then .error .emptyHost
      else if endsInNumber name then (ipv4Address name).map .ipv4
      else .ok (.domain (String.ofList name))

def isForbidden (c : Char) : Bool :=
  ['\x00', '\t', '\n', '\r', ' ', '#', '/', ':', '<', '>', '?', '@', '[', '\\', ']', '^',
    '|'].contains c

def parseOther (cs : List Char) : Except Fault Host :=
  if cs.head? = some '[' then bracketed cs
  else if cs.any isForbidden then .error .badHostCharacter
  else .ok (.other (String.ofList (Percent.encode Percent.inControls cs)))

end Host

end FeedIngest.Url
