import FeedIngest.Text.Compose.Table

/-!
# Composed form

Texts in which every character that can be composed with the mark after it is: characters
are taken apart, marks are put in the order of their classes, and what composes is put
together again.
-/

set_option autoImplicit false

namespace FeedIngest.Text.Compose

/-- A character, the mark after it and what the two compose to. -/
structure Composition where
  base : Char
  mark : Char
  whole : Char

def triples : List Char → List Composition
  | a :: b :: c :: rest => ⟨a, b, c⟩ :: triples rest
  | _ => []

def compositions : List Composition := triples compositionText.toList

/-- The class of a character; zero for one that is no mark. -/
def classOf (c : Char) : Nat :=
  if c.toNat < 0x300 then 0
  else match classRuns.find? fun (first, last, _) => first ≤ c.toNat && c.toNat ≤ last with
    | some (_, _, k) => k
    | none => 0

def hangulFirst : Nat := 0xAC00

/-- The parts of a character. The first argument bounds the number of steps. -/
def takeApart (steps : Nat) (c : Char) : List Char :=
  match steps with
  | 0 => [c]
  | steps + 1 =>
    if c.toNat < 0xC0 then [c]
    else if hangulFirst ≤ c.toNat ∧ c.toNat < hangulFirst + 11172 then
      let i := c.toNat - hangulFirst
      let lead := Char.ofNat (0x1100 + i / 588)
      let vowel := Char.ofNat (0x1161 + i % 588 / 28)
      if i % 28 = 0 then [lead, vowel] else [lead, vowel, Char.ofNat (0x11A7 + i % 28)]
    else match compositions.find? (·.whole == c) with
      | some pair => takeApart steps pair.base ++ [pair.mark]
      | none => [c]

def insertMark (c : Char) : List Char → List Char
  | [] => [c]
  | d :: marks => if classOf c < classOf d then c :: d :: marks else d :: insertMark c marks

/-- Puts the marks after every other character in the order of their classes, given the marks
passed last. -/
def orderFrom (marks : List Char) : List Char → List Char
  | [] => marks
  | c :: cs =>
    if classOf c = 0 then marks ++ c :: orderFrom [] cs else orderFrom (insertMark c marks) cs

def compose? (a b : Char) : Option Char :=
  if 0x1100 ≤ a.toNat ∧ a.toNat < 0x1113 ∧ 0x1161 ≤ b.toNat ∧ b.toNat < 0x1176 then
    some (Char.ofNat (hangulFirst + ((a.toNat - 0x1100) * 21 + (b.toNat - 0x1161)) * 28))
  else if hangulFirst ≤ a.toNat ∧ a.toNat < hangulFirst + 11172 ∧
      (a.toNat - hangulFirst) % 28 = 0 ∧ 0x11A7 < b.toNat ∧ b.toNat < 0x11C3 then
    some (Char.ofNat (a.toNat + (b.toNat - 0x11A7)))
  else (compositions.find? fun pair => pair.base == a && pair.mark == b).map (·.whole)

/-- Composes a text from its last starter on, with the marks after it that did not compose. -/
def composeFrom (starter : Char) (marks : List Char) : List Char → List Char
  | [] => starter :: marks
  | c :: cs =>
    let lastClass := (marks.getLast?.map classOf).getD 0
    let free := marks.isEmpty || (lastClass < classOf c && lastClass ≠ 0)
    match if free then compose? starter c else none with
    | some whole => composeFrom whole marks cs
    | none =>
      if classOf c = 0 then starter :: marks ++ composeFrom c [] cs
      else composeFrom starter (marks ++ [c]) cs

def normalize (cs : List Char) : List Char :=
  match orderFrom [] (cs.flatMap (takeApart 8)) with
  | [] => []
  | c :: rest => composeFrom c [] rest

end FeedIngest.Text.Compose
