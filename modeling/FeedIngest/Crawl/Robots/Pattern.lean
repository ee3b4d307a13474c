import FeedIngest.Text.Blank

/-!
# Path patterns

In a pattern `*` stands for any run of characters and a `$` at the very end ties the match to
the end of the path; every other `$` stands for itself. A pattern matches a path if it
matches some beginning of it. `Pattern.Matches` states this; `Pattern.matchesPath` decides it
by taking the first place for every piece.
-/

set_option autoImplicit false

namespace FeedIngest.Crawl.Pattern

/-- The pieces between the stars of a pattern, and whether it is tied to the end. -/
structure Pieces where
  first : List Char
  later : List (List Char)
  anchored : Bool
deriving DecidableEq, Repr

def pieces (pattern : List Char) : Pieces :=
  let anchored := pattern.getLast? == some '$'
  let body := if anchored then pattern.dropLast else pattern
  match body.splitOn '*' with
  | [] => ⟨[], [], anchored⟩
  | first :: later => ⟨first, later, anchored⟩

def matchLater (anchored : Bool) : List (List Char) → List Char → Bool
  | [], rest => !anchored || rest.isEmpty
  | [last], rest =>
    if anchored then last.reverse.isPrefixOf rest.reverse
    else (Text.dropThrough? last rest).isSome
  | piece :: later, rest =>
    match Text.dropThrough? piece rest with
    | some rest => matchLater anchored later rest
    | none => false

def matchesPath (pattern path : List Char) : Bool :=
  let p := pieces pattern
  match Text.dropHead? p.first path with
  | some rest => matchLater p.anchored p.later rest
  | none => false

/-- The text consists of the pieces in order, each after any run of characters, and a tail
that is empty if the pattern is tied to the end. -/
inductive FillsLater (anchored : Bool) : List (List Char) → List Char → Prop where
  | tail (rest : List Char) (ends : anchored = true → rest = []) : FillsLater anchored [] rest
  | piece (run piece : List Char) (later : List (List Char)) (rest : List Char)
      (filled : FillsLater anchored later rest) :
      FillsLater anchored (piece :: later) (run ++ piece ++ rest)

def Matches (pattern path : List Char) : Prop :=
  ∃ rest, path = (pieces pattern).first ++ rest ∧
    FillsLater (pieces pattern).anchored (pieces pattern).later rest

end FeedIngest.Crawl.Pattern
