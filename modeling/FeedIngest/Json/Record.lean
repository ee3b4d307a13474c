import FeedIngest.Json.Number

/-!
# Records

A record has fields of fixed names. It is given as an object, whose unknown members do not
matter and whose known ones may not be repeated, or as an array of its fields in order.
-/

set_option autoImplicit false

namespace FeedIngest

open Decimal (Binary64)

/-- The fields of a record that are given. -/
structure Record where
  named : Bool
  fields : List (String × Json)

namespace Record

def DistinctIn (names : List String) (members : List (String × Json)) : Prop :=
  ∀ name ∈ names, (members.filter (·.1 == name)).length ≤ 1

instance (names : List String) (members : List (String × Json)) :
    Decidable (DistinctIn names members) := inferInstanceAs (Decidable (∀ name ∈ names, _))

def of? (names : List String) : Json → Option Record
  | .object members =>
    if DistinctIn names members then some ⟨true, members⟩ else none
  | .array items =>
    if items.length ≤ names.length then some ⟨false, names.zip items⟩ else none
  | _ => none

def get? (r : Record) (name : String) : Option Json := r.fields.lookup name

variable {α : Type}

def required? (r : Record) (name : String) (decode : Json → Option α) : Option α :=
  (r.get? name).bind decode

/-- A field that takes a default when it is not given. -/
def withDefault? (r : Record) (name : String) (default : α) (decode : Json → Option α) :
    Option α :=
  match r.get? name with
  | none => some default
  | some json => decode json

def orNull? (decode : Json → Option α) : Json → Option (Option α)
  | .null => some none
  | json => (decode json).map some

/-- A field that may be left out by name, but not by position. -/
def optional? (r : Record) (name : String) (decode : Json → Option α) : Option (Option α) :=
  match r.get? name with
  | none => if r.named then some none else none
  | some json => orNull? decode json

end Record

namespace Json

def text? : Json → Option String
  | .string s => some s
  | _ => none

def bool? : Json → Option Bool
  | .bool b => some b
  | _ => none

def intWithin? (least greatest : Int) : Json → Option Int
  | .number n =>
    match n.int? with
    | some value => if least ≤ value ∧ value ≤ greatest then some value else none
    | none => none
  | _ => none

def int64? : Json → Option Int := intWithin? (-9223372036854775808) 9223372036854775807

def natUpTo? (greatest : Nat) (json : Json) : Option Nat :=
  (intWithin? 0 greatest json).map Int.toNat

def binary? : Json → Option Binary64
  | .number n => n.binary?
  | _ => none

def list? {α : Type} (decode : Json → Option α) : Json → Option (List α)
  | .array items => items.mapM decode
  | _ => none

def ofInt (n : Int) : Json := .number (JsonNumber.ofInt n)

def ofText? (s : Option String) : Json := (s.map Json.string).getD .null

end Json

end FeedIngest
