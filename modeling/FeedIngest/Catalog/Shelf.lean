/-!
# Shelves

A shelf keeps rows under ids, in the ascending order of the ids. What `get?` finds after a
change is said by `get?_put` and `get?_erase`.
-/

set_option autoImplicit false

namespace FeedIngest.Catalog

structure Shelf (α : Type) where
  rows : List (Int × α)
  ascending : rows.Pairwise fun earlier later => earlier.1 < later.1
deriving DecidableEq, Repr

namespace Shelf

variable {α : Type}

def empty : Shelf α := ⟨[], .nil⟩

def get? (s : Shelf α) (id : Int) : Option α := s.rows.lookup id

def ids (s : Shelf α) : List Int := s.rows.map (·.1)

def values (s : Shelf α) : List α := s.rows.map (·.2)

def insertRow (id : Int) (row : α) : List (Int × α) → List (Int × α)
  | [] => [(id, row)]
  | (key, other) :: rest =>
    if id < key then (id, row) :: (key, other) :: rest
    else if id = key then (id, row) :: rest
    else (key, other) :: insertRow id row rest

private theorem mem_insertRow {id : Int} {row : α} {rows : List (Int × α)} {pair : Int × α}
    (member : pair ∈ insertRow id row rows) : pair = (id, row) ∨ pair ∈ rows := by
  induction rows with
  | nil => simpa [insertRow] using member
  | cons head rest ih =>
    unfold insertRow at member
    grind

private theorem ascending_insertRow (id : Int) (row : α) {rows : List (Int × α)}
    (ascending : rows.Pairwise fun earlier later => earlier.1 < later.1) :
    (insertRow id row rows).Pairwise fun earlier later => earlier.1 < later.1 := by
  induction rows with
  | nil => simp [insertRow]
  | cons head rest ih =>
    obtain ⟨key, value⟩ := head
    obtain ⟨first, others⟩ := List.pairwise_cons.mp ascending
    unfold insertRow
    split
    · next smaller =>
      refine List.pairwise_cons.mpr ⟨fun pair member => ?_, ascending⟩
      rcases List.mem_cons.mp member with rfl | member
      · exact smaller
      · exact Int.lt_trans smaller (first pair member)
    · next notSmaller =>
      split
      · next same => exact List.pairwise_cons.mpr ⟨same ▸ first, others⟩
      · next notSame =>
        refine List.pairwise_cons.mpr ⟨fun pair member => ?_, ih others⟩
        rcases mem_insertRow member with rfl | member
        · show key < id
          omega
        · exact first pair member

def put (id : Int) (row : α) (s : Shelf α) : Shelf α :=
  ⟨insertRow id row s.rows, ascending_insertRow id row s.ascending⟩

def erase (id : Int) (s : Shelf α) : Shelf α :=
  ⟨s.rows.filter (·.1 != id), s.ascending.filter _⟩

@[simp] theorem get?_empty (id : Int) : (empty : Shelf α).get? id = none := rfl

private theorem lookup_pair (key other : Int) (row : α) (rows : List (Int × α)) :
    ((key, row) :: rows).lookup other = if other = key then some row else rows.lookup other := by
  by_cases h : other = key <;> simp [List.lookup_cons, beq_eq_false_iff_ne.2, h]

private theorem lookup_insertRow (id other : Int) (row : α) (rows : List (Int × α)) :
    (insertRow id row rows).lookup other = if other = id then some row else rows.lookup other := by
  induction rows with
  | nil => rw [insertRow, lookup_pair]
  | cons pair rest ih =>
    obtain ⟨key, value⟩ := pair
    unfold insertRow
    split
    · rw [lookup_pair]
    · split
      · next same => subst same; grind [lookup_pair]
      · grind [lookup_pair]

theorem get?_put (id other : Int) (row : α) (s : Shelf α) :
    (s.put id row).get? other = if other = id then some row else s.get? other :=
  lookup_insertRow id other row s.rows

private theorem lookup_erased (id other : Int) (rows : List (Int × α)) :
    (rows.filter (·.1 != id)).lookup other = if other = id then none else rows.lookup other := by
  induction rows with
  | nil => simp
  | cons pair rest ih =>
    obtain ⟨key, value⟩ := pair
    by_cases gone : key = id
    · rw [List.filter_cons_of_neg (by simpa using gone), lookup_pair, ih]
      grind
    · rw [List.filter_cons_of_pos (by simpa using gone), lookup_pair, lookup_pair, ih]
      grind

theorem get?_erase (id other : Int) (s : Shelf α) :
    (s.erase id).get? other = if other = id then none else s.get? other :=
  lookup_erased id other s.rows

private theorem lookup_eq_some_iff {id : Int} {row : α} {rows : List (Int × α)}
    (ascending : rows.Pairwise fun earlier later => earlier.1 < later.1) :
    rows.lookup id = some row ↔ (id, row) ∈ rows := by
  induction rows with
  | nil => simp
  | cons pair rest ih =>
    obtain ⟨key, value⟩ := pair
    obtain ⟨first, others⟩ := List.pairwise_cons.mp ascending
    rw [lookup_pair]
    split
    · next same =>
      subst same
      constructor
      · intro found
        cases found
        exact List.mem_cons_self
      · intro member
        rcases List.mem_cons.mp member with same | later
        · cases same
          rfl
        · exact absurd (first _ later) (Int.lt_irrefl id)
    · next notSame =>
      rw [ih others, List.mem_cons]
      constructor
      · exact .inr
      · rintro (same | member)
        · cases same
          exact absurd rfl notSame
        · exact member

theorem get?_eq_some_iff {s : Shelf α} {id : Int} {row : α} :
    s.get? id = some row ↔ (id, row) ∈ s.rows :=
  lookup_eq_some_iff s.ascending

theorem mem_values {s : Shelf α} {row : α} : row ∈ s.values ↔ ∃ id, s.get? id = some row := by
  simp [values, get?_eq_some_iff]

theorem mem_ids {s : Shelf α} {id : Int} : id ∈ s.ids ↔ ∃ row, s.get? id = some row := by
  simp [ids, get?_eq_some_iff]

end Shelf

end FeedIngest.Catalog
