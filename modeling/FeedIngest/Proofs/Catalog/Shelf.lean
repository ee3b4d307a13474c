import FeedIngest.Catalog.Shelf

/-!
# Kept shelves

A shelf is kept if each row stands under its own id, no id is above the last one that was given,
and no two rows have one mark. A row may be put in the place of another one, or under a new id,
as long as no other row has its mark.
-/

set_option autoImplicit false

namespace FeedIngest.Catalog.Shelf

variable {α μ : Type} {idOf : α → Int} {mark : α → μ} {last : Int} {s : Shelf α}

/-- Each row stands under its own id, which is at most `last`, and marks are not repeated. -/
structure Kept (idOf : α → Int) (mark : α → μ) (last : Int) (s : Shelf α) : Prop where
  own : ∀ {id : Int} {row : α}, s.get? id = some row → idOf row = id
  bounded : ∀ {id : Int} {row : α}, s.get? id = some row → id ≤ last
  distinct : ∀ {id other : Int} {row same : α}, s.get? id = some row →
    s.get? other = some same → mark row = mark same → id = other

namespace Kept

theorem empty : (Shelf.empty : Shelf α).Kept idOf mark last where
  own found := by cases found
  bounded found := by cases found
  distinct found := by cases found

theorem put (kept : s.Kept idOf mark last) {row : α} {next : Int} (later : last ≤ next)
    (within : idOf row ≤ next)
    (only : ∀ {other : Int} {same : α}, s.get? other = some same → mark same = mark row →
      other = idOf row) :
    (s.put (idOf row) row).Kept idOf mark next where
  own {id found} stands := by
    rw [get?_put] at stands
    split at stands
    · next here =>
      cases stands
      exact here.symm
    · exact kept.own stands
  bounded {id found} stands := by
    rw [get?_put] at stands
    split at stands
    · next here => exact here ▸ within
    · exact Int.le_trans (kept.bounded stands) later
  distinct {id other found same} stands standsToo marked := by
    rw [get?_put] at stands standsToo
    split at stands <;> split at standsToo
    · next here there => exact here.trans there.symm
    · next here _ =>
      cases stands
      exact here.trans (only standsToo marked.symm).symm
    · next _ there =>
      cases standsToo
      exact (only stands marked).trans there.symm
    · exact kept.distinct stands standsToo marked

theorem erase (kept : s.Kept idOf mark last) (id : Int) : (s.erase id).Kept idOf mark last := by
  have before : ∀ {other : Int} {row : α}, (s.erase id).get? other = some row →
      s.get? other = some row := by
    intro other row found
    rw [get?_erase] at found
    split at found
    · cases found
    · exact found
  exact ⟨fun found => kept.own (before found), fun found => kept.bounded (before found),
    fun found foundToo => kept.distinct (before found) (before foundToo)⟩

/-- The rows of a kept shelf differ in their ids and in their marks. -/
theorem values_pairwise (kept : s.Kept idOf mark last) :
    s.values.Pairwise fun row later => idOf row ≠ idOf later ∧ mark row ≠ mark later := by
  refine List.pairwise_map.mpr (s.ascending.imp_of_mem fun {pair later} here there less => ?_)
  have stands : s.get? pair.1 = some pair.2 := get?_eq_some_iff.mpr here
  have standsToo : s.get? later.1 = some later.2 := get?_eq_some_iff.mpr there
  refine ⟨fun same => ?_, fun same => ?_⟩
  · rw [kept.own stands, kept.own standsToo] at same
    omega
  · have := kept.distinct stands standsToo same
    omega

/-- A row under a new id, with a mark that no other has. -/
theorem put_new (kept : s.Kept idOf mark last) (row : α) (new : last < idOf row)
    (fresh : ∀ {other : Int} {same : α}, s.get? other = some same → mark same ≠ mark row) :
    (s.put (idOf row) row).Kept idOf mark (idOf row) :=
  kept.put (Int.le_of_lt new) (Int.le_refl _) fun found same => absurd same (fresh found)

/-- A row in the place of another one with its mark. -/
theorem put_same (kept : s.Kept idOf mark last) {row before : α}
    (found : s.get? (idOf row) = some before) (same : mark row = mark before) :
    (s.put (idOf row) row).Kept idOf mark last :=
  kept.put (Int.le_refl _) (kept.bounded found) fun foundToo sameToo =>
    kept.distinct foundToo found (sameToo.trans same)

theorem get?_of_last_lt (kept : s.Kept idOf mark last) {id : Int} (new : last < id) :
    s.get? id = none := by
  cases found : s.get? id with
  | none => rfl
  | some row => exact absurd (kept.bounded found) (Int.not_le.mpr new)

/-- Ids are marks that are not repeated. -/
theorem by_id (kept : s.Kept idOf mark last) : s.Kept idOf idOf last where
  own := kept.own
  bounded := kept.bounded
  distinct found foundToo same := (kept.own found).symm.trans (same.trans (kept.own foundToo))

end Kept

/-! ## Rows at the end -/

private theorem insertRow_of_lt {id : Int} {row : α} {rows : List (Int × α)}
    (above : ∀ pair ∈ rows, pair.1 < id) : insertRow id row rows = rows ++ [(id, row)] := by
  induction rows with
  | nil => rfl
  | cons pair rest ih =>
    have below : pair.1 < id := above pair List.mem_cons_self
    have step := ih fun other member => above other (List.mem_cons_of_mem _ member)
    rw [insertRow, if_neg (by omega), if_neg (by omega), step, List.cons_append]

/-- A row under a new id comes last. -/
theorem Kept.values_put_new (kept : s.Kept idOf mark last) {id : Int} (row : α) (new : last < id) :
    (s.put id row).values = s.values ++ [row] := by
  have above : ∀ pair ∈ s.rows, pair.1 < id := by
    intro pair member
    have stands : s.get? pair.1 = some pair.2 := get?_eq_some_iff.mpr member
    exact Int.lt_of_le_of_lt (kept.bounded stands) new
  show (insertRow id row s.rows).map (·.2) = s.values ++ [row]
  rw [insertRow_of_lt above, List.map_append, List.map_singleton, values]

/-! ## Rows in place -/

/-- A row takes the place of the one that stands under its id. -/
theorem rows_put_of_get? {id : Int} {before : α} (found : s.get? id = some before) (row : α) :
    (s.put id row).rows = s.rows.map fun pair => if pair.1 = id then (id, row) else pair := by
  have ascending := s.ascending
  have member : (id, before) ∈ s.rows := get?_eq_some_iff.mp found
  show insertRow id row s.rows = _
  generalize s.rows = rows at ascending member
  induction rows with
  | nil => cases member
  | cons pair rest ih =>
    obtain ⟨first, others⟩ := List.pairwise_cons.mp ascending
    unfold insertRow
    rcases List.mem_cons.mp member with rfl | later
    · have same : (rest.map fun pair => if pair.1 = id then (id, row) else pair) = rest := by
        refine (List.map_congr_left fun pair among => if_neg ?_).trans (List.map_id rest)
        exact Int.ne_of_gt (first pair among)
      rw [if_neg (Int.lt_irrefl id), if_pos rfl, List.map_cons, if_pos rfl, same]
    · have less : pair.1 < id := first _ later
      rw [if_neg (by omega), if_neg (by omega), List.map_cons, if_neg (by omega), ih others later]

theorem ids_put_of_get? {id : Int} {before : α} (found : s.get? id = some before) (row : α) :
    (s.put id row).ids = s.ids := by
  rw [ids, rows_put_of_get? found, List.map_map]
  refine List.map_congr_left fun pair _ => ?_
  show (if pair.1 = id then (id, row) else pair).1 = pair.1
  split
  · next here => exact here.symm
  · rfl

theorem values_put_of_get? (own : ∀ {id : Int} {row : α}, s.get? id = some row → idOf row = id)
    {id : Int} {before : α} (found : s.get? id = some before) (row : α) :
    (s.put id row).values = s.values.map fun other => if idOf other = id then row else other := by
  rw [values, rows_put_of_get? found, values, List.map_map, List.map_map]
  refine List.map_congr_left fun pair member => ?_
  have same : idOf pair.2 = pair.1 := own (get?_eq_some_iff.mpr member)
  simp only [Function.comp_apply, same]
  split <;> rfl

/-! ## Rows that stay -/

/-- Rows stay, or others with their marks do, but for the rows of some ids. -/
def KeepsBut (mark : α → μ) (gone : List Int) (s next : Shelf α) : Prop :=
  ∀ id row, s.get? id = some row → id ∉ gone →
    ∃ kept, next.get? id = some kept ∧ mark kept = mark row

namespace KeepsBut

theorem refl (gone : List Int) : s.KeepsBut mark gone s := fun _ _ found _ => ⟨_, found, rfl⟩

theorem trans {mid next : Shelf α} {gone goneToo : List Int} (first : s.KeepsBut mark gone mid)
    (second : mid.KeepsBut mark goneToo next) : s.KeepsBut mark (gone ++ goneToo) next := by
  intro id row found stays
  obtain ⟨staysFirst, staysSecond⟩ := not_or.mp (mt List.mem_append.mpr stays)
  obtain ⟨kept, stands, same⟩ := first id row found staysFirst
  obtain ⟨keptToo, standsToo, sameToo⟩ := second id kept stands staysSecond
  exact ⟨keptToo, standsToo, sameToo.trans same⟩

theorem put_new {id : Int} (row : α) (absent : s.get? id = none) :
    s.KeepsBut mark [] (s.put id row) := by
  intro other old found _
  have differs : other ≠ id := by
    rintro rfl
    rw [absent] at found
    cases found
  exact ⟨old, by rw [get?_put, if_neg differs, found], rfl⟩

theorem put_same {id : Int} {row before : α} (found : s.get? id = some before)
    (same : mark row = mark before) : s.KeepsBut mark [] (s.put id row) := by
  intro other old foundToo _
  by_cases here : other = id
  · subst here
    rw [found] at foundToo
    cases foundToo
    exact ⟨row, by rw [get?_put, if_pos rfl], same⟩
  · exact ⟨old, by rw [get?_put, if_neg here, foundToo], rfl⟩

theorem erase (id : Int) : s.KeepsBut mark [id] (s.erase id) := by
  intro other row found stays
  have differs : other ≠ id := fun same => stays (List.mem_singleton.mpr same)
  exact ⟨row, by rw [get?_erase, if_neg differs, found], rfl⟩

end KeepsBut

theorem mem_values_put {id : Int} {row other : α} (member : other ∈ (s.put id row).values) :
    other = row ∨ other ∈ s.values := by
  obtain ⟨key, found⟩ := mem_values.mp member
  rw [get?_put] at found
  split at found
  · cases found
    exact .inl rfl
  · exact .inr (mem_values.mpr ⟨key, found⟩)

theorem nodup_ids (s : Shelf α) : s.ids.Nodup :=
  List.pairwise_map.mpr (s.ascending.imp fun less => Int.ne_of_lt less)

end FeedIngest.Catalog.Shelf
