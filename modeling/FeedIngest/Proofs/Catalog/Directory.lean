import FeedIngest.Catalog.Archive

/-!
# Actions on files

An action that is done does what it should, and one that is not may at most have left something in
the file that it was writing. Other files stay as they are.
-/

set_option autoImplicit false

namespace FeedIngest.Catalog

/-! ## Names -/

theorem TableName.file_injective {t u : TableName} (same : t.file = u.file) : t = u := by
  cases t <;> cases u <;> first | rfl | exact absurd same (by decide)

theorem TableName.file_ne_draftFile (t u : TableName) : t.file ≠ u.draftFile := by
  cases t <;> cases u <;> decide

namespace Directory

variable {d next : Directory} {name other source target : String} {bytes : List UInt8}

/-! ## Files -/

theorem read?_congr (same : d.entries = next.entries) (name : String) :
    d.read? name = next.read? name := by
  rw [read?, read?, entry?, entry?, same]

theorem entry?_erase (d : Directory) (name other : String) :
    entry? (d.erase name) other = if other = name then none else d.entry? other := by
  unfold entry? erase
  induction d.entries with
  | nil => simp
  | cons entry rest ih =>
    simp only [List.filter_cons, apply_ite (List.lookup other), ih]
    grind

theorem entry?_set (d : Directory) (name other : String) (entry : DirectoryEntry) :
    entry? (d.set name entry) other = if other = name then some entry else d.entry? other := by
  by_cases here : other = name
  · rw [if_pos here, here, entry?, set, List.lookup_cons_self]
  · have differs : (other == name) = false := by simpa using here
    rw [if_neg here, entry?, set, List.lookup_cons, differs]
    exact (d.entry?_erase name other).trans (if_neg here)

private theorem read?_erase (d : Directory) (name other : String) :
    (d.erase name).read? other = if other = name then none else d.read? other := by
  rw [read?, entry?_erase, read?]
  by_cases here : other = name
  · rw [if_pos here, if_pos here]
  · rw [if_neg here, if_neg here]

theorem read?_set (d : Directory) (name other : String) (entry : DirectoryEntry) :
    (d.set name entry).read? other =
      if other = name then (d.set name entry).read? name else d.read? other := by
  split
  · next here => rw [here]
  · next elsewhere => rw [read?, entry?_set, if_neg elsewhere, ← read?]

private theorem read?_set_of_entry {entry : DirectoryEntry} (found : d.entry? source = some entry) :
    (next.set target entry).read? target = d.read? source := by
  unfold read?
  rw [found, entry?_set, if_pos rfl]

private theorem read?_set_file (d : Directory) (name : String) (bytes : List UInt8) :
    (d.set name (.file bytes)).read? name = some bytes := by
  rw [read?, entry?_set, if_pos rfl]

/-! ## Single actions -/

theorem eq_of_write (written : d.write name bytes = .ok next) :
    next = d.set name (.file bytes) := by
  unfold write at written
  split at written
  · cases written
  · split at written
    · cases written
    · cases written
      rfl

private theorem eq_of_move (moved : d.move source target = .ok next) :
    ∃ entry, d.entry? source = some entry ∧ next = (d.erase source).set target entry := by
  unfold move at moved
  split at moved
  · cases moved
  · next entry found _ =>
    split at moved
    · cases moved
      exact ⟨entry, found, rfl⟩
    · cases moved
  · cases moved

private theorem read?_leave_write (bytes : List UInt8) (left : Option (List UInt8))
    (differs : other ≠ name) : (d.leave (.write name bytes) left).read? other = d.read? other := by
  cases left with
  | none => rfl
  | some left =>
    simp only [leave]
    split
    · next written => rw [eq_of_write written, read?_set, if_neg differs]
    · rfl

private theorem leave_none (d : Directory) (action : FileAction) : d.leave action none = d := by
  cases action <;> rfl

/-! ## Actions that may meet with mishaps -/

/-- An action is done, or it fails and at most leaves something. Mishaps do not matter to either. -/
theorem perform_cases (d : Directory) (action : FileAction) :
    ∃ before : Directory, before.entries = d.entries ∧
      ((∃ next, before.act action = .ok next ∧ d.perform action = (.ok (), next)) ∨
        ∃ reason left, d.perform action = (.error reason, before.leave action left)) := by
  have attempted : ∀ before : Directory,
      (∃ next, before.act action = .ok next ∧
        perform.attempt action before = (.ok (), next)) ∨
      ∃ reason left, perform.attempt action before = (.error reason, before.leave action left) := by
    intro before
    unfold perform.attempt
    split
    · next next acted => exact .inl ⟨next, acted, rfl⟩
    · next reason _ => exact .inr ⟨reason, none, by rw [leave_none]⟩
  unfold perform
  split
  · exact ⟨d, rfl, .inr ⟨missing, none, by rw [leave_none]⟩⟩
  · next reason left later _ => exact ⟨{ d with mishaps := later }, rfl, .inr ⟨reason, left, rfl⟩⟩
  · next later _ => exact ⟨{ d with mishaps := later }, rfl, attempted _⟩
  · exact ⟨d, rfl, attempted d⟩

/-- A write leaves other files as they are, and if it is done the bytes are in its file. -/
theorem perform_write (d : Directory) (name : String) (bytes : List UInt8) :
    (∀ other, other ≠ name → (d.perform (.write name bytes)).2.read? other = d.read? other) ∧
      ((d.perform (.write name bytes)).1 = .ok () →
        (d.perform (.write name bytes)).2.read? name = some bytes) := by
  obtain ⟨before, same, ⟨next, written, done⟩ | ⟨reason, left, failed⟩⟩ :=
    d.perform_cases (.write name bytes)
  · rw [done, eq_of_write written]
    refine ⟨fun other differs => ?_, fun _ => read?_set_file before name bytes⟩
    rw [read?_set, if_neg differs, read?_congr same]
  · rw [failed]
    refine ⟨fun other differs => ?_, fun done => by cases done⟩
    rw [read?_leave_write bytes left differs, read?_congr same]

/-- A move that is done puts the one file in the place of the other; else nothing is moved. -/
theorem perform_move (d : Directory) (source target : String) :
    ((d.perform (.move source target)).1 = .ok () ∧
      (d.perform (.move source target)).2.read? target = d.read? source ∧
      ∀ other, other ≠ source → other ≠ target →
        (d.perform (.move source target)).2.read? other = d.read? other) ∨
    ∃ reason, (d.perform (.move source target)).1 = .error reason ∧
      ∀ other, (d.perform (.move source target)).2.read? other = d.read? other := by
  obtain ⟨before, same, ⟨next, moved, done⟩ | ⟨reason, left, failed⟩⟩ :=
    d.perform_cases (.move source target)
  · obtain ⟨entry, found, rfl⟩ := eq_of_move moved
    rw [done]
    refine .inl ⟨rfl, ?_, fun other notSource notTarget => ?_⟩
    · rw [read?_set_of_entry found, read?_congr same]
    · rw [read?_set, if_neg notTarget, read?_erase, if_neg notSource, read?_congr same]
  · rw [failed]
    exact .inr ⟨reason, rfl, fun other => read?_congr same other⟩

end Directory

end FeedIngest.Catalog
