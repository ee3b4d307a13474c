import FeedIngest.Proofs.Catalog.Directory
import FeedIngest.Proofs.Catalog.Index

/-!
# Reliable directories

A directory is reliable if every table is written to it that ever will be. A directory that is
there, in which no folders stand in the way and for which no mishaps are planned, is reliable. In a
reliable archive, a change is settled by writing it, and is not taken back.
-/

set_option autoImplicit false

namespace FeedIngest.Catalog

namespace Directory

variable {d next : Directory}

theorem performAll_append (d : Directory) (first rest : List FileAction) :
    d.performAll (first ++ rest) =
      match d.performAll first with
      | (.ok (), d) => d.performAll rest
      | (.error reason, d) => (.error reason, d) := by
  induction first generalizing d with
  | nil => rfl
  | cons action first ih =>
    simp only [List.cons_append, performAll]
    split
    · exact ih _
    · rfl

def writing (tables : List (Store × TableName)) : List FileAction :=
  tables.flatMap fun table => Archive.actions table.1 table.2

def Reliable (d : Directory) : Prop := ∀ tables, (d.performAll (writing tables)).1 = .ok ()

/-- A reliable directory is reliable after a table was written to it. -/
theorem Reliable.write (reliable : d.Reliable) (s : Store) (name : TableName) :
    ∃ next, d.performAll (Archive.actions s name) = (.ok (), next) ∧ next.Reliable := by
  have all : ∀ tables, (d.performAll (Archive.actions s name ++ writing tables)).1 = .ok () :=
    fun tables => reliable ((s, name) :: tables)
  simp only [performAll_append] at all
  split at all
  · next next written => exact ⟨next, written, all⟩
  · cases all []

/-! ## Intact directories -/

/-- The directory is there, no mishaps are planned, and no folder has the name of a file. -/
structure Intact (d : Directory) : Prop where
  present : d.present = true
  quiet : ∀ mishap ∈ d.mishaps, mishap = none
  files : ∀ t : TableName, d.entry? t.file ≠ some .folder
  draftFiles : ∀ t : TableName, d.entry? t.draftFile ≠ some .folder

/-- Nothing but the action itself can go wrong. -/
theorem Intact.perform (intact : d.Intact) (action : FileAction) :
    ∃ before : Directory, before.Intact ∧ before.entries = d.entries ∧
      d.perform action = perform.attempt action before := by
  unfold Directory.perform
  split
  · next planned => cases intact.quiet _ (planned ▸ List.mem_cons_self)
  · next planned => cases intact.quiet _ (planned ▸ List.mem_cons_self)
  · next later planned =>
    have quiet : ∀ mishap ∈ later, mishap = none := fun mishap member =>
      intact.quiet mishap (planned ▸ List.mem_cons_of_mem _ member)
    exact ⟨{ d with mishaps := later }, ⟨intact.present, quiet, intact.files, intact.draftFiles⟩,
      rfl, rfl⟩
  · exact ⟨d, intact, rfl, rfl⟩

/-- A file stays a file, or becomes one. -/
theorem Intact.set_file (intact : d.Intact) (name : String) (bytes : List UInt8) :
    (d.set name (.file bytes)).Intact where
  present := intact.present
  quiet := intact.quiet
  files t := by
    rw [entry?_set]
    split
    · exact nofun
    · exact intact.files t
  draftFiles t := by
    rw [entry?_set]
    split
    · exact nofun
    · exact intact.draftFiles t

private theorem Intact.erase (intact : d.Intact) (name : String) : (d.erase name).Intact where
  present := intact.present
  quiet := intact.quiet
  files t := by
    rw [entry?_erase]
    split
    · exact nofun
    · exact intact.files t
  draftFiles t := by
    rw [entry?_erase]
    split
    · exact nofun
    · exact intact.draftFiles t

/-- A table is written to an intact directory, which stays intact. -/
theorem Intact.write_table (intact : d.Intact) (s : Store) (name : TableName) :
    ∃ next, d.performAll (Archive.actions s name) = (.ok (), next) ∧ next.Intact := by
  obtain ⟨first, intactFirst, _, performed⟩ :=
    intact.perform (.write name.draftFile (Archive.snapshot s name))
  have written : first.write name.draftFile (Archive.snapshot s name) =
      .ok (first.set name.draftFile (.file (Archive.snapshot s name))) := by
    unfold Directory.write
    rw [intactFirst.present]
    split
    · next absent => cases absent
    · split
      · next folder => exact absurd folder (intactFirst.draftFiles name)
      · rfl
  obtain ⟨second, intactSecond, same, performedToo⟩ :=
    (intactFirst.set_file name.draftFile (Archive.snapshot s name)).perform
      (.move name.draftFile name.file)
  have drafted : second.entry? name.draftFile = some (.file (Archive.snapshot s name)) := by
    have found := first.entry?_set name.draftFile name.draftFile (.file (Archive.snapshot s name))
    rw [if_pos rfl] at found
    exact (congrArg (List.lookup name.draftFile) same).trans found
  have moved : second.move name.draftFile name.file =
      .ok ((second.erase name.draftFile).set name.file (.file (Archive.snapshot s name))) := by
    unfold Directory.move
    rw [drafted, intactSecond.present]
    split
    · next folder => exact absurd folder (intactSecond.files name)
    · next found _ =>
      cases found
      rfl
    · next none => cases none
  have intactNext :=
    (intactSecond.erase name.draftFile).set_file name.file (Archive.snapshot s name)
  refine ⟨_, ?_, intactNext⟩
  simp only [Archive.actions, performAll, performed, perform.attempt, act, written, performedToo,
    moved]

theorem Intact.reliable (intact : d.Intact) : d.Reliable := by
  intro tables
  induction tables generalizing d with
  | nil => rfl
  | cons table tables ih =>
    obtain ⟨next, written, intactNext⟩ := intact.write_table table.1 table.2
    have split : writing (table :: tables) =
        Archive.actions table.1 table.2 ++ writing tables := rfl
    rw [split, performAll_append, written]
    exact ih intactNext

end Directory

/-! ## Reliable archives -/

namespace Archive

variable {a b : Archive}

def Reliable (a : Archive) : Prop := ∀ d, a.directory = some d → d.Reliable

theorem Reliable.congr (reliable : a.Reliable) (same : b.directory = a.directory) : b.Reliable := by
  intro d kept
  exact reliable d (same ▸ kept)

theorem InMemory.reliable (inMemory : a.InMemory) : a.Reliable := by
  intro d kept
  rw [inMemory.directory] at kept
  cases kept

/-- A change is written. -/
theorem Reliable.settle (reliable : a.Reliable) (change : Change) :
    ∃ b, a.settle change = (.ok (), b) ∧ b.store = a.store ∧ b.Reliable := by
  cases kept : a.directory with
  | none =>
    refine ⟨_, settle_of_no_directory kept change, rfl, ?_⟩
    exact reliable.congr rfl
  | some d =>
    obtain ⟨next, written, reliableNext⟩ := (reliable d kept).write a.store change.table
    refine ⟨{ a with directory := some next, unsettled := a.unsettled - 1 }, ?_, rfl, ?_⟩
    · simp only [Archive.settle, Archive.persist, kept, written]
    · intro other same
      cases same
      exact reliableNext

end Archive

end FeedIngest.Catalog
