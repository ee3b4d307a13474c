import FeedIngest.Text.Blank

/-!
# Directories

A directory has files and folders under names, or it is gone. Files are written in one go and
moved onto others. A file action fails if the directory is gone or a folder stands in its way;
besides, mishaps may be planned: they befall the actions in turn, and a write that meets with
one may leave anything in its file. After a halt nothing happens any more.
-/

set_option autoImplicit false

namespace FeedIngest.Catalog

inductive DirectoryEntry where
  | file (bytes : List UInt8)
  | folder
deriving DecidableEq, Repr

inductive Mishap where
  /-- The action fails; a write leaves this in its file, if anything. -/
  | failure (reason : String) (left : Option (List UInt8))
  | halt
deriving DecidableEq, Repr

/-- An action on the files of a directory. -/
inductive FileAction where
  | write (name : String) (bytes : List UInt8)
  | move (source target : String)
deriving DecidableEq, Repr

structure Directory where
  present : Bool
  entries : List (String × DirectoryEntry)
  mishaps : List (Option Mishap)
deriving DecidableEq, Repr

namespace Directory

def absent : Directory := ⟨false, [], []⟩

def ofEntries (entries : List (String × DirectoryEntry)) : Directory := ⟨true, entries, []⟩

def ensured (d : Directory) : Directory := { d with present := true }

def entry? (d : Directory) (name : String) : Option DirectoryEntry := d.entries.lookup name

def read? (d : Directory) (name : String) : Option (List UInt8) :=
  match d.entry? name with
  | some (.file bytes) => some bytes
  | _ => none

def erase (d : Directory) (name : String) : Directory :=
  { d with entries := d.entries.filter (·.1 != name) }

def set (d : Directory) (name : String) (entry : DirectoryEntry) : Directory :=
  { d with entries := (name, entry) :: (d.erase name).entries }

def missing : String := "No such file or directory (os error 2)"

def isFolder : String := "Is a directory (os error 21)"

def write (d : Directory) (name : String) (bytes : List UInt8) : Except String Directory :=
  if !d.present then .error missing
  else match d.entry? name with
    | some .folder => .error isFolder
    | _ => .ok (d.set name (.file bytes))

def move (d : Directory) (source target : String) : Except String Directory :=
  match d.entry? source, d.entry? target with
  | some _, some .folder => .error isFolder
  | some entry, _ => if d.present then .ok ((d.erase source).set target entry) else .error missing
  | none, _ => .error missing

def act (d : Directory) : FileAction → Except String Directory
  | .write name bytes => d.write name bytes
  | .move source target => d.move source target

def leave (d : Directory) (action : FileAction) (left : Option (List UInt8)) : Directory :=
  match action, left with
  | .write name _, some bytes =>
    match d.write name bytes with
    | .ok d => d
    | .error _ => d
  | _, _ => d

def perform (d : Directory) (action : FileAction) : Except String Unit × Directory :=
  match d.mishaps with
  | some .halt :: _ => (.error missing, d)
  | some (.failure reason left) :: later => (.error reason, { d with mishaps := later }.leave action left)
  | none :: later => attempt { d with mishaps := later }
  | [] => attempt d
where
  /-- An action may still fail of itself, and then changes nothing. -/
  attempt (d : Directory) : Except String Unit × Directory :=
    match d.act action with
    | .ok d => (.ok (), d)
    | .error reason => (.error reason, d)

def performAll (d : Directory) : List FileAction → Except String Unit × Directory
  | [] => (.ok (), d)
  | action :: rest =>
    match d.perform action with
    | (.ok (), d) => d.performAll rest
    | (.error reason, d) => (.error reason, d)

end Directory

end FeedIngest.Catalog
