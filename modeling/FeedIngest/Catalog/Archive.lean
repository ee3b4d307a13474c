import FeedIngest.Catalog.Directory
import FeedIngest.Catalog.Store
import FeedIngest.Text.Utf8

/-!
# Archives

An archive is a store that may have a directory, where each table is kept in a file of its
own. A table is written to a second file first, which is then moved onto the first, so that a
table on disk is always whole. A file that cannot be understood is passed over for that second
file; a table that is found nowhere is empty.

A call changes the store at once. Its change is settled when the table has been written or the
change was taken back, and other calls may come in between.
-/

set_option autoImplicit false

namespace FeedIngest.Catalog

open Time (Timestamp)

def TableName.file : TableName → String
  | .feeds => "feeds.json"
  | .articles => "articles.json"

def TableName.draftFile (t : TableName) : String := t.file ++ ".tmp"

/-- A store, with a directory if it is to last. -/
structure Archive where
  store : Store
  directory : Option Directory
  unsettled : Nat
deriving DecidableEq, Repr

namespace Archive

def inMemory : Archive := ⟨.empty, none, 0⟩

/-! ## Loading -/

def readTable {α : Type} (d : Directory) (name : TableName)
    (ofBytes? : List UInt8 → Option (Table α)) : Table α :=
  match d.read? name.file with
  | none => .empty
  | some bytes =>
    match ofBytes? bytes with
    | some table => table
    | none => ((d.read? name.draftFile).bind ofBytes?).getD .empty

def readStore (d : Directory) : Store :=
  .ofTables (readTable d .feeds feedsOfBytes?) (readTable d .articles articlesOfBytes?)

def load (d : Directory) : Archive := ⟨readStore d.ensured, some d.ensured, 0⟩

/-! ## Writing -/

def snapshot (s : Store) (name : TableName) : List UInt8 :=
  (s.tableJson name).renderPretty.toUTF8.toList

def actions (s : Store) (name : TableName) : List FileAction :=
  [.write name.draftFile (snapshot s name), .move name.draftFile name.file]

def persist (name : TableName) (a : Archive) : Except String Unit × Archive :=
  match a.directory with
  | none => (.ok (), a)
  | some d =>
    let (result, d) := d.performAll (actions a.store name)
    (result, { a with directory := some d })

/-- Writes a change that was made, or else takes it back. -/
def settle (change : Change) (a : Archive) : Except Fault Unit × Archive :=
  match { a with unsettled := a.unsettled - 1 }.persist change.table with
  | (.ok (), a) => (.ok (), a)
  | (.error reason, a) => (.error (.persistence reason), { a with store := a.store.undo change })

/-- How long it takes until the last change is settled. Changes are written one after the other,
and none is written without a directory. -/
def writing (a : Archive) : Nat := if a.directory.isSome then a.unsettled else 0

/-! ## Calls -/

def begin {α : Type} (call : Store → Call α × Store) (a : Archive) : Call α × Archive :=
  match call a.store with
  | (.answered answer, store) => (.answered answer, { a with store })
  | (.pending change answer, store) =>
    (.pending change answer, { a with store, unsettled := a.unsettled + 1 })

def insertFeed (now : Timestamp) (draft : DraftFeed) : Archive → Call Feed × Archive :=
  begin (Store.insertFeed now draft)

def updateFeed (now : Timestamp) (feed : Feed) : Archive → Call Feed × Archive :=
  begin (Store.updateFeed now feed)

def createArticles (now : Timestamp) (drafts : List Draft) :
    Archive → Call (List Article) × Archive :=
  begin (Store.createArticles now drafts)

def updateArticle (now : Timestamp) (article : Article) : Archive → Call Article × Archive :=
  begin (Store.updateArticle now article)

end Archive

end FeedIngest.Catalog
