import FeedIngest.Catalog.Codec

/-!
# Tables

A table is what is stored of the feeds, or of the articles: the rows, and the last id that
was given to one.
-/

set_option autoImplicit false

namespace FeedIngest.Catalog

inductive TableName where
  | feeds
  | articles
deriving DecidableEq, Repr

/-- The last id that was given, and the rows. -/
structure Table (α : Type) where
  lastId : Int
  rows : List α
deriving DecidableEq, Repr

namespace Table

variable {α : Type}

def empty : Table α := ⟨0, []⟩

def encode (rowsName : String) (row : α → Json) (t : Table α) : Json := .object
  [("next_id", .ofInt t.lastId), (rowsName, .array (t.rows.map row))]

def decode? (rowsName : String) (row? : Json → Option α) (json : Json) : Option (Table α) := do
  let r ← Record.of? ["next_id", rowsName] json
  some
    { lastId := ← r.required? "next_id" Json.int64?
      rows := ← r.required? rowsName (Json.list? row?) }

def ofBytes? (rowsName : String) (row? : Json → Option α) (bytes : List UInt8) :
    Option (Table α) :=
  (Json.parse? bytes).bind (decode? rowsName row?)

end Table

def encodeFeeds (t : Table Feed) : Json := t.encode "feeds" Feed.encode

def encodeArticles (t : Table Article) : Json := t.encode "articles" Article.encode

def feedsOfBytes? : List UInt8 → Option (Table Feed) := Table.ofBytes? "feeds" Feed.decode?

def articlesOfBytes? : List UInt8 → Option (Table Article) :=
  Table.ofBytes? "articles" Article.decode?

end FeedIngest.Catalog
