import FeedIngest.Catalog.Entry
import FeedIngest.Json.Reader
import FeedIngest.Json.Record
import FeedIngest.Json.Writer
import FeedIngest.Time.Rfc3339

/-!
# Records of feeds and articles

The JSON form in which feeds and articles are stored, and its decoders.
-/

set_option autoImplicit false

namespace FeedIngest.Catalog

open Time (Timestamp Rfc3339.render Rfc3339.parseRelaxed?)

def encodeTime (t : Timestamp) : Json := .string (Rfc3339.render t)

def decodeTime? (json : Json) : Option Timestamp :=
  json.text?.bind fun s => Rfc3339.parseRelaxed? s.toList

namespace Feed

def fieldNames : List String :=
  ["id", "url", "title", "description", "etag", "last_modified", "created_at", "updated_at"]

def encode (f : Feed) : Json := .object
  [("id", .ofInt f.id), ("url", .string f.url), ("title", .string f.title),
    ("description", .ofText? f.description), ("etag", .ofText? f.etag),
    ("last_modified", .ofText? f.lastModified), ("created_at", encodeTime f.createdAt),
    ("updated_at", encodeTime f.updatedAt)]

def decode? (json : Json) : Option Feed := do
  let r ← Record.of? fieldNames json
  some
    { id := ← r.required? "id" Json.int64?
      url := ← r.required? "url" Json.text?
      title := ← r.required? "title" Json.text?
      description := ← r.optional? "description" Json.text?
      etag := ← r.optional? "etag" Json.text?
      lastModified := ← r.optional? "last_modified" Json.text?
      createdAt := ← r.required? "created_at" decodeTime?
      updatedAt := ← r.required? "updated_at" decodeTime? }

end Feed

namespace Article

def fieldNames : List String :=
  ["id", "feed_id", "title", "url", "description", "content", "published_at", "created_at",
    "updated_at", "read", "starred", "etag", "last_modified", "last_checked_at"]

def encode (a : Article) : Json := .object
  [("id", .ofInt a.id), ("feed_id", .ofInt a.feedId), ("title", .string a.title),
    ("url", .string a.url), ("description", .ofText? a.description),
    ("content", .ofText? a.content), ("published_at", encodeTime a.publishedAt),
    ("created_at", encodeTime a.createdAt), ("updated_at", encodeTime a.updatedAt),
    ("read", .bool a.read), ("starred", .bool a.starred), ("etag", .ofText? a.etag),
    ("last_modified", .ofText? a.lastModified),
    ("last_checked_at", (a.lastCheckedAt.map encodeTime).getD .null)]

/-- The article of a stored form. What checks left behind may be missing. -/
def decode? (json : Json) : Option Article := do
  let r ← Record.of? fieldNames json
  some
    { id := ← r.required? "id" Json.int64?
      feedId := ← r.required? "feed_id" Json.int64?
      title := ← r.required? "title" Json.text?
      url := ← r.required? "url" Json.text?
      description := ← r.optional? "description" Json.text?
      content := ← r.optional? "content" Json.text?
      publishedAt := ← r.required? "published_at" decodeTime?
      createdAt := ← r.required? "created_at" decodeTime?
      updatedAt := ← r.required? "updated_at" decodeTime?
      read := ← r.required? "read" Json.bool?
      starred := ← r.required? "starred" Json.bool?
      etag := ← r.withDefault? "etag" none (Record.orNull? Json.text?)
      lastModified := ← r.withDefault? "last_modified" none (Record.orNull? Json.text?)
      lastCheckedAt := ← r.withDefault? "last_checked_at" none (Record.orNull? decodeTime?) }

end Article

end FeedIngest.Catalog
