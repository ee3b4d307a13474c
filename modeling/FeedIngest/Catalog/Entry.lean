import FeedIngest.Syndication.Feed

/-!
# Feeds and articles

What the catalog keeps: feeds, and the articles found in them. A draft is an article before
the catalog gave it an id. Validators are what a server says about the version of a document
it sent; they come back with the next request for it.
-/

set_option autoImplicit false

namespace FeedIngest.Catalog

open Syndication (FeedItem)
open Time (Timestamp)

/-- The version of a document, as its server names it. -/
structure Validators where
  etag : Option String
  lastModified : Option String
deriving DecidableEq, Repr, Inhabited

namespace Validators

def none : Validators := ⟨.none, .none⟩

def isEmpty (v : Validators) : Bool := v.etag.isNone && v.lastModified.isNone

end Validators

structure Feed where
  id : Int
  url : String
  title : String
  description : Option String
  etag : Option String
  lastModified : Option String
  createdAt : Timestamp
  updatedAt : Timestamp
deriving DecidableEq, Repr

def Feed.validators (f : Feed) : Validators := ⟨f.etag, f.lastModified⟩

/-- A feed before the catalog gave it an id. -/
structure DraftFeed where
  url : String
  title : String
  description : Option String
deriving DecidableEq, Repr

structure Article where
  id : Int
  feedId : Int
  title : String
  url : String
  description : Option String
  content : Option String
  publishedAt : Timestamp
  createdAt : Timestamp
  updatedAt : Timestamp
  read : Bool
  starred : Bool
  etag : Option String
  lastModified : Option String
  lastCheckedAt : Option Timestamp
deriving DecidableEq, Repr

def Article.validators (a : Article) : Validators := ⟨a.etag, a.lastModified⟩

/-- An article is found again by its feed and its link. -/
structure ArticleKey where
  feedId : Int
  url : String
deriving DecidableEq, Repr

def Article.key (a : Article) : ArticleKey := ⟨a.feedId, a.url⟩

/-- An article before the catalog gave it an id. -/
structure Draft where
  feedId : Int
  title : String
  url : String
  description : Option String
  content : Option String
  publishedAt : Timestamp
deriving DecidableEq, Repr

def Draft.key (d : Draft) : ArticleKey := ⟨d.feedId, d.url⟩

/-- The draft of an item of a feed. An item without a link has no key and gives none; an item
without a date is published now. -/
def Draft.ofItem? (feedId : Int) (item : FeedItem) (now : Timestamp) : Option Draft :=
  (item.url.bind Text.nonBlank?).map fun url =>
    { feedId
      title := item.title
      url
      description := item.description
      content := item.content
      publishedAt := item.publishedAt.getD now }

def Draft.toArticle (d : Draft) (id : Int) (now : Timestamp) : Article where
  id := id
  feedId := d.feedId
  title := d.title
  url := d.url
  description := d.description
  content := d.content
  publishedAt := d.publishedAt
  createdAt := now
  updatedAt := now
  read := false
  starred := false
  etag := none
  lastModified := none
  lastCheckedAt := none

def DraftFeed.toFeed (d : DraftFeed) (id : Int) (now : Timestamp) : Feed where
  id := id
  url := d.url
  title := d.title
  description := d.description
  etag := none
  lastModified := none
  createdAt := now
  updatedAt := now

end FeedIngest.Catalog
