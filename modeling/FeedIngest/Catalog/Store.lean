import FeedIngest.Catalog.Shelf
import FeedIngest.Catalog.Table
import FeedIngest.Fault

/-!
# The store

The store has the feeds and the articles. Two feeds never come by one link through
`insertFeed`, and an article whose feed and link are known is not created again.

A call that changes something does so at once; it is answered when the changed table has been
written, and if that fails, `undo` takes the change back. An id that was given to a row is not
given again, even if the row is taken back.
-/

set_option autoImplicit false

namespace FeedIngest.Catalog

open Time (Timestamp)

inductive Change where
  | feedInserted (feed : Feed)
  | feedUpdated (before after : Feed)
  | articlesCreated (articles : List Article)
  | articleUpdated (before after : Article)
deriving DecidableEq, Repr

def Change.table : Change → TableName
  | .feedInserted _ | .feedUpdated _ _ => .feeds
  | .articlesCreated _ | .articleUpdated _ _ => .articles

/-- How far a call has come: it is answered, or it made a change that has yet to be written
and has its answer ready. -/
inductive Call (α : Type) where
  | answered (answer : Except Fault α)
  | pending (change : Change) (answer : α)

/-- The feeds, the articles, and the keys of the articles. -/
structure Store where
  lastFeedId : Int
  feeds : Shelf Feed
  lastArticleId : Int
  articles : Shelf Article
  keys : List ArticleKey
deriving DecidableEq, Repr

namespace Store

def empty : Store := ⟨0, .empty, 0, .empty, []⟩

/-! ## Tables -/

def takeFeed (s : Store) (feed : Feed) : Store :=
  { s with lastFeedId := max s.lastFeedId feed.id, feeds := s.feeds.put feed.id feed }

/-- Puts an article of a table into the store, unless its key is known. -/
def takeArticle (s : Store) (article : Article) : Store :=
  if s.keys.contains article.key then s
  else
    { s with
      lastArticleId := max s.lastArticleId article.id
      articles := s.articles.put article.id article
      keys := article.key :: s.keys }

def ofTables (feeds : Table Feed) (articles : Table Article) : Store :=
  articles.rows.foldl takeArticle
    (feeds.rows.foldl takeFeed
      { empty with lastFeedId := feeds.lastId, lastArticleId := articles.lastId })

def feedTable (s : Store) : Table Feed := ⟨s.lastFeedId, s.feeds.values⟩

def articleTable (s : Store) : Table Article := ⟨s.lastArticleId, s.articles.values⟩

def tableJson (s : Store) : TableName → Json
  | .feeds => encodeFeeds s.feedTable
  | .articles => encodeArticles s.articleTable

/-! ## Looking things up -/

def feed (s : Store) (id : Int) : Except Fault Feed :=
  match s.feeds.get? id with
  | some feed => .ok feed
  | none => .error (.feedNotFound id)

def feedIds (s : Store) : List Int := s.feeds.ids

def articlesOf (s : Store) (feedId : Int) : List Article :=
  s.articles.values.filter (·.feedId == feedId)

def articleUrls (s : Store) (feedId : Int) : List String := (s.articlesOf feedId).map (·.url)

/-! ## Changes -/

/-- Adds a feed, unless there is one with its link; then that one is the answer. -/
def insertFeed (now : Timestamp) (draft : DraftFeed) (s : Store) : Call Feed × Store :=
  match s.feeds.values.find? (·.url == draft.url) with
  | some known => (.answered (.ok known), s)
  | none =>
    let feed := draft.toFeed (s.lastFeedId + 1) now
    (.pending (.feedInserted feed) feed,
      { s with lastFeedId := feed.id, feeds := s.feeds.put feed.id feed })

def updateFeed (now : Timestamp) (feed : Feed) (s : Store) : Call Feed × Store :=
  match s.feeds.get? feed.id with
  | none => (.answered (.error (.feedNotFound feed.id)), s)
  | some before =>
    let after := { feed with updatedAt := now }
    (.pending (.feedUpdated before after) after, { s with feeds := s.feeds.put feed.id after })

def place (s : Store) (article : Article) : Store :=
  { s with
    lastArticleId := article.id
    articles := s.articles.put article.id article
    keys := article.key :: s.keys }

/-- Adds the articles whose keys are not known, and gives those back. -/
def addArticles (now : Timestamp) : List Draft → Store → List Article × Store
  | [], s => ([], s)
  | draft :: drafts, s =>
    if s.keys.contains draft.key then addArticles now drafts s
    else
      let article := draft.toArticle (s.lastArticleId + 1) now
      let (created, s) := addArticles now drafts (s.place article)
      (article :: created, s)

/-- Creates articles; those whose keys are known are left out. -/
def createArticles (now : Timestamp) (drafts : List Draft) (s : Store) :
    Call (List Article) × Store :=
  match addArticles now drafts s with
  | ([], s) => (.answered (.ok []), s)
  | (created, s) => (.pending (.articlesCreated created) created, s)

def keyFault : Fault := .persistence "article dedup key is immutable"

def updateArticle (now : Timestamp) (article : Article) (s : Store) : Call Article × Store :=
  match s.articles.get? article.id with
  | none => (.answered (.error (.articleNotFound article.id)), s)
  | some before =>
    if before.key = article.key then
      let after := { article with updatedAt := now }
      (.pending (.articleUpdated before after) after,
        { s with articles := s.articles.put article.id after })
    else (.answered (.error keyFault), s)

/-! ## Taking changes back -/

def removeArticle (s : Store) (article : Article) : Store :=
  { s with
    articles := s.articles.erase article.id
    keys := s.keys.filter (· != article.key) }

/-- Takes a change back. An update is taken back only if nobody has replaced the row since. -/
def undo (change : Change) (s : Store) : Store :=
  match change with
  | .feedInserted feed => { s with feeds := s.feeds.erase feed.id }
  | .feedUpdated before after =>
    if s.feeds.get? after.id = some after then { s with feeds := s.feeds.put after.id before } else s
  | .articlesCreated articles => articles.foldl removeArticle s
  | .articleUpdated before after =>
    if s.articles.get? after.id = some after then
      { s with articles := s.articles.put after.id before }
    else s

end Store

end FeedIngest.Catalog
