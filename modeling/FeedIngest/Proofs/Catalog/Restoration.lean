import FeedIngest.Proofs.Catalog.Codec
import FeedIngest.Proofs.Delivery.Job

/-!
# Reading back what was written

A job, a feed and an article are read back from the text of their stored forms, on one line or on
many, and so are the tables of a store. The stored form of an article may lack what checks leave
behind; it is read as an article that was never checked.
-/

set_option autoImplicit false

namespace FeedIngest

namespace Json

/-- The value is read from the text of its stored form, be that compact or pretty. -/
structure Restores {α : Type} (decode? : Json → Option α) (json : Json) (value : α) : Prop where
  compact : (parse? (Text.Utf8.encode json.render.toList)).bind decode? = some value
  pretty : (parse? (Text.Utf8.encode json.renderPretty.toList)).bind decode? = some value

private theorem Restores.of_plain {α : Type} {decode? : Json → Option α} {json : Json} {value : α}
    (plain : json.Plain) (reads : decode? json = some value) : Restores decode? json value := by
  have document : ∀ {layout : Writer.Layout}, layout.Loose →
      (parse? (Text.Utf8.encode (String.ofList (Writer.value layout 0 json)).toList)).bind decode? =
        some value := by
    intro layout loose
    rw [parse?, Text.Utf8.scan_encode, String.toList_ofList, Reader.document?_value loose plain,
      Option.bind_some, reads]
  exact ⟨document Writer.compact_loose, document Writer.pretty_loose⟩

end Json

namespace Delivery.Job

theorem decode?_encode {job : Job} (fits : FitsWord job.feedId) :
    decode? job.encode = some job := by
  have nodup : ["feed_id"].Nodup := by decide
  have record := @Record.exists_of_object [("feed_id", .ofInt job.feedId)] ["feed_id"] nodup
  obtain ⟨r, given, field⟩ := record
  rw [decode?, encode, given, Option.bind_eq_bind, Option.bind_some,
    Record.required?_bind (field 0 _ _ rfl) (Json.int64?_ofInt fits)]

end Delivery.Job

namespace Catalog

open Delivery (Job)
open Time (Timestamp)

/-- Jobs, feeds, articles and tables are read back as they were written, if their numbers fit words.
An article of which less was written than there is to say about checks is read without what is
missing. -/
theorem stored_restored {job : Job} {feed : Feed} {article : Article} {store : Store}
    {omitted : List String} (jobFits : FitsWord job.feedId) (feedFits : FitsWord feed.id)
    (articleFits : FitsWord article.id ∧ FitsWord article.feedId) (storeFits : store.Fits)
    (later : omitted ⊆ Article.checkNames) :
    Json.Restores Job.decode? job.encode job ∧
      Json.Restores Feed.decode? feed.encode feed ∧
      Json.Restores Article.decode? article.encode article ∧
      Json.Restores Article.decode? (article.encode.without omitted) (article.forgetting omitted) ∧
      feedsOfBytes? (Archive.snapshot store .feeds) = some store.feedTable ∧
      articlesOfBytes? (Archive.snapshot store .articles) = some store.articleTable := by
  refine ⟨?_, ?_, ?_, ?_, ?_, ?_⟩
  · exact .of_plain job.encode_plain (Job.decode?_encode jobFits)
  · exact .of_plain feed.encode_plain (Feed.decode?_encode feedFits)
  · exact .of_plain article.encode_plain (Article.decode?_encode articleFits.1 articleFits.2)
  · exact .of_plain (Json.without_plain article.encode_plain omitted)
      (Article.decode?_without later articleFits.1 articleFits.2)
  · exact Archive.feedsOfBytes?_snapshot storeFits
  · exact Archive.articlesOfBytes?_snapshot storeFits

def leapMoment : Timestamp := ⟨1483228799, 1500000000, by decide, by decide, by decide, by decide⟩

def firstMoment : Timestamp := ⟨-8334601228800, 1, by decide, by decide, by decide, by decide⟩

def oddFeed : Feed where
  id := -9223372036854775808
  url := "u\"\\"
  title := "\x00\n\x7f"
  description := some "😀"
  etag := none
  lastModified := some ""
  createdAt := firstMoment
  updatedAt := leapMoment

def oddArticle : Article where
  id := 9223372036854775807
  feedId := -9223372036854775808
  title := "\t\x1f/"
  url := "𐀀\\u0000"
  description := none
  content := some "\"null\""
  publishedAt := leapMoment
  createdAt := firstMoment
  updatedAt := leapMoment
  read := true
  starred := false
  etag := some "W/\"1\""
  lastModified := none
  lastCheckedAt := some firstMoment

theorem odd_restored : ∃ store : Store, store.feeds.values = [oddFeed] ∧
    store.articles.values = [oddArticle] ∧
    Json.Restores Job.decode? (Job.encode ⟨-9223372036854775808⟩) ⟨-9223372036854775808⟩ ∧
    Json.Restores Feed.decode? oddFeed.encode oddFeed ∧
    Json.Restores Article.decode? oddArticle.encode oddArticle ∧
    Json.Restores Article.decode? (oddArticle.encode.without Article.checkNames)
      { oddArticle with etag := none, lastCheckedAt := none } ∧
    feedsOfBytes? (Archive.snapshot store .feeds) = some store.feedTable ∧
    articlesOfBytes? (Archive.snapshot store .articles) = some store.articleTable := by
  have fits : (Store.ofTables ⟨1, [oddFeed]⟩ ⟨1, [oddArticle]⟩).Fits :=
    ⟨by decide, by decide, by decide, by decide⟩
  exact ⟨_, rfl, rfl, stored_restored (by decide) (by decide) (by decide) fits (List.Subset.refl _)⟩

end Catalog

end FeedIngest
