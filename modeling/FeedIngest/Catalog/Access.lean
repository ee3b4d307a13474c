import FeedIngest.Catalog.Archive

/-!
# Access to a catalog

The calls that the ingest makes to a catalog, whatever keeps it. Each call may fail, and each
may change the state it is made on. A call that changed something is answered when its change is
settled. `Archive.access` is the access to an archive.
-/

set_option autoImplicit false

namespace FeedIngest.Catalog

open Time (Timestamp)

/-- The calls to a catalog in the state `σ`. -/
structure Access (σ : Type) where
  feed (id : Int) : σ → Except Fault Feed × σ
  updateFeed (now : Timestamp) (feed : Feed) : σ → Call Feed × σ
  feedIds : σ → Except Fault (List Int) × σ
  articleUrls (feedId : Int) : σ → Except Fault (List String) × σ
  createArticles (now : Timestamp) (drafts : List Draft) : σ → Call (List Article) × σ
  articles (feedId : Int) : σ → Except Fault (List Article) × σ
  updateArticle (now : Timestamp) (article : Article) : σ → Call Article × σ
  writing : σ → Nat
  settle (change : Change) : σ → Except Fault Unit × σ

def Access.finish {σ α : Type} (c : Access σ) (call : Call α) (s : σ) : Except Fault α × σ :=
  match call with
  | .answered answer => (answer, s)
  | .pending change answer =>
    let (result, s) := c.settle change s
    (result.map fun _ => answer, s)

def Archive.access : Access Archive where
  feed id a := (a.store.feed id, a)
  updateFeed := Archive.updateFeed
  feedIds a := (.ok a.store.feedIds, a)
  articleUrls feedId a := (.ok (a.store.articleUrls feedId), a)
  createArticles := Archive.createArticles
  articles feedId a := (.ok (a.store.articlesOf feedId), a)
  updateArticle := Archive.updateArticle
  writing := Archive.writing
  settle := Archive.settle

end FeedIngest.Catalog
