import FeedIngest.Catalog.Entry
import FeedIngest.Fault

/-!
# Staleness

What an update check finds out about a stored article.
-/

set_option autoImplicit false

namespace FeedIngest.Crawl

open Catalog (Article Validators)
open Time (Timestamp)

/-- Whether the document of an article has changed since it was stored. -/
inductive Staleness where
  | unchanged
  /-- The new validators, and the new content if it came along. -/
  | changed (validators : Validators) (content : Option String)
deriving DecidableEq, Repr

abbrev Checker (σ : Type) := (now : Nat) → Article → σ → Except Fault Staleness × σ

def Staleness.applyTo (found : Staleness) (now : Timestamp) (article : Article) : Article :=
  match found with
  | .unchanged => { article with lastCheckedAt := some now }
  | .changed validators content =>
    { article with
      etag := validators.etag
      lastModified := validators.lastModified
      content := content <|> article.content
      lastCheckedAt := some now }

end FeedIngest.Crawl
