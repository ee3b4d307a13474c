import FeedIngest.Text.Blank
import FeedIngest.Time.Timestamp

/-!
# What a feed document says

The part of an RSS or Atom document that the ingest uses, in its normal form: texts are
trimmed, and an optional text that is empty is absent.
-/

set_option autoImplicit false

namespace FeedIngest.Syndication

open Time (Timestamp)

structure FeedItem where
  title : String
  url : Option String
  description : Option String
  content : Option String
  publishedAt : Option Timestamp
deriving DecidableEq, Repr

structure FeedDocument where
  title : String
  description : Option String
  items : List FeedItem
deriving DecidableEq, Repr

def Trimmed (s : String) : Prop := Text.trim s.toList = s.toList

def TrimmedOrAbsent (s : Option String) : Prop := ∀ t, s = some t → Trimmed t ∧ t ≠ ""

def FeedItem.IsNormal (item : FeedItem) : Prop :=
  Trimmed item.title ∧ TrimmedOrAbsent item.url ∧ TrimmedOrAbsent item.description ∧
    TrimmedOrAbsent item.content

def FeedDocument.IsNormal (doc : FeedDocument) : Prop :=
  Trimmed doc.title ∧ TrimmedOrAbsent doc.description ∧ ∀ item ∈ doc.items, item.IsNormal

end FeedIngest.Syndication
