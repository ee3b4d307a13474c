import FeedIngest.Fault
import FeedIngest.Syndication.Atom
import FeedIngest.Syndication.Rss

/-!
# Feed documents

A document is read as RSS, and as Atom if it is not RSS.
-/

set_option autoImplicit false

namespace FeedIngest.Syndication

def FeedDocument.parse (bytes : List UInt8) : Except Fault FeedDocument :=
  let nodes := Markup.Node.ofBytes bytes
  match Rss.parse nodes with
  | .ok doc => .ok doc
  | .error rssFault =>
    match Atom.parse nodes with
    | .ok doc => .ok doc
    | .error atomFault =>
      .error (.fetchFailed ("not a feed (rss: " ++ rssFault.rssMessage ++ "; atom: " ++
        atomFault.atomMessage ++ ")"))

end FeedIngest.Syndication
