import FeedIngest.Json.Reader
import FeedIngest.Json.Record
import FeedIngest.Json.Writer

/-!
# Jobs

A unit of work: fetch one feed. Jobs travel through a broker as JSON.
-/

set_option autoImplicit false

namespace FeedIngest.Delivery

structure Job where
  feedId : Int
deriving DecidableEq, Repr

namespace Job

def encode (job : Job) : Json := .object [("feed_id", .ofInt job.feedId)]

def decode? (json : Json) : Option Job := do
  let r ← Record.of? ["feed_id"] json
  some { feedId := ← r.required? "feed_id" Json.int64? }

def payload (job : Job) : List UInt8 := Text.Utf8.encode job.encode.render.toList

def ofPayload? (payload : List UInt8) : Option Job := (Json.parse? payload).bind decode?

end Job

end FeedIngest.Delivery
