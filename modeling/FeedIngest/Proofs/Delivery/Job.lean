import FeedIngest.Delivery.Job
import FeedIngest.Proofs.Json.Document

/-!
# Jobs on their way

A job that was written as a payload is read back from it.
-/

set_option autoImplicit false

namespace FeedIngest.Delivery.Job

def Fits (job : Job) : Prop := -9223372036854775808 ≤ job.feedId ∧ job.feedId ≤ 9223372036854775807

theorem encode_plain (job : Job) : job.encode.Plain :=
  .object fun _ member => List.mem_singleton.mp member ▸ .int

/-- A job is read back from its payload. -/
theorem ofPayload?_payload {job : Job} (fits : job.Fits) : ofPayload? job.payload = some job := by
  have document := Json.Reader.document?_value Json.Writer.compact_loose job.encode_plain
  unfold ofPayload? payload Json.parse? Json.render
  rw [Text.Utf8.scan_encode, String.toList_ofList, document, Option.bind_some]
  have number := JsonNumber.int?_ofInt job.feedId
  simp [decode?, encode, Record.of?, Record.DistinctIn, Record.required?, Record.get?, Json.int64?,
    Json.intWithin?, Json.ofInt, number, fits.1, fits.2]

end FeedIngest.Delivery.Job
