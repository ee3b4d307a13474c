import FeedIngest.Delivery.Job

/-!
# Rings of jobs

A ring keeps the jobs that were published last. Every reader has a place of his own; one who
has fallen behind goes on at the oldest job that is still kept.
-/

set_option autoImplicit false

namespace FeedIngest.Delivery

structure Ring where
  capacity : Nat
  published : Nat
  kept : List Job
deriving DecidableEq, Repr

namespace Ring

/-- A ring for at least that many jobs; it keeps a power of two. -/
def empty (capacity : Nat) : Ring := ⟨(max capacity 1).nextPowerOfTwo, 0, []⟩

/-- Publishes a job; the oldest one makes room for it. -/
def publish (r : Ring) (job : Job) : Ring :=
  let kept := r.kept ++ [job]
  { r with published := r.published + 1, kept := kept.drop (kept.length - r.capacity) }

def oldest (r : Ring) : Nat := r.published - r.kept.length

def read? (r : Ring) (place : Nat) : Option (Job × Nat) :=
  let place := max place r.oldest
  (r.kept[place - r.oldest]?).map fun job => (job, place + 1)

end Ring

end FeedIngest.Delivery
