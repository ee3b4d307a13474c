import FeedIngest.Backoff
import FeedIngest.Json.Reader
import FeedIngest.Json.Record

/-!
# Settings

What an operator may choose. A settings file is a JSON record; what it leaves out keeps its
default, and values that would stall the ingest are brought into range. A file that cannot be
read gives the defaults.
-/

set_option autoImplicit false

namespace FeedIngest

open Decimal (Binary64)
open Time (Span)

inductive Backend where
  | local
  | broker
deriving DecidableEq, Repr

structure Settings where
  workerCount : Nat
  queueCapacity : Nat
  requestTimeoutMs : Nat
  maxAttempts : Nat
  backoffInitialMs : Nat
  backoffMaxMs : Nat
  /-- The part of each delay that may be added or taken off at random. -/
  jitter : Binary64
  maxContentBytes : Nat
  robotsCacheTtlSecs : Nat
  respectRobots : Bool
  checkUpdates : Bool
  userAgent : String
  drainGraceSecs : Nat
  maxRedeliveries : Nat
  /-- Seconds between two fetches of every feed; zero for none. -/
  pollIntervalSecs : Nat
  backend : Backend
deriving DecidableEq, Repr

namespace Settings

def defaults : Settings where
  workerCount := 4
  queueCapacity := 64
  requestTimeoutMs := 10000
  maxAttempts := 3
  backoffInitialMs := 500
  backoffMaxMs := 30000
  jitter := Binary64.ofQuotient false 1 5
  maxContentBytes := 5242880
  robotsCacheTtlSecs := 3600
  respectRobots := true
  checkUpdates := false
  userAgent := "rss-pipeline/0.1.0"
  drainGraceSecs := 10
  maxRedeliveries := 5
  pollIntervalSecs := 1800
  backend := .local

def fieldNames : List String :=
  ["worker_count", "queue_capacity", "request_timeout_ms", "max_attempts", "backoff_initial_ms",
    "backoff_max_ms", "jitter", "max_content_bytes", "robots_cache_ttl_secs", "respect_robots",
    "check_updates", "user_agent", "drain_grace_secs", "max_redeliveries", "poll_interval_secs",
    "backend"]

def wordLimit : Nat := Nat.pow 2 64 - 1

def halfWordLimit : Nat := Nat.pow 2 32 - 1

def Backend.named? : String → Option Backend
  | "local" => some .local
  | "broker" => some .broker
  | _ => none

/-- A backend by its name, or as an object whose only member has that name and is null. -/
def Backend.decode? : Json → Option Backend
  | .string name => named? name
  | .object [(name, .null)] => named? name
  | _ => none

def overlay? (base : Settings) (r : Record) : Option Settings := do
  let word := Json.natUpTo? wordLimit
  let halfWord := Json.natUpTo? halfWordLimit
  some
    { workerCount := ← r.withDefault? "worker_count" base.workerCount word
      queueCapacity := ← r.withDefault? "queue_capacity" base.queueCapacity word
      requestTimeoutMs := ← r.withDefault? "request_timeout_ms" base.requestTimeoutMs word
      maxAttempts := ← r.withDefault? "max_attempts" base.maxAttempts halfWord
      backoffInitialMs := ← r.withDefault? "backoff_initial_ms" base.backoffInitialMs word
      backoffMaxMs := ← r.withDefault? "backoff_max_ms" base.backoffMaxMs word
      jitter := ← r.withDefault? "jitter" base.jitter Json.binary?
      maxContentBytes := ← r.withDefault? "max_content_bytes" base.maxContentBytes word
      robotsCacheTtlSecs := ← r.withDefault? "robots_cache_ttl_secs" base.robotsCacheTtlSecs word
      respectRobots := ← r.withDefault? "respect_robots" base.respectRobots Json.bool?
      checkUpdates := ← r.withDefault? "check_updates" base.checkUpdates Json.bool?
      userAgent := ← r.withDefault? "user_agent" base.userAgent Json.text?
      drainGraceSecs := ← r.withDefault? "drain_grace_secs" base.drainGraceSecs word
      maxRedeliveries := ← r.withDefault? "max_redeliveries" base.maxRedeliveries halfWord
      pollIntervalSecs := ← r.withDefault? "poll_interval_secs" base.pollIntervalSecs word
      backend := ← r.withDefault? "backend" base.backend Backend.decode? }

def decode? (json : Json) : Option Settings :=
  (Record.of? fieldNames json).bind (overlay? defaults)

def sanitized (s : Settings) : Settings :=
  { s with
    workerCount := max s.workerCount 1
    queueCapacity := max s.queueCapacity 1
    maxAttempts := max s.maxAttempts 1
    backoffMaxMs := max s.backoffMaxMs s.backoffInitialMs
    jitter := s.jitter.clampUnit }

/-- The settings of a file; `none` stands for a file that does not exist. -/
def ofFile (contents : Option (List UInt8)) : Settings :=
  match (contents.bind Json.parse?).bind decode? with
  | some settings => settings.sanitized
  | none => defaults

def requestTimeout (s : Settings) : Span := Span.ofMillis s.requestTimeoutMs

def robotsTtl (s : Settings) : Span := Span.ofSeconds s.robotsCacheTtlSecs

/-- How long running jobs may take to finish when a channel stops. -/
def drainGrace (s : Settings) : Span := Span.ofSeconds s.drainGraceSecs

/-- The time between two fetches of every feed, if there is an agenda. -/
def pollInterval? (s : Settings) : Option Span :=
  if 0 < s.pollIntervalSecs then some (Span.ofSeconds s.pollIntervalSecs) else none

def backoff (s : Settings) : Backoff where
  maxAttempts := s.maxAttempts
  initial := Span.ofMillis s.backoffInitialMs
  ceiling := Span.ofMillis s.backoffMaxMs
  jitter := s.jitter

end Settings

end FeedIngest
