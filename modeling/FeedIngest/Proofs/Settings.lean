import FeedIngest.Proofs.Json.Spelling
import FeedIngest.Proofs.Catalog.Codec
import FeedIngest.Settings

/-!
# Settings files

A settings file lays what it chooses over the defaults: its known members may come in any order, and
among them any others, whose values do not matter. Whatever is in a file, the settings that come of
it are in range.
-/

set_option autoImplicit false

namespace FeedIngest

def Backend.name : Backend → String
  | .local => "local"
  | .broker => "broker"

namespace Settings

open Decimal (Binary64)

inductive Whole where
  | workerCount
  | queueCapacity
  | requestTimeoutMs
  | maxAttempts
  | backoffInitialMs
  | backoffMaxMs
  | maxContentBytes
  | robotsCacheTtlSecs
  | drainGraceSecs
  | maxRedeliveries
  | pollIntervalSecs
deriving DecidableEq, Repr

namespace Whole

def name : Whole → String
  | workerCount => "worker_count"
  | queueCapacity => "queue_capacity"
  | requestTimeoutMs => "request_timeout_ms"
  | maxAttempts => "max_attempts"
  | backoffInitialMs => "backoff_initial_ms"
  | backoffMaxMs => "backoff_max_ms"
  | maxContentBytes => "max_content_bytes"
  | robotsCacheTtlSecs => "robots_cache_ttl_secs"
  | drainGraceSecs => "drain_grace_secs"
  | maxRedeliveries => "max_redeliveries"
  | pollIntervalSecs => "poll_interval_secs"

def limit : Whole → Nat
  | maxAttempts | maxRedeliveries => halfWordLimit
  | _ => wordLimit

def put : Whole → Nat → Settings → Settings
  | workerCount, value, s => { s with workerCount := value }
  | queueCapacity, value, s => { s with queueCapacity := value }
  | requestTimeoutMs, value, s => { s with requestTimeoutMs := value }
  | maxAttempts, value, s => { s with maxAttempts := value }
  | backoffInitialMs, value, s => { s with backoffInitialMs := value }
  | backoffMaxMs, value, s => { s with backoffMaxMs := value }
  | maxContentBytes, value, s => { s with maxContentBytes := value }
  | robotsCacheTtlSecs, value, s => { s with robotsCacheTtlSecs := value }
  | drainGraceSecs, value, s => { s with drainGraceSecs := value }
  | maxRedeliveries, value, s => { s with maxRedeliveries := value }
  | pollIntervalSecs, value, s => { s with pollIntervalSecs := value }

end Whole

inductive Choice where
  | whole (setting : Whole) (value : Nat)
  | jitter (value : Binary64)
  | respectRobots (value : Bool)
  | checkUpdates (value : Bool)
  | userAgent (value : String)
  | backend (value : Backend)

namespace Choice

def name : Choice → String
  | whole setting _ => setting.name
  | jitter _ => "jitter"
  | respectRobots _ => "respect_robots"
  | checkUpdates _ => "check_updates"
  | userAgent _ => "user_agent"
  | backend _ => "backend"

/-- A choice is given as a value of its type that is in range. -/
inductive GivenAs : Choice → Json → Prop where
  | whole {setting : Whole} {value : Nat} (fits : value ≤ setting.limit) :
      GivenAs (.whole setting value) (.ofInt value)
  | jitter {n : JsonNumber} {value : Binary64} (reads : n.binary? = some value) :
      GivenAs (.jitter value) (.number n)
  | respectRobots {value : Bool} : GivenAs (.respectRobots value) (.bool value)
  | checkUpdates {value : Bool} : GivenAs (.checkUpdates value) (.bool value)
  | userAgent {value : String} : GivenAs (.userAgent value) (.string value)
  | backend {value : Backend} : GivenAs (.backend value) (.string value.name)
  | backendObject {value : Backend} : GivenAs (.backend value) (.object [(value.name, .null)])

end Choice

def choose (s : Settings) : Choice → Settings
  | .whole setting value => setting.put value s
  | .jitter value => { s with jitter := value }
  | .respectRobots value => { s with respectRobots := value }
  | .checkUpdates value => { s with checkUpdates := value }
  | .userAgent value => { s with userAgent := value }
  | .backend value => { s with backend := value }

/-- What the members of an object choose, in their order. No setting is chosen twice, and members of
other names choose nothing. -/
inductive Chooses : List (String × Json) → List Choice → Prop where
  | nil : Chooses [] []
  | known {choice : Choice} {json : Json} {members : List (String × Json)} {choices : List Choice}
      (given : choice.GivenAs json) (new : choice.name ∉ members.map (·.1))
      (others : Chooses members choices) :
      Chooses ((choice.name, json) :: members) (choice :: choices)
  | foreign {name : String} {json : Json} {members : List (String × Json)} {choices : List Choice}
      (unknown : name ∉ fieldNames) (others : Chooses members choices) :
      Chooses ((name, json) :: members) choices

/-- The settings are such that the ingest does not stall. -/
structure InRange (s : Settings) : Prop where
  workers : 1 ≤ s.workerCount
  queue : 1 ≤ s.queueCapacity
  attempts : 1 ≤ s.maxAttempts
  backoff : s.backoffInitialMs ≤ s.backoffMaxMs
  jitter : s.jitter.InUnit

/-! ## Members of an object -/

section Fields

variable {α : Type} {name other : String} {json : Json} {members : List (String × Json)}
  {default : α} {decode : Json → Option α}

@[simp]
theorem withDefault?_head :
    (⟨true, (name, json) :: members⟩ : Record).withDefault? name default decode = decode json := by
  simp [Record.withDefault?, Record.get?]

@[simp]
theorem withDefault?_tail (differs : name ≠ other) :
    (⟨true, (other, json) :: members⟩ : Record).withDefault? name default decode =
      (⟨true, members⟩ : Record).withDefault? name default decode := by
  have no : (name == other) = false := beq_eq_false_iff_ne.mpr differs
  simp only [Record.withDefault?, Record.get?, List.lookup_cons, no]

private theorem withDefault?_absent (default : α) (decode : Json → Option α)
    (absent : name ∉ members.map (·.1)) :
    (⟨true, members⟩ : Record).withDefault? name default decode = some default := by
  have nowhere : members.lookup name = none := by
    rw [List.lookup_eq_none_iff]
    intro pair member
    exact bne_iff_ne.mpr fun same => absent (List.mem_map.mpr ⟨pair, member, same.symm⟩)
  simp only [Record.withDefault?, Record.get?, nowhere]

end Fields

variable {name : String} {json : Json} {choice : Choice} {members : List (String × Json)}
  {choices : List Choice}

private theorem natUpTo?_ofInt {limit value : Nat} (fits : value ≤ limit) :
    Json.natUpTo? limit (.ofInt value) = some value := by
  have read := JsonNumber.int?_ofInt value
  simp [Json.natUpTo?, Json.intWithin?, Json.ofInt, read, fits]

private theorem overlay?_foreign (base : Settings) (unknown : name ∉ fieldNames) :
    overlay? base ⟨true, (name, json) :: members⟩ = overlay? base ⟨true, members⟩ := by
  have same : ∀ known ∈ fieldNames, ∀ (α : Type) (default : α) (decode : Json → Option α),
      (⟨true, (name, json) :: members⟩ : Record).withDefault? known default decode =
        (⟨true, members⟩ : Record).withDefault? known default decode := by
    intro known member α default decode
    exact withDefault?_tail (ne_of_mem_of_not_mem member unknown)
  simp only [fieldNames, List.forall_mem_cons] at same
  simp only [overlay?, same]

/-- A known member comes to the same as another default, if the others leave that one alone. -/
theorem overlay?_known (base : Settings) (given : choice.GivenAs json)
    (new : choice.name ∉ members.map (·.1)) :
    overlay? base ⟨true, (choice.name, json) :: members⟩ =
      overlay? (base.choose choice) ⟨true, members⟩ := by
  have absent {α : Type} (default : α) (decode : Json → Option α) :=
    withDefault?_absent default decode new
  cases given
  case whole setting value fits =>
    have read := natUpTo?_ofInt fits
    cases setting
    all_goals
      simp only [Choice.name, Whole.name, Whole.limit] at absent read
      simp only [Choice.name, Whole.name, choose, Whole.put, overlay?, withDefault?_head,
        withDefault?_tail, ne_eq, String.reduceEq, not_false_eq_true, absent, read]
  case' jitter n value reads => have read : Json.binary? (.number n) = some value := reads
  case' respectRobots value => have read : Json.bool? (.bool value) = some value := rfl
  case' checkUpdates value => have read : Json.bool? (.bool value) = some value := rfl
  case' userAgent value => have read : Json.text? (.string value) = some value := rfl
  case' backend value =>
    have read : Backend.decode? (.string value.name) = some value := by cases value <;> rfl
  case' backendObject value =>
    have read : Backend.decode? (.object [(value.name, .null)]) = some value := by
      cases value <;> rfl
  all_goals
    rw [Choice.name] at absent
    simp only [Choice.name, choose, overlay?, withDefault?_head, withDefault?_tail, ne_eq,
      String.reduceEq, not_false_eq_true, absent, read]

private theorem overlay?_of_chooses (base : Settings) (chooses : Chooses members choices) :
    overlay? base ⟨true, members⟩ = some (choices.foldl choose base) := by
  induction chooses generalizing base with
  | nil => rfl
  | known given new _ ih => rw [overlay?_known base given new, ih, List.foldl_cons]
  | foreign unknown _ ih => rw [overlay?_foreign base unknown, ih]

private theorem distinctIn_of_chooses (chooses : Chooses members choices) :
    Record.DistinctIn fieldNames members := by
  induction chooses with
  | nil => exact fun _ _ => Nat.zero_le 1
  | @known choice json members choices _ new _ ih =>
    intro name known
    by_cases same : choice.name = name
    · subst same
      have absent : members.filter (·.1 == choice.name) = [] := by
        apply List.filter_eq_nil_iff.mpr
        intro pair member same
        exact new (List.mem_map.mpr ⟨pair, member, eq_of_beq same⟩)
      simp [absent]
    · simpa [same] using ih name known
  | @foreign other json members choices unknown _ ih =>
    intro name known
    have differs : other ≠ name := fun same => unknown (same ▸ known)
    simpa [differs] using ih name known

private theorem decode?_of_chooses (chooses : Chooses members choices) :
    decode? (.object members) = some (choices.foldl choose defaults) := by
  have record : Record.of? fieldNames (.object members) = some ⟨true, members⟩ :=
    if_pos (distinctIn_of_chooses chooses)
  rw [decode?, record, Option.bind_some, overlay?_of_chooses defaults chooses]

/-! ## The range -/

private theorem zero_inUnit : (Binary64.zero false).InUnit :=
  ⟨by decide, by decide, by decide +kernel⟩

private theorem one_inUnit : Binary64.one.InUnit :=
  ⟨by decide, by decide, by decide +kernel⟩

private theorem clampUnit_inUnit (x : Binary64) : x.clampUnit.InUnit := by
  unfold Binary64.clampUnit
  split
  · exact zero_inUnit
  · next finite =>
    split
    · exact zero_inUnit
    · next noLess =>
      split
      · exact one_inUnit
      · next noGreater => exact ⟨by simpa using finite, by simpa using noLess,
          by simpa using noGreater⟩

private theorem clampUnit_of_inUnit {x : Binary64} (inUnit : x.InUnit) : x.clampUnit = x := by
  obtain ⟨finite, noLess, noGreater⟩ := inUnit
  simp [Binary64.clampUnit, finite, noLess, noGreater]

private theorem sanitized_inRange (s : Settings) : s.sanitized.InRange where
  workers := Nat.le_max_right _ _
  queue := Nat.le_max_right _ _
  attempts := Nat.le_max_right _ _
  backoff := Nat.le_max_right _ _
  jitter := clampUnit_inUnit s.jitter

private theorem sanitized_of_inRange {s : Settings} (inRange : s.InRange) : s.sanitized = s := by
  obtain ⟨workers, queue, attempts, backoff, jitter⟩ := inRange
  rw [sanitized, Nat.max_eq_left workers, Nat.max_eq_left queue, Nat.max_eq_left attempts,
    Nat.max_eq_left backoff, clampUnit_of_inUnit jitter]

private theorem defaults_inRange : defaults.InRange where
  workers := by decide
  queue := by decide
  attempts := by decide
  backoff := by decide
  jitter := ⟨by decide +kernel, by decide +kernel, by decide +kernel⟩

private theorem ofFile_inRange (contents : Option (List UInt8)) : (ofFile contents).InRange := by
  unfold ofFile
  split
  · exact sanitized_inRange _
  · exact defaults_inRange

/-! ## Files -/

private theorem ofFile_of_chooses {text : List Char} (chooses : Chooses members choices)
    (spells : Json.Spells (.object members) text) (before after : Json.Gap) :
    ofFile (some (Text.Utf8.encode (before.chars ++ (text ++ after.chars)))) =
      (choices.foldl choose defaults).sanitized := by
  have parsed : Json.parse? (Text.Utf8.encode (before.chars ++ (text ++ after.chars))) =
      some (.object members) := by
    rw [Json.parse?, Text.Utf8.scan_encode]
    exact Json.Reader.document?_of_spells spells before after
  rw [ofFile, Option.bind_some, parsed, Option.bind_some, decode?_of_chooses chooses]

/-- A file that makes choices replaces just what it chooses, and brings that into range. Whatever
the contents of a file, what comes of it is in range. -/
theorem ofFile_overlay :
    (∀ (members : List (String × Json)) (choices : List Choice) (text : List Char)
        (before after : Json.Gap),
      Chooses members choices → Json.Spells (.object members) text →
        ofFile (some (Text.Utf8.encode (before.chars ++ (text ++ after.chars)))) =
          (choices.foldl choose defaults).sanitized) ∧
    ∀ contents, (ofFile contents).InRange ∧ (ofFile contents).sanitized = ofFile contents := by
  constructor
  · intro members choices text before after chooses spells
    exact ofFile_of_chooses chooses spells before after
  · intro contents
    exact ⟨ofFile_inRange contents, sanitized_of_inRange (ofFile_inRange contents)⟩

section Example

open Json

private def space : Gap := ⟨[' '], List.forall_mem_singleton.mpr (by decide)⟩

private def line : Gap := ⟨['\n'], List.forall_mem_singleton.mpr (by decide)⟩

private def half : Slot := ⟨.none, .brokenString, "\"\\ud800\"".toList, .none⟩

/-- A jitter above one, a member that is no setting, and a count of workers that would stall. -/
private def smallFile : List Entry :=
  [⟨.none, "jitter", "jitter".toList, .none, ⟨.none, .ofInt 2, Writer.number (.ofInt 2), .none⟩⟩,
    ⟨space, "note", "note".toList, .none,
      ⟨.none, .array [half.json], '[' :: enclosed ']' [half.written], .none⟩⟩,
    ⟨line, "worker_count", "worker_count".toList, space,
      ⟨space, .ofInt 0, Writer.number (.ofInt 0), .none⟩⟩]

private theorem smallFile_chooses :
    Chooses (smallFile.map (·.member)) [.jitter (.ofNat 2), .whole .workerCount 0] := by
  have two : (JsonNumber.ofInt 2).binary? = some (.ofNat 2) := by decide +kernel
  apply @Chooses.known (.jitter (.ofNat 2)) (.ofInt 2) _ _ (.jitter two) (by decide)
  apply Chooses.foreign (by decide)
  exact @Chooses.known (.whole .workerCount 0) (.ofInt 0) _ _ (.whole (Nat.zero_le _)) (by decide) .nil

private theorem half_broken : SpellsBroken "\\ud800".toList := by
  refine ⟨[.unit 0xD800], ?_, ?_⟩
  · exact .cons (@SpellsPiece.unit 'd' '8' '0' '0' 13 8 0 0 rfl rfl rfl rfl) .nil
  · intro cs denotes
    cases denotes with
    | unit whole _ => revert whole; decide

private theorem smallFile_spells : Spells (.object (smallFile.map (·.member)))
    ('\x7b' :: enclosed '\x7d' (smallFile.map (·.written))) := by
  apply Spells.members
  · intro entry member
    have names : ∀ e ∈ smallFile, e.nameText = e.name.toList.flatMap Writer.escape := by decide
    rw [names entry member]
    exact spellsString_escape entry.name
  · have number : ∀ n, Spells (.ofInt n) (Writer.number (.ofInt n)) :=
      fun n => .number (spellsNumber_ofInt n)
    have note : Spells (.array [half.json]) ('[' :: enclosed ']' [half.written]) := by
      apply Spells.items [half]
      simpa [half] using Spells.broken half_broken
    simp [smallFile, number, note]

theorem ofFile_overlay_small :
    Chooses (smallFile.map (·.member)) [.jitter (.ofNat 2), .whole .workerCount 0] ∧
      Spells (.object (smallFile.map (·.member)))
        ('\x7b' :: enclosed '\x7d' (smallFile.map (·.written))) ∧
      ofFile (some (Text.Utf8.encode
        "\x7b\"jitter\":2, \"note\":[\"\\ud800\"],\n\"worker_count\" : 0\x7d\n".toList)) =
          { defaults with jitter := .one, workerCount := 1 } := by
  refine ⟨smallFile_chooses, smallFile_spells, ?_⟩
  have read := ofFile_overlay.1 _ _ _ .none line smallFile_chooses smallFile_spells
  have text :
      Gap.none.chars ++ ('\x7b' :: enclosed '\x7d' (smallFile.map (·.written)) ++ line.chars) =
      "\x7b\"jitter\":2, \"note\":[\"\\ud800\"],\n\"worker_count\" : 0\x7d\n".toList := by decide +kernel
  have settings : ([.jitter (.ofNat 2), .whole .workerCount 0].foldl choose defaults).sanitized =
      { defaults with jitter := .one, workerCount := 1 } := by decide +kernel
  rwa [text, settings] at read

end Example

end Settings

end FeedIngest
