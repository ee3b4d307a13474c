import FeedIngest.Catalog.Archive
import FeedIngest.Proofs.Json.Document
import FeedIngest.Proofs.Time.Rfc3339

/-!
# Reading stored tables

A table of feeds or of articles is read back from its stored form, if its numbers fit words of 64
bits, and so is a snapshot of either table of a store. The stored form of an article may lack what
checks leave behind.
-/

set_option autoImplicit false

namespace FeedIngest

def FitsWord (n : Int) : Prop := -9223372036854775808 ≤ n ∧ n ≤ 9223372036854775807

instance (n : Int) : Decidable (FitsWord n) := inferInstanceAs (Decidable (_ ∧ _))

namespace Json

theorem int64?_ofInt {n : Int} (fits : FitsWord n) : int64? (.ofInt n) = some n := by
  have value := JsonNumber.int?_ofInt n
  simp [int64?, intWithin?, ofInt, value, fits.1, fits.2]

theorem text?_string (text : String) : text? (.string text) = some text := rfl

private theorem bool?_bool (b : Bool) : bool? (.bool b) = some b := rfl

theorem orNull?_ofText? (text : Option String) :
    Record.orNull? text? (ofText? text) = some text := by
  cases text <;> rfl

theorem ofText?_plain (text : Option String) : (ofText? text).Plain := by
  cases text with
  | none => exact .null
  | some text => exact .string

def without (omitted : List String) : Json → Json
  | .object members => .object (members.filter (·.1 ∉ omitted))
  | json => json

private theorem without_nil (json : Json) : json.without [] = json := by
  cases json <;> simp [without]

theorem without_plain {json : Json} (plain : json.Plain) (omitted : List String) :
    (json.without omitted).Plain := by
  cases plain with
  | object plain => exact .object fun member kept => plain member (List.mem_filter.mp kept).1
  | null => exact .null
  | bool => exact .bool
  | int => exact .int
  | string => exact .string
  | array plain => exact .array plain

end Json

namespace Record

variable {names omitted : List String} {members : List (String × Json)}

theorem of?_object (nodup : (members.map (·.1)).Nodup) :
    of? names (.object members) = some ⟨true, members⟩ := by
  refine if_pos fun name _ => ?_
  rw [← List.countP_eq_length_filter]
  have once := List.nodup_iff_count.mp nodup name
  rwa [List.count_eq_countP, List.countP_map] at once

theorem get?_of_mem (nodup : (members.map (·.1)).Nodup) {name : String} {json : Json}
    (member : (name, json) ∈ members) : (⟨true, members⟩ : Record).get? name = some json := by
  induction members with
  | nil => cases member
  | cons first rest ih =>
    obtain ⟨new, nodup⟩ := List.nodup_cons.mp nodup
    rcases List.mem_cons.mp member with rfl | member
    · simp [get?]
    · have differs : (name == first.1) = false := by
        refine beq_eq_false_iff_ne.mpr fun same => new ?_
        exact List.mem_map.mpr ⟨_, member, same⟩
      rw [get?, List.lookup_cons, differs]
      exact ih nodup member

/-- The record of an object has its members by their places. -/
theorem exists_of_object (names : List String) (nodup : (members.map (·.1)).Nodup) :
    ∃ r : Record, of? names (.object members) = some r ∧
      ∀ (i : Nat) (name : String) (json : Json), members[i]? = some (name, json) →
        r.get? name = some json :=
  ⟨_, of?_object nodup, fun _ _ _ here => get?_of_mem nodup (List.mem_of_getElem? here)⟩

private theorem get?_filter_of_mem {name : String} (member : name ∈ omitted) :
    (⟨true, members.filter (·.1 ∉ omitted)⟩ : Record).get? name = none := by
  refine List.lookup_eq_none_iff.mpr fun pair kept => ?_
  have apart : pair.1 ∉ omitted := of_decide_eq_true (List.mem_filter.mp kept).2
  exact bne_iff_ne.mpr fun same => apart (same ▸ member)

/-- The record of an object without some members has the others by their places. -/
theorem exists_of_without (names : List String) (nodup : (members.map (·.1)).Nodup)
    (omitted : List String) :
    ∃ r : Record, of? names (Json.without omitted (.object members)) = some r ∧
      (∀ (i : Nat) (name : String) (json : Json), members[i]? = some (name, json) →
        name ∉ omitted → r.get? name = some json) ∧
      ∀ name ∈ omitted, r.get? name = none := by
  have nodup : ((members.filter (·.1 ∉ omitted)).map (·.1)).Nodup :=
    (List.filter_sublist.map _).nodup nodup
  refine ⟨_, of?_object nodup, ?_, fun name member => get?_filter_of_mem member⟩
  intro i name json here stays
  refine get?_of_mem nodup (List.mem_filter.mpr ⟨List.mem_of_getElem? here, ?_⟩)
  exact decide_eq_true stays

section Fields

variable {α β : Type} {r : Record} {name : String} {json : Json} {decode : Json → Option α}

/-! What is made of a field that is given. -/

theorem required?_bind (found : r.get? name = some json) {value : α}
    (reads : decode json = some value) (rest : α → Option β) :
    r.required? name decode >>= rest = rest value := by
  rw [required?, found, Option.bind_some, reads, Option.bind_eq_bind, Option.bind_some]

theorem optional?_bind (found : r.get? name = some json) {value : Option α}
    (reads : orNull? decode json = some value) (rest : Option α → Option β) :
    r.optional? name decode >>= rest = rest value := by
  simp only [optional?, found, reads, Option.bind_eq_bind, Option.bind_some]

private theorem withDefault?_bind (found : r.get? name = some json) {default value : α}
    (reads : decode json = some value) (rest : α → Option β) :
    r.withDefault? name default decode >>= rest = rest value := by
  simp only [withDefault?, found, reads, Option.bind_eq_bind, Option.bind_some]

/-- A field that may be left out is none then. -/
theorem withDefault?_bind_of_optional {decode : Json → Option (Option α)} {value : Option α}
    (given : name ∉ omitted → r.get? name = some json)
    (missing : name ∈ omitted → r.get? name = none)
    (reads : decode json = some value) (rest : Option α → Option β) :
    r.withDefault? name none decode >>= rest = rest (if name ∈ omitted then none else value) := by
  by_cases out : name ∈ omitted
  · rw [withDefault?, missing out, if_pos out]
    rfl
  · rw [if_neg out]
    exact withDefault?_bind (given out) reads rest

end Fields

end Record

namespace Catalog

open Time (Timestamp)

theorem decodeTime?_encodeTime (t : Timestamp) : decodeTime? (encodeTime t) = some t := by
  rw [decodeTime?, encodeTime, Json.text?, Option.bind_some]
  exact Time.Rfc3339.parseRelaxed?_render t

private theorem orNull?_encodeTime (t : Option Timestamp) :
    Record.orNull? decodeTime? ((t.map encodeTime).getD .null) = some t := by
  cases t with
  | none => rfl
  | some t =>
    have given : Record.orNull? decodeTime? (encodeTime t) =
        (decodeTime? (encodeTime t)).map some := rfl
    rw [Option.map_some, Option.getD_some, given, decodeTime?_encodeTime, Option.map_some]

private theorem encodeTime_plain (t : Timestamp) : (encodeTime t).Plain := .string

namespace Feed

theorem encode_plain (f : Feed) : f.encode.Plain := by
  refine .object ?_
  simp only [List.forall_mem_cons]
  exact ⟨.int, .string, .string, Json.ofText?_plain _, Json.ofText?_plain _, Json.ofText?_plain _,
    .string, .string, fun _ member => nomatch member⟩

/-- The stored form, given that of its number and its times. These are read back on their own, so
that reading the record never opens how they are written. -/
def members (f : Feed) (id createdAt updatedAt : Json) : List (String × Json) :=
  [("id", id), ("url", .string f.url), ("title", .string f.title),
    ("description", .ofText? f.description), ("etag", .ofText? f.etag),
    ("last_modified", .ofText? f.lastModified), ("created_at", createdAt),
    ("updated_at", updatedAt)]

private theorem decode?_members {f : Feed} {id createdAt updatedAt : Json}
    (readsId : id.int64? = some f.id) (readsCreatedAt : decodeTime? createdAt = some f.createdAt)
    (readsUpdatedAt : decodeTime? updatedAt = some f.updatedAt) :
    decode? (.object (f.members id createdAt updatedAt)) = some f := by
  have nodup : fieldNames.Nodup := by decide
  have record := @Record.exists_of_object (f.members id createdAt updatedAt) fieldNames nodup
  obtain ⟨r, given, field⟩ := record
  rw [decode?, given, Option.bind_eq_bind, Option.bind_some,
    Record.required?_bind (field 0 _ _ rfl) readsId,
    Record.required?_bind (field 1 _ _ rfl) (Json.text?_string _),
    Record.required?_bind (field 2 _ _ rfl) (Json.text?_string _),
    Record.optional?_bind (field 3 _ _ rfl) (Json.orNull?_ofText? _),
    Record.optional?_bind (field 4 _ _ rfl) (Json.orNull?_ofText? _),
    Record.optional?_bind (field 5 _ _ rfl) (Json.orNull?_ofText? _),
    Record.required?_bind (field 6 _ _ rfl) readsCreatedAt,
    Record.required?_bind (field 7 _ _ rfl) readsUpdatedAt]

/-- A feed is read back from its stored form. -/
theorem decode?_encode {f : Feed} (id : FitsWord f.id) : decode? f.encode = some f :=
  decode?_members (Json.int64?_ofInt id) (decodeTime?_encodeTime _) (decodeTime?_encodeTime _)

end Feed

namespace Article

theorem encode_plain (a : Article) : a.encode.Plain := by
  refine .object ?_
  have checked : ((a.lastCheckedAt.map encodeTime).getD .null).Plain := by
    cases a.lastCheckedAt with
    | none => exact .null
    | some t => exact encodeTime_plain t
  simp only [List.forall_mem_cons]
  exact ⟨.int, .int, .string, .string, Json.ofText?_plain _, Json.ofText?_plain _, .string, .string,
    .string, .bool, .bool, Json.ofText?_plain _, Json.ofText?_plain _, checked,
    fun _ member => nomatch member⟩

/-- The stored form, given that of its numbers and its times. -/
def members (a : Article) (id feedId publishedAt createdAt updatedAt checkedAt : Json) :
    List (String × Json) :=
  [("id", id), ("feed_id", feedId), ("title", .string a.title), ("url", .string a.url),
    ("description", .ofText? a.description), ("content", .ofText? a.content),
    ("published_at", publishedAt), ("created_at", createdAt), ("updated_at", updatedAt),
    ("read", .bool a.read), ("starred", .bool a.starred), ("etag", .ofText? a.etag),
    ("last_modified", .ofText? a.lastModified), ("last_checked_at", checkedAt)]

def checkNames : List String := ["etag", "last_modified", "last_checked_at"]

/-- The article of a stored form that lacks the members of these names. -/
def forgetting (omitted : List String) (a : Article) : Article :=
  { a with
    etag := if "etag" ∈ omitted then none else a.etag
    lastModified := if "last_modified" ∈ omitted then none else a.lastModified
    lastCheckedAt := if "last_checked_at" ∈ omitted then none else a.lastCheckedAt }

private theorem decode?_members_without {a : Article} {omitted : List String}
    {id feedId publishedAt createdAt updatedAt checkedAt : Json} (later : omitted ⊆ checkNames)
    (readsId : id.int64? = some a.id) (readsFeedId : feedId.int64? = some a.feedId)
    (readsPublishedAt : decodeTime? publishedAt = some a.publishedAt)
    (readsCreatedAt : decodeTime? createdAt = some a.createdAt)
    (readsUpdatedAt : decodeTime? updatedAt = some a.updatedAt)
    (readsCheckedAt : Record.orNull? decodeTime? checkedAt = some a.lastCheckedAt) :
    decode? (Json.without omitted
        (.object (a.members id feedId publishedAt createdAt updatedAt checkedAt))) =
      some (a.forgetting omitted) := by
  have nodup : fieldNames.Nodup := by decide
  have record := @Record.exists_of_without
    (a.members id feedId publishedAt createdAt updatedAt checkedAt) fieldNames nodup omitted
  obtain ⟨r, given, field, missing⟩ := record
  have stays : ∀ {name : String}, name ∉ checkNames → name ∉ omitted :=
    fun apart out => apart (later out)
  rw [decode?, given, Option.bind_eq_bind, Option.bind_some,
    Record.required?_bind (field 0 _ _ rfl (stays (by decide))) readsId,
    Record.required?_bind (field 1 _ _ rfl (stays (by decide))) readsFeedId,
    Record.required?_bind (field 2 _ _ rfl (stays (by decide))) (Json.text?_string _),
    Record.required?_bind (field 3 _ _ rfl (stays (by decide))) (Json.text?_string _),
    Record.optional?_bind (field 4 _ _ rfl (stays (by decide))) (Json.orNull?_ofText? _),
    Record.optional?_bind (field 5 _ _ rfl (stays (by decide))) (Json.orNull?_ofText? _),
    Record.required?_bind (field 6 _ _ rfl (stays (by decide))) readsPublishedAt,
    Record.required?_bind (field 7 _ _ rfl (stays (by decide))) readsCreatedAt,
    Record.required?_bind (field 8 _ _ rfl (stays (by decide))) readsUpdatedAt,
    Record.required?_bind (field 9 _ _ rfl (stays (by decide))) (Json.bool?_bool _),
    Record.required?_bind (field 10 _ _ rfl (stays (by decide))) (Json.bool?_bool _),
    Record.withDefault?_bind_of_optional (field 11 _ _ rfl) (missing _) (Json.orNull?_ofText? _),
    Record.withDefault?_bind_of_optional (field 12 _ _ rfl) (missing _) (Json.orNull?_ofText? _),
    Record.withDefault?_bind_of_optional (field 13 _ _ rfl) (missing _) readsCheckedAt]
  rfl

theorem decode?_without {a : Article} {omitted : List String} (later : omitted ⊆ checkNames)
    (id : FitsWord a.id) (feedId : FitsWord a.feedId) :
    decode? (a.encode.without omitted) = some (a.forgetting omitted) :=
  decode?_members_without later (Json.int64?_ofInt id) (Json.int64?_ofInt feedId)
    (decodeTime?_encodeTime _) (decodeTime?_encodeTime _) (decodeTime?_encodeTime _)
    (orNull?_encodeTime _)

private theorem forgetting_nil (a : Article) : a.forgetting [] = a := by simp [forgetting]

/-- An article is read back from its stored form. -/
theorem decode?_encode {a : Article} (id : FitsWord a.id) (feedId : FitsWord a.feedId) :
    decode? a.encode = some a := by
  have whole := decode?_without (List.nil_subset checkNames) id feedId
  rwa [Json.without_nil, forgetting_nil] at whole

end Article

namespace Table

variable {α : Type} {rowsName : String} {row : α → Json} {row? : Json → Option α} {t : Table α}

private theorem encode_plain (plain : ∀ entry ∈ t.rows, (row entry).Plain) :
    (t.encode rowsName row).Plain := by
  refine .object ?_
  simp only [List.forall_mem_cons]
  refine ⟨.int, .array ?_, fun _ member => nomatch member⟩
  intro item member
  obtain ⟨entry, among, rfl⟩ := List.mem_map.mp member
  exact plain entry among

private theorem mapM_encode {rows : List α}
    (reads : ∀ entry ∈ rows, row? (row entry) = some entry) :
    (rows.map row).mapM row? = some rows := by
  induction rows with
  | nil => rfl
  | cons entry rest ih =>
    obtain ⟨first, others⟩ := List.forall_mem_cons.mp reads
    rw [List.map_cons, List.mapM_cons, first, ih others]
    rfl

private theorem list?_encode {rows : List α}
    (reads : ∀ entry ∈ rows, row? (row entry) = some entry) :
    Json.list? row? (.array (rows.map row)) = some rows := by
  rw [Json.list?, mapM_encode reads]

private theorem decode?_encode (named : rowsName ≠ "next_id") (lastId : FitsWord t.lastId)
    (reads : ∀ entry ∈ t.rows, row? (row entry) = some entry) :
    decode? rowsName row? (t.encode rowsName row) = some t := by
  have nodup : ["next_id", rowsName].Nodup := by simpa using named.symm
  have record := @Record.exists_of_object
    [("next_id", .ofInt t.lastId), (rowsName, .array (t.rows.map row))] ["next_id", rowsName] nodup
  obtain ⟨r, given, field⟩ := record
  rw [decode?, encode, given, Option.bind_eq_bind, Option.bind_some,
    Record.required?_bind (field 0 _ _ rfl) (Json.int64?_ofInt lastId),
    Record.required?_bind (field 1 _ _ rfl) (list?_encode reads)]

/-- A table is read back from the text that it is written as. -/
theorem ofBytes?_renderPretty (named : rowsName ≠ "next_id") (lastId : FitsWord t.lastId)
    (plain : ∀ entry ∈ t.rows, (row entry).Plain)
    (reads : ∀ entry ∈ t.rows, row? (row entry) = some entry) :
    ofBytes? rowsName row? (t.encode rowsName row).renderPretty.toUTF8.toList = some t := by
  rw [ofBytes?, Json.parse?_renderPretty (encode_plain plain), Option.bind_some,
    decode?_encode named lastId reads]

end Table

structure Store.Fits (s : Store) : Prop where
  lastFeedId : FitsWord s.lastFeedId
  lastArticleId : FitsWord s.lastArticleId
  feeds : ∀ feed ∈ s.feeds.values, FitsWord feed.id
  articles : ∀ article ∈ s.articles.values, FitsWord article.id ∧ FitsWord article.feedId

theorem Store.empty_fits : Store.empty.Fits where
  lastFeedId := by decide
  lastArticleId := by decide
  feeds _ member := by cases member
  articles _ member := by cases member

namespace Archive

variable {s : Store}

/-- The feeds are read back from a snapshot of them. -/
theorem feedsOfBytes?_snapshot (fits : s.Fits) :
    feedsOfBytes? (snapshot s .feeds) = some s.feedTable := by
  refine Table.ofBytes?_renderPretty (by decide) fits.lastFeedId ?_ ?_
  · exact fun feed _ => feed.encode_plain
  · exact fun feed member => Feed.decode?_encode (fits.feeds feed member)

/-- The articles are read back from a snapshot of them. -/
theorem articlesOfBytes?_snapshot (fits : s.Fits) :
    articlesOfBytes? (snapshot s .articles) = some s.articleTable := by
  refine Table.ofBytes?_renderPretty (by decide) fits.lastArticleId ?_ ?_
  · exact fun article _ => article.encode_plain
  · intro article member
    obtain ⟨id, feedId⟩ := fits.articles article member
    exact Article.decode?_encode id feedId

end Archive

end Catalog

end FeedIngest
