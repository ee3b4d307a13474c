import FeedIngest.Catalog.Entry
import FeedIngest.Proofs.Text.Blank
import FeedIngest.Syndication.Document

/-!
# Feeds in normal form

Whatever way the texts of a document take, they are trimmed in the end and dropped if nothing is
left. So the link that an item has is the one under which its article is stored.
-/

set_option autoImplicit false

namespace FeedIngest.Syndication

open Catalog (ArticleKey Draft)
open Markup (Node)
open Text (Snug nonBlank?)
open Time (Timestamp)

/-! ## Texts -/

theorem trimmed_eq {s : String} (normal : Trimmed s) : Text.trimmed s = s := by
  rw [Text.trimmed, normal, String.ofList_toList]

theorem nonBlank?_of_trimmed {s : String} (normal : Trimmed s) (nonempty : s ≠ "") :
    nonBlank? s = some s := by
  have some : s.toList.isEmpty = false := by
    rw [List.isEmpty_eq_false_iff]
    exact fun empty => nonempty (String.toList_eq_nil_iff.mp empty)
  have core : Text.trim s.toList = s.toList := normal
  rw [nonBlank?, core, some, String.ofList_toList]
  rfl

theorem getD_nonBlank? {s : String} (normal : Trimmed s) : (nonBlank? s).getD "" = s := by
  by_cases empty : s = ""
  · subst empty
    rfl
  · rw [nonBlank?_of_trimmed normal empty]
    rfl

theorem bind_nonBlank? {text : Option String} (normal : TrimmedOrAbsent text) :
    text.bind nonBlank? = text := by
  cases text with
  | none => rfl
  | some s =>
    obtain ⟨trimmed, nonempty⟩ := normal s rfl
    exact nonBlank?_of_trimmed trimmed nonempty

/-- An optional text is absent, or it is not empty and neither begins nor ends with a blank. -/
def SnugOrAbsent (text : Option String) : Prop := ∀ t, text = some t → Snug t.toList ∧ t ≠ ""

theorem trimmed_iff_snug {s : String} : Trimmed s ↔ Snug s.toList := Text.trim_eq_self_iff

private theorem TrimmedOrAbsent.snug {text : Option String} (normal : TrimmedOrAbsent text) :
    SnugOrAbsent text := fun t given => (normal t given).imp_left trimmed_iff_snug.mp

theorem trimmed_trimmed (s : String) : Trimmed (Text.trimmed s) := by
  rw [Trimmed, Text.trimmed, String.toList_ofList, Text.trim_trim]

theorem trimmed_of_nonBlank? {s t : String} (given : nonBlank? s = some t) :
    Trimmed t ∧ t ≠ "" := by
  unfold nonBlank? at given
  dsimp only at given
  split at given
  · cases given
  · next visible =>
    cases given
    refine ⟨trimmed_trimmed s, fun empty => visible ?_⟩
    rw [String.ofList_eq_empty_iff.mp empty]
    rfl

private theorem trimmedOrAbsent_nonBlank? (s : String) : TrimmedOrAbsent (nonBlank? s) :=
  fun _ => trimmed_of_nonBlank?

theorem trimmedOrAbsent_bind (text : Option String) : TrimmedOrAbsent (text.bind nonBlank?) := by
  intro t given
  obtain ⟨_, _, given⟩ := Option.bind_eq_some_iff.mp given
  exact trimmed_of_nonBlank? given

/-! ## Both kinds of documents -/

private theorem Rss.RawItem.isNormal (item : Rss.RawItem) : item.normal.IsNormal :=
  ⟨trimmed_trimmed _, trimmedOrAbsent_bind _, trimmedOrAbsent_bind _, trimmedOrAbsent_bind _⟩

private theorem Rss.RawChannel.isNormal (channel : Rss.RawChannel) : channel.normal.IsNormal := by
  refine ⟨trimmed_trimmed _, trimmedOrAbsent_nonBlank? _, ?_⟩
  intro item member
  obtain ⟨raw, _, rfl⟩ := List.mem_map.mp member
  exact raw.isNormal

/-- The link of an entry is chosen before it is trimmed. -/
theorem Atom.RawEntry.isNormal (entry : Atom.RawEntry) : entry.normal.IsNormal := by
  refine ⟨trimmed_trimmed _, ?_, trimmedOrAbsent_bind _, trimmedOrAbsent_bind _⟩
  intro url given
  obtain ⟨_, _, given⟩ := Option.bind_eq_some_iff.mp given
  exact trimmed_of_nonBlank? given

private theorem Atom.RawFeed.isNormal (feed : Atom.RawFeed) : feed.normal.IsNormal := by
  refine ⟨trimmed_trimmed _, trimmedOrAbsent_bind _, ?_⟩
  intro item member
  obtain ⟨raw, _, rfl⟩ := List.mem_map.mp member
  exact raw.isNormal

private theorem Atom.RawFeed.isSome_publishedAt {feed : Atom.RawFeed} {item : FeedItem}
    (member : item ∈ feed.normal.items) : item.publishedAt.isSome = true := by
  obtain ⟨raw, _, rfl⟩ := List.mem_map.mp member
  rfl

/-- What is read is the normal form of an RSS channel, or of an Atom feed if there is none. -/
theorem FeedDocument.parse_cases {bytes : List UInt8} {doc : FeedDocument}
    (reads : FeedDocument.parse bytes = .ok doc) :
    (Rss.parse (Node.ofBytes bytes) = .ok doc ∧ ∃ channel : Rss.RawChannel, doc = channel.normal) ∨
      ∃ feed : Atom.RawFeed, doc = feed.normal := by
  unfold FeedDocument.parse at reads
  dsimp only at reads
  split at reads
  · next rss =>
    cases reads
    refine .inl ⟨rss, ?_⟩
    unfold Rss.parse at rss
    cases read : Rss.readNodes (Node.ofBytes bytes) with
    | error fault => rw [read] at rss; cases rss
    | ok channel => rw [read] at rss; cases rss; exact ⟨channel, rfl⟩
  · split at reads
    · next atom =>
      cases reads
      refine .inr ?_
      unfold Atom.parse at atom
      cases read : Atom.readNodes (Node.ofBytes bytes) with
      | error fault => rw [read] at atom; cases atom
      | ok feed => rw [read] at atom; cases atom; exact ⟨feed, rfl⟩
    · cases reads

private theorem FeedDocument.isNormal_of_parse {bytes : List UInt8} {doc : FeedDocument}
    (reads : FeedDocument.parse bytes = .ok doc) : doc.IsNormal := by
  rcases FeedDocument.parse_cases reads with ⟨_, channel, rfl⟩ | ⟨feed, rfl⟩
  · exact channel.isNormal
  · exact feed.isNormal

/-! ## Drafts -/

/-- The link of a normal item is taken as it is. -/
theorem FeedItem.IsNormal.keys {item : FeedItem} (normal : item.IsNormal) (feedId : Int)
    (now : Timestamp) :
    (Draft.ofItem? feedId item now).map (·.key) = item.url.map fun url => ⟨feedId, url⟩ := by
  obtain ⟨_, url, _⟩ := normal
  rw [Draft.ofItem?, bind_nonBlank? url, Option.map_map]
  rfl

/-- Texts of a document that is read neither begin nor end with a blank, and an item gives a draft
exactly if it has a link, which is then in the key of the draft. -/
theorem FeedDocument.snug_of_parse {bytes : List UInt8} {doc : FeedDocument}
    (reads : FeedDocument.parse bytes = .ok doc) :
    Snug doc.title.toList ∧ SnugOrAbsent doc.description ∧
      ∀ item ∈ doc.items,
        Snug item.title.toList ∧ SnugOrAbsent item.url ∧ SnugOrAbsent item.description ∧
          SnugOrAbsent item.content ∧
          (∀ fault, Rss.parse (Node.ofBytes bytes) = .error fault → item.publishedAt.isSome = true) ∧
          ∀ feedId now,
            (Draft.ofItem? feedId item now).map (·.key) = item.url.map fun url => ⟨feedId, url⟩ := by
  obtain ⟨title, description, items⟩ := FeedDocument.isNormal_of_parse reads
  refine ⟨trimmed_iff_snug.mp title, description.snug, fun item member => ?_⟩
  obtain ⟨itemTitle, url, itemDescription, content⟩ := items item member
  refine ⟨trimmed_iff_snug.mp itemTitle, url.snug, itemDescription.snug, content.snug, ?_, ?_⟩
  · intro fault noRss
    rcases FeedDocument.parse_cases reads with ⟨rss, _⟩ | ⟨feed, rfl⟩
    · rw [noRss] at rss
      cases rss
    · exact Atom.RawFeed.isSome_publishedAt member
  · exact (items item member).keys

/-- An Atom document with blanks around its texts and inside of a CDATA section, and with a link
that is not to the page in front of the one that is. -/
def spacedAtom : List UInt8 := Text.Utf8.encode
  ("<feed><title> T </title><entry><title> <![CDATA[ a & b ]]></title><link rel='self' href='s'/>" ++
    "<link href=' http://h/1 '/></entry></feed>").toList

theorem spacedAtom_snug :
    ∃ doc, FeedDocument.parse spacedAtom = .ok doc ∧ doc.items.map (·.title) = ["a & b"] ∧
      doc.items.map (·.url) = [some "http://h/1"] ∧
      (∃ fault, Rss.parse (Node.ofBytes spacedAtom) = .error fault) ∧
      ∀ item ∈ doc.items, item.publishedAt.isSome = true ∧
        (Draft.ofItem? 7 item Timestamp.epoch).map (·.key) = item.url.map fun url => ⟨7, url⟩ := by
  let doc : FeedDocument :=
    ⟨"T", none, [⟨"a & b", some "http://h/1", none, none, some Timestamp.epoch⟩]⟩
  have read : (Rss.parse (Node.ofBytes spacedAtom)).toOption = none ∧
      (Atom.parse (Node.ofBytes spacedAtom)).toOption = some doc := by decide +kernel
  obtain ⟨fault, rss⟩ : ∃ fault, Rss.parse (Node.ofBytes spacedAtom) = .error fault := by
    cases parsed : Rss.parse (Node.ofBytes spacedAtom) with
    | error fault => exact ⟨fault, rfl⟩
    | ok other =>
      rw [parsed] at read
      cases read.1
  have reads : FeedDocument.parse spacedAtom = .ok doc := by
    rw [FeedDocument.parse, rss]
    cases parsed : Atom.parse (Node.ofBytes spacedAtom) with
    | error fault =>
      rw [parsed] at read
      cases read.2
    | ok other =>
      rw [parsed] at read
      cases read.2
      rfl
  obtain ⟨_, _, items⟩ := FeedDocument.snug_of_parse reads
  refine ⟨doc, reads, rfl, rfl, ⟨fault, rss⟩, fun item member => ?_⟩
  obtain ⟨_, _, _, _, dated, keys⟩ := items item member
  exact ⟨dated fault rss, keys 7 Timestamp.epoch⟩

end FeedIngest.Syndication
