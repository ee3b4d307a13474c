import FeedIngest.Proofs.Markup.Tree
import FeedIngest.Proofs.Syndication.Normal
import FeedIngest.Proofs.Time.FeedDate

/-!
# Reading written feeds

A feed in its normal form is written as an RSS document, with its texts escaped and without what it
does not have. Whatever its texts hold, the same feed is read.
-/

set_option autoImplicit false

namespace FeedIngest.Syndication

open Markup (Node Scan Scans Tag element escape)
open Text (nonBlank?)
open Text.Utf8 (encode encode_append)
open Time (Timestamp)

/-! ## The written form -/

def textElement (name : String) (text : String) : List Char :=
  element name.toList (escape text.toList)

def optionalElement (name : String) (text : Option String) : List Char :=
  text.elim [] (textElement name)

def FeedItem.written (item : FeedItem) : List Char :=
  element "item".toList (textElement "title" item.title ++ (optionalElement "link" item.url ++
    (optionalElement "description" item.description ++
      (optionalElement "content:encoded" item.content ++
        optionalElement "pubDate" (item.publishedAt.map Time.Rfc3339.render)))))

def declaration : List Char := "<?xml version=\"1.0\" encoding=\"UTF-8\"?>".toList

def contentNamespace : String := "http://purl.org/rss/1.0/modules/content/"

def rootSource : List Char :=
  "rss version=\"2.0\" xmlns:content=\"http://purl.org/rss/1.0/modules/content/\"".toList

def FeedDocument.channel (doc : FeedDocument) : List Char :=
  element "channel".toList (textElement "title" doc.title ++
    (optionalElement "description" doc.description ++ doc.items.flatMap FeedItem.written))

def FeedDocument.written (doc : FeedDocument) : List Char :=
  declaration ++ ('<' :: (rootSource ++ '>' :: (doc.channel ++ "</rss>".toList)))

def FeedDocument.InPlainYears (doc : FeedDocument) : Prop :=
  ∀ item ∈ doc.items, ∀ t, item.publishedAt = some t → Time.Rfc3339.InPlainYear t

namespace Rss

section Texts

variable {nodes : List Node} {cs : List Char}

private theorem textOnto_running (running : Markup.Running nodes cs) (read : List Char) :
    textOnto read nodes = .ok (read.reverse ++ cs) := by
  induction running generalizing read with
  | nil => simp [textOnto]
  | text run _ ih =>
    show textOnto (run.reverse ++ read) _ = _
    rw [ih]
    simp
  | @reference name c is _ _ _ ih =>
    have meaning : Markup.referenceText name = .ok [c] := by
      unfold Markup.referenceText
      rw [is]
    have content : ofMarkup (do Markup.referenceText (← .ok name)) = .ok [c] := by
      show ofMarkup (Markup.referenceText name) = _
      rw [meaning]
      rfl
    rw [textOnto, content]
    show textOnto (c :: read) _ = _
    rw [ih]
    simp

theorem exists_textElement {name : String} (is : Scan.IsName name.toList) (text : String) :
    ∃ children, Scans (textElement name text) [.element (Scan.bareTag name.toList) children] ∧
      text? children = .ok (nonBlank? text) := by
  obtain ⟨children, running, fills⟩ := Markup.exists_running text.toList
  refine ⟨children, Markup.scans_element is fills, ?_⟩
  simp [text?, textOnto_running running]

end Texts

/-! ## Items -/

theorem foldlM_append_of_ok {α β : Type} {take : β → α → Read β} {before : List α}
    {start middle : β} (first : before.foldlM take start = .ok middle) (after : List α) :
    (before ++ after).foldlM take start = after.foldlM take middle := by
  rw [List.foldlM_append, first]
  rfl

theorem declare_bareTag (prefixes : Prefixes) (name : List Char) :
    declare prefixes (Scan.bareTag name) = .ok prefixes := rfl

theorem nameOf_bareTag (name : String) : nameOf (Scan.bareTag name.toList) = .ok name := by
  show Except.ok (String.ofList name.toList) = _
  rw [String.ofList_toList]

/-- An element whose text becomes a field of what it stands in. -/
def Sets {β : Type} (take : Prefixes → β → Node → Read β) (name : String)
    (put : Option String → β → β) : Prop :=
  ∀ (prefixes : Prefixes) (holder : β) (children : List Node) (text : String),
    text? children = .ok (some text) →
      take prefixes holder (.element (Scan.bareTag name.toList) children) =
        .ok (put (some text) holder)

private theorem sets_itemFields :
    Sets RawItem.take "link" (fun link item => { item with link }) ∧
    Sets RawItem.take "description" (fun description item => { item with description }) ∧
    Sets RawItem.take "content:encoded" (fun content item => { item with content }) ∧
    Sets RawItem.take "pubDate" (fun date item => { item with date }) := by
  refine ⟨?link, ?description, ?content, ?date⟩
  all_goals
    intro prefixes item children text read
    rw [RawItem.take, nameOf_bareTag]
    simp only [Except.bind, bind, read]
    rfl

private theorem sets_channelDescription :
    Sets RawChannel.take "description" fun description channel =>
    { channel with description := description.getD "" } := by
  intro prefixes channel children text read
  rw [RawChannel.take, nameOf_bareTag]
  simp only [Except.bind, bind, read]
  rfl

/-- A field that is written sets its value, and one that is left out stays without. -/
theorem exists_optionalElement {β : Type} {take : Prefixes → β → Node → Read β} {name : String}
    (is : Scan.IsName name.toList) {put : Option String → β → β} (sets : Sets take name put)
    {text : Option String} (normal : TrimmedOrAbsent text) :
    ∃ nodes, Scans (optionalElement name text) nodes ∧ ∀ prefixes holder,
      put none holder = holder → nodes.foldlM (take prefixes) holder = .ok (put text holder) := by
  cases text with
  | none =>
    refine ⟨[], Markup.scans_nil, fun prefixes holder unset => ?_⟩
    rw [unset]
    rfl
  | some text =>
    obtain ⟨trimmed, nonempty⟩ := normal text rfl
    obtain ⟨children, scans, read⟩ := exists_textElement is text
    rw [nonBlank?_of_trimmed trimmed nonempty] at read
    refine ⟨_, scans, fun prefixes holder _ => ?_⟩
    rw [List.foldlM_cons, sets prefixes holder children text read]
    rfl

theorem isName : ∀ name ∈ ["title", "link", "description", "content:encoded", "pubDate", "item",
    "channel", "rss"], Scan.IsName name.toList := by
  have is : ∀ {name : List Char}, (encode name).isEmpty = false →
      (encode name).all Scan.isNameByte = true → Scan.IsName name :=
    fun nonempty plain => ⟨List.isEmpty_eq_false_iff.mp nonempty, List.all_eq_true.mp plain⟩
  simp only [List.forall_mem_cons]
  exact ⟨is rfl rfl, is rfl rfl, is rfl rfl, is rfl rfl, is rfl rfl, is rfl rfl, is rfl rfl,
    is rfl rfl, List.forall_mem_nil _⟩

def raw (item : FeedItem) : RawItem where
  title := nonBlank? item.title
  link := item.url
  description := item.description
  content := item.content
  date := item.publishedAt.map Time.Rfc3339.render

private theorem normal_raw {item : FeedItem} (normal : item.IsNormal)
    (plain : ∀ t, item.publishedAt = some t → Time.Rfc3339.InPlainYear t) :
    (raw item).normal = item := by
  obtain ⟨title, url, description, content⟩ := normal
  have date : ((raw item).date.bind date?).or ((raw item).otherDates.head?.bind date?) =
      item.publishedAt := by
    unfold raw
    cases published : item.publishedAt with
    | none => rfl
    | some t =>
      have read := Time.Rfc3339.date?_render (plain t published)
      simp [read]
  rw [RawItem.normal, date]
  simp only [raw, getD_nonBlank? title, trimmed_eq title, bind_nonBlank? url,
    bind_nonBlank? description, bind_nonBlank? content]

theorem exists_item {item : FeedItem} (normal : item.IsNormal)
    (plain : ∀ t, item.publishedAt = some t → Time.Rfc3339.InPlainYear t) :
    ∃ children, Scans item.written [.element (Scan.bareTag "item".toList) children] ∧
      ∀ prefixes, readItem prefixes (Scan.bareTag "item".toList) children = .ok (raw item) := by
  obtain ⟨_, url, description, content⟩ := normal
  have date : TrimmedOrAbsent (item.publishedAt.map Time.Rfc3339.render) := by
    intro text rendered
    obtain ⟨t, published, rfl⟩ := Option.map_eq_some_iff.mp rendered
    exact Time.Rfc3339.render_normal (plain t published)
  obtain ⟨setsLink, setsDescription, setsContent, setsDate⟩ := sets_itemFields
  obtain ⟨titleText, titleScans,
      titleRead⟩ := exists_textElement (isName "title" (by decide)) item.title
  obtain ⟨links, linkScans, linkSets⟩ :=
    exists_optionalElement (isName "link" (by decide)) setsLink url
  obtain ⟨descriptions, descriptionScans, descriptionSets⟩ :=
    exists_optionalElement (isName "description" (by decide)) setsDescription description
  obtain ⟨contents, contentScans, contentSets⟩ :=
    exists_optionalElement (isName "content:encoded" (by decide)) setsContent content
  obtain ⟨dates, dateScans, dateSets⟩ :=
    exists_optionalElement (isName "pubDate" (by decide)) setsDate date
  have scans := titleScans.append (linkScans.append (descriptionScans.append
    (contentScans.append dateScans)))
  refine ⟨_, Markup.scans_element (isName "item" (by decide)) scans.fills, fun prefixes => ?_⟩
  have title : [Node.element (Scan.bareTag "title".toList) titleText].foldlM
      (RawItem.take prefixes) {} = .ok { title := nonBlank? item.title } := by
    rw [List.foldlM_cons, RawItem.take, nameOf_bareTag]
    simp only [Except.bind, bind, titleRead]
    rfl
  rw [readItem, declare_bareTag]
  show List.foldlM (RawItem.take prefixes) {} _ = _
  rw [foldlM_append_of_ok title, foldlM_append_of_ok (linkSets prefixes _ rfl),
    foldlM_append_of_ok (descriptionSets prefixes _ rfl),
    foldlM_append_of_ok (contentSets prefixes _ rfl)]
  exact dateSets prefixes _ rfl

/-- The items of a channel are read in their order, behind those that were read before. -/
theorem exists_items {items : List FeedItem} (normal : ∀ item ∈ items, item.IsNormal)
    (plain : ∀ item ∈ items, ∀ t, item.publishedAt = some t → Time.Rfc3339.InPlainYear t) :
    ∃ nodes, Scans (items.flatMap FeedItem.written) nodes ∧ ∀ prefixes channel,
      nodes.foldlM (RawChannel.take prefixes) channel =
        .ok { channel with items := (items.map raw).reverse ++ channel.items } := by
  induction items with
  | nil => exact ⟨[], Markup.scans_nil, fun _ _ => rfl⟩
  | cons item items ih =>
    obtain ⟨first, others⟩ := List.forall_mem_cons.mp normal
    obtain ⟨firstPlain, othersPlain⟩ := List.forall_mem_cons.mp plain
    obtain ⟨children, scans, read⟩ := exists_item first firstPlain
    obtain ⟨nodes, scansToo, takes⟩ := ih others othersPlain
    refine ⟨_, scans.append scansToo, fun prefixes channel => ?_⟩
    have taken : RawChannel.take prefixes channel
        (.element (Scan.bareTag "item".toList) children) =
          .ok { channel with items := raw item :: channel.items } := by
      rw [RawChannel.take, nameOf_bareTag]
      simp only [Except.bind, bind, read]
      rfl
    rw [List.singleton_append, List.foldlM_cons, taken]
    show List.foldlM (RawChannel.take prefixes) _ _ = _
    rw [takes]
    simp

/-! ## Documents -/

def rawChannel (doc : FeedDocument) : RawChannel :=
  ⟨doc.title, doc.description.getD "", doc.items.map raw⟩

private theorem normal_rawChannel {doc : FeedDocument} (normal : doc.IsNormal)
    (plain : doc.InPlainYears) :
    (rawChannel doc).normal = doc := by
  obtain ⟨title, description, items⟩ := normal
  have read : (doc.items.map raw).map RawItem.normal = doc.items := by
    rw [List.map_map]
    have each : ∀ item ∈ doc.items, (RawItem.normal ∘ raw) item = item :=
      fun item member => normal_raw (items item member) (plain item member)
    rw [List.map_congr_left each, List.map_id']
  have described : nonBlank? (doc.description.getD "") = doc.description := by
    cases given : doc.description with
    | none => rfl
    | some text =>
      obtain ⟨trimmed, nonempty⟩ := description text given
      exact nonBlank?_of_trimmed trimmed nonempty
  simp only [RawChannel.normal, rawChannel, trimmed_eq title, described, read]

theorem exists_channel {doc : FeedDocument} (normal : doc.IsNormal) (plain : doc.InPlainYears) :
    ∃ children, Scans doc.channel [.element (Scan.bareTag "channel".toList) children] ∧
      ∀ prefixes, readChannel prefixes (Scan.bareTag "channel".toList) children =
        .ok (rawChannel doc) := by
  obtain ⟨title, description, items⟩ := normal
  obtain ⟨titleText, titleScans,
      titleRead⟩ := exists_textElement (isName "title" (by decide)) doc.title
  obtain ⟨descriptions, descriptionScans, descriptionSets⟩ :=
    exists_optionalElement (isName "description" (by decide)) sets_channelDescription description
  obtain ⟨nodes, itemScans, itemTakes⟩ := exists_items items plain
  have scans := titleScans.append (descriptionScans.append itemScans)
  refine ⟨_, Markup.scans_element (isName "channel" (by decide)) scans.fills, fun prefixes => ?_⟩
  have titled : [Node.element (Scan.bareTag "title".toList) titleText].foldlM
      (RawChannel.take prefixes) {} = .ok { title := doc.title } := by
    rw [List.foldlM_cons, RawChannel.take, nameOf_bareTag]
    simp only [Except.bind, bind, titleRead, pure, Except.pure, getD_nonBlank? title]
    rfl
  have children := foldlM_append_of_ok titled (descriptions ++ nodes)
  rw [foldlM_append_of_ok (descriptionSets prefixes _ rfl), itemTakes] at children
  rw [readChannel, declare_bareTag]
  simp only [Except.bind, bind, pure, Except.pure] at children ⊢
  rw [children]
  simp [rawChannel]

def contentDeclaration : Markup.Attribute :=
  ⟨.ok "xmlns:content".toList, .ok contentNamespace.toList⟩

def rootTag : Tag where
  name := .ok "rss".toList
  source := .ok rootSource
  attributes := [⟨.ok "version".toList, .ok "2.0".toList⟩, contentDeclaration]
  selfClosed := false

private theorem step_rootTag (rest : List UInt8) :
    Scan.step ⟨encode ('<' :: (rootSource ++ ['>'])) ++ rest, [], .utf8, true⟩ =
      ([.startTag rootTag], some ⟨rest, [encode "rss".toList], .utf8, true⟩) := by
  let s : Scan := ⟨encode ('<' :: (rootSource ++ ['>'])) ++ rest, [], .utf8, true⟩
  have read : ∀ cs, s.decode (encode cs) = .ok cs := Scan.decode_encode rfl
  have tag : s.step = ([.startTag
      { name := s.decode (encode "rss".toList)
        source := s.decode (encode rootSource)
        attributes :=
          [⟨s.decode (encode "version".toList), s.decode (encode "2.0".toList)⟩,
            ⟨s.decode (encode "xmlns:content".toList), s.decode (encode contentNamespace.toList)⟩]
        selfClosed := false }], some ⟨rest, [encode "rss".toList], .utf8, true⟩) := rfl
  simp only [read] at tag
  exact tag

private theorem step_declaration (rest : List UInt8) :
    Scan.step ⟨encode declaration ++ rest, [], .utf8, false⟩ =
      ([], some ⟨rest, [], .utf8, true⟩) := rfl

private theorem start_declaration (rest : List UInt8) :
    Scan.start (encode declaration ++ rest) = ⟨encode declaration ++ rest, [], .utf8, false⟩ := rfl

private theorem resolved_contentDeclaration :
    contentDeclaration.resolved = .ok contentNamespace := by
  have plain : Markup.valueText contentNamespace.toList = .ok contentNamespace.toList :=
    Markup.valueText_plain (List.all_eq_true.mp rfl)
  simp only [Markup.Attribute.resolved, contentDeclaration, bind, Except.bind, plain, pure,
    Except.pure, String.ofList_toList]

private theorem declare_rootTag : declare [] rootTag = .ok [("content", contentNamespace)] := by
  have key : contentDeclaration.key = .ok "xmlns:content".toList := rfl
  have values : valuesOf rootTag (fun key => "xmlns:".toList.isPrefixOf key.toList) =
      .ok [("xmlns:content", contentNamespace)] := by
    simp [valuesOf, rootTag, List.filterMapM_cons, List.filterMapM_nil, key,
      resolved_contentDeclaration, ofMarkup, bind, Except.bind, pure, Except.pure, Except.mapError]
  rw [declare, values]
  rfl

/-- A document is scanned as its root element, whatever its channel is. -/
theorem ofBytes_written {doc : FeedDocument} {nodes : List Node} (scans : Scans doc.channel nodes) :
    Node.ofBytes (encode doc.written) = [.element rootTag nodes, .cut none] := by
  have shape : doc.written =
      declaration ++ ('<' :: (rootSource ++ ['>']) ++ (doc.channel ++ "</rss>".toList)) := by
    simp [FeedDocument.written]
  have bytes : encode doc.written = encode declaration ++ (encode ('<' :: (rootSource ++ ['>'])) ++
      (encode doc.channel ++ encode "</rss>".toList)) := by
    rw [shape, encode_append, encode_append, encode_append]
  have shorter : ∀ {front : List UInt8} (back : List UInt8), front ≠ [] →
      back.length < (front ++ back).length := by
    intro front back nonempty
    rw [List.length_append]
    exact Nat.lt_add_of_pos_left (List.length_pos_iff.mpr nonempty)
  obtain ⟨events, emits, flat⟩ := scans ⟨encode doc.channel ++ encode "</rss>".toList,
    [encode "rss".toList], .utf8, true⟩ (encode "</rss>".toList) rfl rfl
  have closes := @Scan.step_endTag ⟨encode "</rss>".toList, [encode "rss".toList], .utf8, true⟩ []
    "rss".toList (isName "rss" (by decide)) [] rfl rfl
  have closing := Scan.Emits.single closes (List.length_pos_iff.mpr (by decide))
  have opening := Scan.Emits.step (step_rootTag _) (shorter _ (by decide)) (emits.trans closing)
  have whole := Scan.Emits.step (step_declaration _) (shorter _ (by decide)) opening
  have begins := start_declaration (encode ('<' :: (rootSource ++ ['>'])) ++
    (encode doc.channel ++ encode "</rss>".toList))
  rw [← begins] at whole
  rw [bytes]
  exact Markup.ofBytes_of_emits (by rw [begins]) whole rfl (.element flat .nil)

private theorem readNodes_written {channel : RawChannel} {children : List Node}
    (read : readChannel [("content", contentNamespace)] (Scan.bareTag "channel".toList) children =
      .ok channel) :
    readNodes [.element rootTag [.element (Scan.bareTag "channel".toList) children], .cut none] =
      .ok channel := by
  have taken : [Node.element (Scan.bareTag "channel".toList) children].foldlM
      (RawDocument.take [("content", contentNamespace)]) {} = .ok { channel := some channel } := by
    rw [List.foldlM_cons, RawDocument.take, nameOf_bareTag]
    simp only [Except.bind, bind, read]
    rfl
  have root : readRoot rootTag [.element (Scan.bareTag "channel".toList) children] =
      .ok channel := by
    rw [readRoot, declare_rootTag]
    simp only [Except.bind, bind] at taken ⊢
    rw [taken]
    simp [pure, Except.pure]
  have name : nameOf rootTag = .ok "rss" := rfl
  rw [readNodes, name]
  exact root

end Rss

/-- A feed that is written is read as the same feed. -/
theorem FeedDocument.parse_written {doc : FeedDocument} (normal : doc.IsNormal)
    (plain : doc.InPlainYears) : FeedDocument.parse (encode doc.written) = .ok doc := by
  obtain ⟨children, scans, read⟩ := Rss.exists_channel normal plain
  have parsed : Rss.parse (Node.ofBytes (encode doc.written)) = .ok doc := by
    rw [Rss.ofBytes_written scans, Rss.parse, Rss.readNodes_written (read _)]
    show Except.ok (Rss.rawChannel doc).normal = _
    rw [Rss.normal_rawChannel normal plain]
  rw [FeedDocument.parse, parsed]

theorem FeedDocument.parse_written_markup :
    FeedDocument.parse (encode (FeedDocument.written ⟨"<b>&amp;</b>", none,
      [⟨"a \"b\"", some "http://h/1?x&y", none, some "<p>]]></p>", some Timestamp.epoch⟩]⟩)) =
        .ok ⟨"<b>&amp;</b>", none,
          [⟨"a \"b\"", some "http://h/1?x&y", none, some "<p>]]></p>", some Timestamp.epoch⟩]⟩ := by
  have none : TrimmedOrAbsent none := fun _ given => nomatch given
  have some : ∀ text, Trimmed text → text ≠ "" → TrimmedOrAbsent (some text) := by
    intro text trimmed nonempty _ same
    cases same
    exact ⟨trimmed, nonempty⟩
  apply FeedDocument.parse_written
  · refine ⟨by unfold Trimmed; decide, none, fun item member => ?_⟩
    rw [List.mem_singleton.mp member]
    exact ⟨by unfold Trimmed; decide, some _ (by unfold Trimmed; decide) (by decide), none,
      some _ (by unfold Trimmed; decide) (by decide)⟩
  · intro item member t published
    rw [List.mem_singleton.mp member] at published
    cases published
    constructor <;> decide

end FeedIngest.Syndication
