import FeedIngest.Syndication.Fault
import FeedIngest.Syndication.Feed
import FeedIngest.Time.MailDate
import FeedIngest.Time.Rfc3339

/-!
# RSS documents

Reads RSS 2.0 and the older form in which the items stand beside the channel. Of an element
that is repeated the last one counts. What an element of text holds is its own text: elements
inside of it are passed over.
-/

set_option autoImplicit false

namespace FeedIngest.Syndication.Rss

open Markup (Node Tag)
open Time (Timestamp)

def dublinCore : String := "http://purl.org/dc/elements/1.1/"

abbrev Prefixes := List (String × String)

def declare (prefixes : Prefixes) (tag : Tag) : Read Prefixes := do
  let declared ← valuesOf tag fun key => "xmlns:".toList.isPrefixOf key.toList
  return declared.foldl
    (fun prefixes (key, value) => (String.ofList (key.toList.drop 6), value) :: prefixes) prefixes

def textOnto (read : List Char) : List Node → Read (List Char)
  | [] => .ok read.reverse
  | .element tag children :: rest => do
    passOver tag children
    textOnto read rest
  | .text content :: rest | .cdata content :: rest => do
    textOnto ((← ofMarkup content).reverse ++ read) rest
  | .reference name :: rest => do
    let text ← ofMarkup do Markup.referenceText (← name)
    textOnto (text.reverse ++ read) rest
  | .comment _ :: rest => textOnto read rest
  | .cut none :: _ => .ok read.reverse
  | .cut (some fault) :: _ => .error (.markup fault)

/-- The trimmed text of an element; nothing if it is empty. -/
def text? (children : List Node) : Read (Option String) := do
  return Text.nonBlank? (String.ofList (← textOnto [] children))

structure RawItem where
  title : Option String := none
  link : Option String := none
  description : Option String := none
  content : Option String := none
  date : Option String := none
  otherDates : List String := []
deriving DecidableEq, Repr

structure RawChannel where
  title : String := ""
  description : String := ""
  items : List RawItem := []
deriving DecidableEq, Repr

/-- Reads the children of an element that matters only for its texts of these names. -/
def passTexts (names : List String) (children : List Node) : Read Unit :=
  children.forM fun
    | .element tag inner => do
      if names.contains (← nameOf tag) then discard (text? inner) else passOver tag inner
    | .cut fault => .error (cutFault fault)
    | _ => .ok ()

def passValues (names : List String) (tag : Tag) : Read Unit :=
  discard (valuesOf tag names.contains)

/-- An extension element: its namespace, its local name and its text. -/
def extension (prefixes : Prefixes) (tag : Tag) (name : String × String) (children : List Node) :
    Read (Option String × String × String) := do
  let prefixes ← declare prefixes tag
  let _ ← valuesOf tag fun _ => true
  let text ← extensionText children
  return (prefixes.lookup name.1, name.2, Text.trimmed (String.ofList text))

def RawItem.take (prefixes : Prefixes) (item : RawItem) : Node → Read RawItem
  | .element tag children => do
    let name ← nameOf tag
    match name with
    | "title" => return { item with title := ← text? children }
    | "link" =>
      match ← text? children with
      | some link => return { item with link := some link }
      | none => return item
    | "description" => return { item with description := ← text? children }
    | "content:encoded" => return { item with content := ← text? children }
    | "pubDate" => return { item with date := ← text? children }
    | "author" | "comments" => let _ ← text? children; return item
    | "category" => passValues ["domain"] tag; let _ ← text? children; return item
    | "source" => passValues ["url"] tag; let _ ← text? children; return item
    | "guid" => let _ ← keyed tag; let _ ← text? children; return item
    | "enclosure" => passValues ["url", "length", "type"] tag; passOver tag children; return item
    | name =>
      match extensionName? name with
      | none => passOver tag children; return item
      | some parts =>
        let (namespace?, localName, text) ← extension prefixes tag parts children
        if namespace? = some dublinCore ∧ localName = "date" ∧ text ≠ "" then
          return { item with otherDates := item.otherDates ++ [text] }
        else return item
  | .cut fault => .error (cutFault fault)
  | _ => .ok item

def readItem (prefixes : Prefixes) (tag : Tag) (children : List Node) : Read RawItem := do
  let prefixes ← declare prefixes tag
  children.foldlM (RawItem.take prefixes) {}

/-- The elements of a channel that are texts and do not matter. -/
def plainTexts : List String :=
  ["link", "language", "copyright", "managingEditor", "webMaster", "pubDate", "lastBuildDate",
    "generator", "docs", "rating", "ttl"]

def RawChannel.take (prefixes : Prefixes) (channel : RawChannel) : Node → Read RawChannel
  | .element tag children => do
    let name ← nameOf tag
    match name with
    | "title" => return { channel with title := (← text? children).getD "" }
    | "description" => return { channel with description := (← text? children).getD "" }
    | "item" =>
      let item ← readItem prefixes tag children
      return { channel with items := item :: channel.items }
    | "category" => passValues ["domain"] tag; let _ ← text? children; return channel
    | "cloud" =>
      passValues ["domain", "port", "path", "registerProcedure", "protocol"] tag
      passOver tag children
      return channel
    | "skipHours" => passTexts ["hour"] children; return channel
    | "skipDays" => passTexts ["day"] children; return channel
    | "image" =>
      passTexts ["title", "url", "link", "width", "height", "description"] children
      return channel
    | "textInput" => passTexts ["title", "description", "name", "link"] children; return channel
    | name =>
      if plainTexts.contains name then
        let _ ← text? children
        return channel
      else match extensionName? name with
        | none => passOver tag children; return channel
        | some parts => let _ ← extension prefixes tag parts children; return channel
  | .cut fault => .error (cutFault fault)
  | _ => .ok channel

/-- Reads a channel. Its items are in the order of the document. -/
def readChannel (prefixes : Prefixes) (tag : Tag) (children : List Node) : Read RawChannel := do
  let prefixes ← declare prefixes tag
  let channel ← children.foldlM (RawChannel.take prefixes) {}
  return { channel with items := channel.items.reverse }

/-- A document as it is read: its last channel, and the items outside of it in reverse. -/
structure RawDocument where
  channel : Option RawChannel := none
  outerItems : List RawItem := []
deriving DecidableEq, Repr

/-- Takes a child of the root. The document may end without closing the root. -/
def RawDocument.take (prefixes : Prefixes) (doc : RawDocument) : Node → Read RawDocument
  | .element tag children => do
    let name ← nameOf tag
    match name with
    | "channel" => return { doc with channel := some (← readChannel prefixes tag children) }
    | "item" =>
      return { doc with outerItems := (← readItem prefixes tag children) :: doc.outerItems }
    | "image" =>
      passTexts ["title", "url", "link", "width", "height", "description"] children
      return doc
    | "textinput" => passTexts ["title", "description", "name", "link"] children; return doc
    | _ => passOver tag children; return doc
  | .cut (some fault) => .error (.markup fault)
  | _ => .ok doc

/-- Reads the root element: the channel with the outer items after its own. -/
def readRoot (tag : Tag) (children : List Node) : Read RawChannel := do
  let prefixes ← declare [] tag
  let doc ← children.foldlM (RawDocument.take prefixes) {}
  match doc.channel with
  | some channel => return { channel with items := channel.items ++ doc.outerItems.reverse }
  | none => .error .incomplete

/-- Reads a document: what stands before the first element does not matter. -/
def readNodes : List Node → Read RawChannel
  | [] => .error .incomplete
  | .element tag children :: _ => do
    let name ← nameOf tag
    if name = "rss" ∨ name = "rdf:RDF" then readRoot tag children else .error .otherStart
  | .cut fault :: _ => .error (cutFault fault)
  | _ :: rest => readNodes rest

def date? (text : String) : Option Timestamp :=
  let cs := Text.trim text.toList
  (Time.MailDate.parse? cs).or (Time.Rfc3339.parse? cs)

/-- What an item says. Without a date that can be read, the first Dublin Core date counts. -/
def RawItem.normal (item : RawItem) : FeedItem where
  title := Text.trimmed (item.title.getD "")
  url := item.link.bind Text.nonBlank?
  description := item.description.bind Text.nonBlank?
  content := item.content.bind Text.nonBlank?
  publishedAt := (item.date.bind date?).or (item.otherDates.head?.bind date?)

def RawChannel.normal (channel : RawChannel) : FeedDocument where
  title := Text.trimmed channel.title
  description := Text.nonBlank? channel.description
  items := channel.items.map RawItem.normal

def parse (nodes : List Node) : Read FeedDocument := do return (← readNodes nodes).normal

end FeedIngest.Syndication.Rss
