import FeedIngest.Syndication.Fault
import FeedIngest.Syndication.Feed
import FeedIngest.Time.LooseDate

/-!
# Atom documents

Texts of an Atom document keep the markup inside of them as it is written. In texts of type
`xhtml` references and quotes stay escaped as well.
-/

set_option autoImplicit false

namespace FeedIngest.Syndication.Atom

open Markup (Node Tag)
open Time (Timestamp)

mutual

/-- The content of an element as it is written, with references resolved or, in escaped form,
with all that could be taken for markup escaped. It comes in reverse, before what was read. -/
def sourceOnto (escaped : Bool) (read : List Char) : List Node → Read (List Char)
  | [] => .ok read
  | node :: rest => do sourceOnto escaped (← nodeOnto escaped read node) rest

def nodeOnto (escaped : Bool) (read : List Char) : Node → Read (List Char)
  | .element tag children => do
    let opening := (← ofMarkup tag.source).reverseAux ('<' :: read)
    if tag.selfClosed then return '>' :: '/' :: opening
    else
      let inner ← sourceOnto escaped ('>' :: opening) children
      let name ← ofMarkup tag.name
      return '>' :: name.reverseAux ('/' :: '<' :: inner)
  | .text content | .cdata content => do
    let text ← ofMarkup content
    return (if escaped then Markup.escape text else text).reverseAux read
  | .reference name => do
    let name ← ofMarkup name
    if escaped then return ';' :: name.reverseAux ('&' :: read)
    else return (← ofMarkup (Markup.referenceText name)).reverseAux read
  | .comment content => do
    return '>' :: '-' :: '-' :: (← ofMarkup content).reverseAux ('-' :: '-' :: '!' :: '<' :: read)
  | .cut fault => .error (cutFault fault)

end

def source (escaped : Bool) (children : List Node) : Read (List Char) :=
  (sourceOnto escaped [] children).map List.reverse

def plainText (children : List Node) : Read String := do
  return String.ofList (← source false children)

inductive TextType where
  | text
  | html
  | xhtml
deriving DecidableEq, Repr

def TextType.named (value : String) : Read TextType :=
  match value with
  | "text" => .ok .text
  | "html" => .ok .html
  | "xhtml" => .ok .xhtml
  | value => .error (.badTextType value)

def typedText (tag : Tag) (children : List Node) : Read String := do
  let type ← tag.attributes.foldlM (fun (type : TextType) a => do
    match String.ofList (← ofMarkup a.key) with
    | "type" => TextType.named (← ofMarkup a.resolved)
    | "xml:base" | "xml:lang" => let _ ← ofMarkup a.resolved; return type
    | _ => return type) .text
  return String.ofList (← source (type = .xhtml) children)

/-- Reads the content of an entry, whose type may be any. -/
def contentText (tag : Tag) (children : List Node) : Read String := do
  let values ← valuesOf tag ["xml:base", "xml:lang", "type", "src"].contains
  let type := (values.reverse.lookup "type").getD ""
  return String.ofList (← source (type = "xhtml") children)

structure Link where
  href : String := ""
  rel : String := "alternate"
deriving DecidableEq, Repr

def readLink (tag : Tag) (children : List Node) : Read Link := do
  let values ← valuesOf tag ["href", "rel", "hreflang", "type", "title", "length"].contains
  passOver tag children
  let values := values.reverse
  return ⟨(values.lookup "href").getD "", (values.lookup "rel").getD "alternate"⟩

/-- Reads a date; an empty one is none. -/
def readTime (children : List Node) : Read (Option Timestamp) := do
  let text ← plainText children
  if text.isEmpty then return none
  else match Time.LooseDate.parse? text.toList with
    | some time => return some time
    | none => .error (.badTime text)

def passPerson (children : List Node) : Read Unit :=
  children.forM fun
    | .element tag inner => do
      if ["name", "email", "uri"].contains (← nameOf tag) then discard (plainText inner)
      else passOver tag inner
    | .cut fault => .error (cutFault fault)
    | _ => .ok ()

def passCategory (tag : Tag) (children : List Node) : Read Unit := do
  let _ ← valuesOf tag ["term", "scheme", "label"].contains
  passOver tag children

def passGenerator (tag : Tag) (children : List Node) : Read Unit := do
  let _ ← valuesOf tag ["uri", "version"].contains
  discard (plainText children)

/-- Reads an element that feeds, entries and sources share and that does not matter; whether
it was one. -/
def passShared (name : String) (tag : Tag) (children : List Node) : Read Bool := do
  match name with
  | "id" | "icon" | "logo" => let _ ← plainText children; return true
  | "author" | "contributor" => passPerson children; return true
  | "category" => passCategory tag children; return true
  | "generator" => passGenerator tag children; return true
  | "link" => let _ ← readLink tag children; return true
  | "title" | "subtitle" | "rights" => let _ ← typedText tag children; return true
  | "updated" => let _ ← readTime children; return true
  | _ => return false

def passExtension (tag : Tag) (children : List Node) : Read Unit := do
  let _ ← valuesOf tag fun _ => true
  let _ ← extensionText children
  return ()

def passSource (children : List Node) : Read Unit :=
  children.forM fun
    | .element tag inner => do
      if ← passShared (← nameOf tag) tag inner then return () else passOver tag inner
    | .cut fault => .error (cutFault fault)
    | _ => .ok ()

structure RawEntry where
  title : String := ""
  links : List Link := []
  summary : Option String := none
  content : Option String := none
  published : Option Timestamp := none
  updated : Timestamp := Timestamp.epoch
deriving DecidableEq, Repr

def RawEntry.take (entry : RawEntry) : Node → Read RawEntry
  | .element tag children => do
    let name ← nameOf tag
    match name with
    | "title" => return { entry with title := ← typedText tag children }
    | "link" => return { entry with links := entry.links ++ [← readLink tag children] }
    | "summary" => return { entry with summary := some (← typedText tag children) }
    | "content" => return { entry with content := some (← contentText tag children) }
    | "published" => return { entry with published := ← readTime children }
    | "updated" => return { entry with updated := (← readTime children).getD Timestamp.epoch }
    | "source" => passSource children; return entry
    | name =>
      if ["id", "author", "contributor", "category", "rights"].contains name then
        let _ ← passShared name tag children
        return entry
      else if (extensionName? name).isSome then
        passExtension tag children
        return entry
      else
        passOver tag children
        return entry
  | .cut fault => .error (cutFault fault)
  | _ => .ok entry

/-- A feed as it is read; its entries in reverse. -/
structure RawFeed where
  title : String := ""
  subtitle : Option String := none
  entries : List RawEntry := []
deriving DecidableEq, Repr

def RawFeed.take (feed : RawFeed) : Node → Read RawFeed
  | .element tag children => do
    let name ← nameOf tag
    match name with
    | "title" => return { feed with title := ← typedText tag children }
    | "subtitle" => return { feed with subtitle := some (← typedText tag children) }
    | "entry" =>
      let entry ← children.foldlM RawEntry.take {}
      return { feed with entries := entry :: feed.entries }
    | name =>
      if ← passShared name tag children then return feed
      else if (extensionName? name).isSome then
        passExtension tag children
        return feed
      else
        passOver tag children
        return feed
  | .cut fault => .error (cutFault fault)
  | _ => .ok feed

def readRoot (tag : Tag) (children : List Node) : Read RawFeed := do
  let _ ← valuesOf tag fun key =>
    key = "xml:base" || key = "xml:lang" || "xmlns:".toList.isPrefixOf key.toList
  let feed ← children.foldlM RawFeed.take {}
  return { feed with entries := feed.entries.reverse }

/-- Reads a document: what stands before the first element does not matter. -/
def readNodes : List Node → Read RawFeed
  | [] => .error .incomplete
  | .element tag children :: _ => do
    if (← nameOf tag) = "feed" then readRoot tag children else .error .otherStart
  | .cut fault :: _ => .error (cutFault fault)
  | _ :: rest => readNodes rest

/-- The link that leads to the page of an entry: the first alternate one, else the first. -/
def pageLink? (links : List Link) : Option Link :=
  (links.find? (·.rel == "alternate")).or links.head?

def RawEntry.normal (entry : RawEntry) : FeedItem where
  title := Text.trimmed entry.title
  url := (pageLink? entry.links).bind fun link => Text.nonBlank? link.href
  description := entry.summary.bind Text.nonBlank?
  content := entry.content.bind Text.nonBlank?
  publishedAt := some (entry.published.getD entry.updated)

def RawFeed.normal (feed : RawFeed) : FeedDocument where
  title := Text.trimmed feed.title
  description := feed.subtitle.bind Text.nonBlank?
  items := feed.entries.map RawEntry.normal

def parse (nodes : List Node) : Read FeedDocument := do return (← readNodes nodes).normal

end FeedIngest.Syndication.Atom
