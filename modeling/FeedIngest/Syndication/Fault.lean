import FeedIngest.Markup.Node

/-!
# Faults of feed documents

Why a document is no RSS or no Atom document. Both kinds share the causes; each has a wording
of its own for how a document has to begin and end.
-/

set_option autoImplicit false

namespace FeedIngest.Syndication

inductive DocumentFault where
  /-- The first element is not the one that begins such a document. -/
  | otherStart
  | incomplete
  | markup (fault : Markup.Fault)
  | badTime (text : String)
  | badTextType (value : String)
deriving DecidableEq, Repr

namespace DocumentFault

/-- The wording for faults that are the same in every kind of document. -/
def commonMessage : DocumentFault → String
  | otherStart => ""
  | incomplete => ""
  | markup fault => fault.message
  | badTime text => "timestamps must be formatted by RFC3339, rather than " ++ text
  | badTextType value => "Unsupported value of attribute type: '" ++ value ++ "'."

def rssMessage : DocumentFault → String
  | otherStart => "the input did not begin with an rss tag"
  | incomplete => "reached end of input without finding a complete channel"
  | fault => fault.commonMessage

def atomMessage : DocumentFault → String
  | otherStart => "input did not begin with an opening feed tag"
  | incomplete => "unexpected end of input"
  | fault => fault.commonMessage

end DocumentFault

abbrev Read (α : Type) := Except DocumentFault α

def ofMarkup {α : Type} (result : Except Markup.Fault α) : Read α := result.mapError .markup

def cutFault : Option Markup.Fault → DocumentFault
  | none => .incomplete
  | some fault => .markup fault

def nameOf (tag : Markup.Tag) : Read String := do return String.ofList (← ofMarkup tag.name)

def passOver (tag : Markup.Tag) (children : List Markup.Node) : Read Unit :=
  ofMarkup (Markup.Node.passOver tag children)

/-- The attributes with their keys read, and their values yet to be resolved. -/
def keyed (tag : Markup.Tag) : Read (List (String × Markup.Attribute)) :=
  tag.attributes.mapM fun a => do return (String.ofList (← ofMarkup a.key), a)

def valuesOf (tag : Markup.Tag) (wanted : String → Bool) : Read (List (String × String)) :=
  (tag.attributes).filterMapM fun a => do
    let key := String.ofList (← ofMarkup a.key)
    if wanted key then return some (key, ← ofMarkup a.resolved) else return none

/-- The part of a name before its first colon and the part after it, if there is a first
part. Such a name belongs to an extension of the format. -/
def extensionName? (name : String) : Option (String × String) :=
  match Text.splitFirst? ':' name.toList with
  | some (head, tail) =>
    if head.isEmpty then none else some (String.ofList head, String.ofList tail)
  | none => none

mutual

/-- The text that stands directly in an extension element, once the tags and texts below it
have been found in order. -/
def extensionText : List Markup.Node → Read (List Char)
  | [] => .ok []
  | node :: rest => do
    let text ← extensionPart node
    return text ++ (← extensionText rest)

def extensionPart : Markup.Node → Read (List Char)
  | .element tag children => do
    let _ ← valuesOf tag fun _ => true
    let _ ← extensionText children
    return []
  | .text content => ofMarkup content
  | .cdata content => ofMarkup content
  | .reference name => ofMarkup do Markup.referenceText (← name)
  | .comment _ => .ok []
  | .cut fault => .error (cutFault fault)

end

end FeedIngest.Syndication
