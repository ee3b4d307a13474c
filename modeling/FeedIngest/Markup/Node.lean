import FeedIngest.Markup.Entity
import FeedIngest.Markup.Event

/-!
# Marked-up documents as trees

`Node.ofBytes` arranges the events of a document as a tree. A document may break off, at its
end or at a fault; then every element that is open there ends with a cut, and so does the
document as a whole. Reading a tree from front to back meets the parts of a document in their
order, so whoever stops early does not see what is wrong later on.
-/

set_option autoImplicit false

namespace FeedIngest.Markup

inductive Node where
  | element (tag : Tag) (children : List Node)
  | text (content : Decoded)
  | cdata (content : Decoded)
  | comment (content : Decoded)
  | reference (name : Decoded)
  | cut (fault : Option Fault)

instance : Inhabited Node := ⟨.cut none⟩

namespace Node

/-- An open element with the nodes that stand before it, in reverse. -/
structure Frame where
  tag : Tag
  before : List Node

def closeAll (fault : Option Fault) (siblings : List Node) : List Frame → List Node
  | [] => (.cut fault :: siblings).reverse
  | frame :: frames =>
    closeAll fault (.element frame.tag (.cut fault :: siblings).reverse :: frame.before) frames

def arrange (frames : List Frame) (siblings : List Node) : List Event → List Node
  | [] => closeAll none siblings frames
  | .startTag tag :: events => arrange (⟨tag, siblings⟩ :: frames) [] events
  | .endTag :: events =>
    match frames with
    | [] => arrange [] siblings events
    | frame :: frames =>
      arrange frames (.element frame.tag siblings.reverse :: frame.before) events
  | .text content :: events => arrange frames (.text content :: siblings) events
  | .cdata content :: events => arrange frames (.cdata content :: siblings) events
  | .comment content :: events => arrange frames (.comment content :: siblings) events
  | .reference name :: events => arrange frames (.reference name :: siblings) events
  | .fault fault :: _ => closeAll (some fault) siblings frames

def ofBytes (bytes : List UInt8) : List Node := arrange [] [] (Event.scan bytes)

/-- Passes over an element without looking inside. It has to be closed. -/
def passOver (tag : Tag) (children : List Node) : Except Fault Unit :=
  match children.getLast? with
  | some (.cut (some fault)) => .error fault
  | some (.cut none) =>
    .error (.unclosedElement (match tag.name with
      | .ok name => String.ofList name
      | .error _ => ""))
  | _ => .ok ()

end Node

def Attribute.resolved (a : Attribute) : Except Fault String := do
  return String.ofList (← valueText (← a.value))

end FeedIngest.Markup
