import FeedIngest.Text.Blank

/-!
# Faults of markup

What can be wrong with a marked-up document, and the wording of each fault.
-/

set_option autoImplicit false

namespace FeedIngest.Markup

/-- What can be wrong with a numeric character reference. -/
inductive NumberFault where
  | empty
  | badDigit
  | tooLarge
  | signed
  | null
  | noCharacter (number : Nat)
deriving DecidableEq, Repr

def NumberFault.message : NumberFault → String
  | empty => "cannot parse integer from empty string"
  | badDigit => "invalid digit found in string"
  | tooLarge => "number too large to fit in target type"
  | signed => "unexpected number sign"
  | null => "0x0 character is not permitted in XML"
  | noCharacter n => "`" ++ Text.decimal n ++ "` is not a valid codepoint"

/-- Markup that the end of the document leaves open. -/
inductive Unclosed where
  | tag
  | comment
  | cdata
  | declaration
  | instruction
  | doctype
  | value (quote : Char)
deriving DecidableEq, Repr

def Unclosed.message : Unclosed → String
  | tag => "tag not closed: `>` not found before end of input"
  | comment => "comment not closed: `-->` not found before end of input"
  | cdata => "CDATA not closed: `]]>` not found before end of input"
  | declaration => "XML declaration not closed: `?>` not found before end of input"
  | instruction => "processing instruction not closed: `?>` not found before end of input"
  | doctype => "DOCTYPE not closed: `>` not found before end of input"
  | value quote =>
    "attribute value not closed: `" ++ quote.toString ++ "` not found before end of input"

inductive Fault where
  | unclosed (what : Unclosed)
  /-- Markup after an exclamation mark that is none of the known kinds. -/
  | unknownMarkup
  | namelessDoctype
  | mismatched (expected found : String)
  | unmatched (found : String)
  | unclosedElement (name : String)
  | unclosedReference
  | number (fault : NumberFault)
  | unknownEntity (start stop : Nat) (name : String)
  /-- An ampersand in an attribute value without a semicolon, with the place it spoils. -/
  | unterminatedEntity (start stop : Nat)
  | undecodable (characterSet : String)
deriving DecidableEq, Repr

namespace Fault

def range (start stop : Nat) : String := Text.decimal start ++ ".." ++ Text.decimal stop

def message : Fault → String
  | unclosed what => "syntax error: " ++ what.message
  | unknownMarkup => "syntax error: unknown or missed symbol in markup"
  | namelessDoctype =>
    "ill-formed document: `<!DOCTYPE>` declaration does not contain a name of a document type"
  | mismatched expected found =>
    "ill-formed document: expected `</" ++ expected ++ ">`, but `</" ++ found ++ ">` was found"
  | unmatched found =>
    "ill-formed document: close tag `</" ++ found ++ ">` does not match any open tag"
  | unclosedElement name =>
    "ill-formed document: start tag not closed: `</" ++ name ++
      ">` not found before end of input"
  | unclosedReference =>
    "ill-formed document: entity or character reference not closed: `;` not found before " ++
      "end of input"
  | number fault => "invalid character reference: " ++ fault.message
  | unknownEntity start stop name =>
    "at " ++ range start stop ++ ": unrecognized entity `" ++ name ++ "`"
  | unterminatedEntity start stop =>
    "Error while escaping character at range " ++ range start stop ++
      ": Cannot find ';' after '&'"
  | undecodable characterSet => "cannot decode input using " ++ characterSet

end Fault

end FeedIngest.Markup
