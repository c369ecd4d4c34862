import XmlQuery.Markup.Char

/-!
# Events

The constructs of a document in the order in which they are written.

## Main definitions

* `Attribute`: an attribute of a start tag
* `Event`: a construct
-/

namespace XmlQuery.Markup

/-- An attribute of a start tag, with its name as written and its value decoded. -/
structure Attribute where
  /-- The name as written. -/
  name : String
  /-- The value, with references replaced. -/
  value : String
  /-- The byte at which the name starts. -/
  offset : Nat
  deriving DecidableEq

namespace Attribute

/-- The prefix as written: what stands before the first colon. -/
def nsPrefix? (a : Attribute) : Option String :=
  match splitColon a.name.toList with
  | (before, some _) => some (String.ofList before)
  | (_, none) => none

/-- The local part as written: what stands after the first colon. -/
def localName (a : Attribute) : String :=
  match splitColon a.name.toList with
  | (_, some after) => String.ofList after
  | (_, none) => a.name

/-- The attribute declares a namespace. -/
def isDeclaration (a : Attribute) : Bool :=
  a.name == "xmlns" || a.nsPrefix? == some "xmlns"

end Attribute

/-- A construct of a document. -/
inductive Event
  /-- The XML declaration, with its content. -/
  | declaration (content : String)
  /-- A start tag, or the tag of an empty element. -/
  | startTag (name : String) (attributes : List Attribute) (isEmpty : Bool)
  /-- An end tag. -/
  | endTag (name : String)
  /-- Plain text, with references replaced. -/
  | text (data : String)
  /-- A CDATA section. -/
  | cdata (data : String)
  /-- A comment. -/
  | comment (data : String)
  /-- A processing instruction. -/
  | instruction (target content : String)
  /-- A document type declaration, from its keyword on. -/
  | doctype (body : String)
  deriving DecidableEq

end XmlQuery.Markup
