import XmlQuery.Namespace.Scope
import XmlQuery.Text.Hex

/-!
# Faults of markup

Every way in which a document can be refused, with its wording.

## Main definitions

* `ErrorKind`: what is wrong
* `ErrorKind.message`: its wording
* `Fault`: what is wrong and at which byte
-/

namespace XmlQuery.Markup

open Namespace (DeclarationFault)

/-- What a reader was looking for. -/
inductive Expected
  /-- The name of an attribute. -/
  | attributeName
  /-- The sign between the name and the value of an attribute. -/
  | equalsSign
  /-- The value of an attribute. -/
  | quotedValue
  /-- White space in front of an attribute. -/
  | attributeBlank
  /-- The name of an element. -/
  | elementName
  /-- The end of an end tag. -/
  | endTagClose
  /-- The end of the tag of an empty element. -/
  | emptyTagClose
  /-- The target of a processing instruction. -/
  | instructionTarget
  /-- White space between the target and the content of a processing instruction. -/
  | instructionBlank
  /-- The version of an XML declaration. -/
  | declarationVersion
  /-- One of the kinds of markup that start with an exclamation mark. -/
  | exclamationMarkup
  /-- White space after the keyword of a document type declaration. -/
  | doctypeBlank
  deriving DecidableEq

/-- The wording of what was looked for. -/
def Expected.text : Expected → String
  | .attributeName => "attribute name"
  | .equalsSign => "'=' after attribute name"
  | .quotedValue => "quoted attribute value"
  | .attributeBlank => "whitespace before attribute"
  | .elementName => "element name"
  | .endTagClose => "'>' to close end tag"
  | .emptyTagClose => "'/>'"
  | .instructionTarget => "processing instruction target"
  | .instructionBlank => "whitespace after processing instruction target"
  | .declarationVersion => "version in XML declaration"
  | .exclamationMarkup => "comment, CDATA section or DOCTYPE"
  | .doctypeBlank => "whitespace after DOCTYPE"

/-- Character data that only an element may hold. -/
inductive CharacterData
  /-- Plain text. -/
  | text
  /-- A CDATA section. -/
  | cdata
  deriving DecidableEq

/-- The wording of a kind of character data. -/
def CharacterData.label : CharacterData → String
  | .text => "text"
  | .cdata => "CDATA section"

/-- What is wrong with a document. -/
inductive ErrorKind
  /-- The text ends inside a construct. -/
  | unexpectedEof
  /-- The bytes are not UTF-8. -/
  | invalidUtf8
  /-- The bytes are not UTF-16. -/
  | invalidUtf16
  /-- A document may not hold the character. -/
  | invalidChar (code : Nat)
  /-- The name is not a qualified name. -/
  | invalidName (name : String)
  /-- Something else stands where this was looked for. -/
  | expected (what : Expected)
  /-- An end tag names another element than the open one. -/
  | tagMismatch (opened closed : String)
  /-- An end tag stands where no element is open. -/
  | unexpectedEndTag (name : String)
  /-- An element is open at the end. -/
  | unclosedTag (name : String)
  /-- An element has two attributes of one name. -/
  | duplicateAttribute (name : String)
  /-- The sign that opens tags stands in an attribute value. -/
  | ltInAttributeValue
  /-- A reference names an entity that is not predefined. -/
  | unknownEntity (name : String)
  /-- An ampersand starts no reference. -/
  | malformedReference
  /-- Two hyphens stand inside a comment. -/
  | doubleHyphenInComment
  /-- The end of a CDATA section stands in text. -/
  | cdataEndInText
  /-- The XML declaration is not at the start. -/
  | misplacedDeclaration
  /-- The target of a processing instruction is reserved. -/
  | reservedInstructionTarget (target : String)
  /-- A document type declaration is repeated or stands after the start of the root element. -/
  | misplacedDoctype
  /-- There is no root element. -/
  | noRootElement
  /-- There are two root elements. -/
  | multipleRoots
  /-- Character data stands outside the root element. -/
  | outsideRoot (what : CharacterData)
  /-- A prefix is not bound. -/
  | undeclaredPrefix (nsPrefix : String)
  /-- A namespace declaration is refused. -/
  | invalidNamespaceDeclaration (fault : DeclarationFault)
  deriving DecidableEq

/-- The wording of what is wrong. -/
def ErrorKind.message : ErrorKind → String
  | .unexpectedEof => "unexpected end of input"
  | .invalidUtf8 => "input is not valid UTF-8"
  | .invalidUtf16 => "invalid UTF-16 input"
  | .invalidChar code => "character U+" ++ Text.Hex.upper 4 code ++ " is not allowed in XML"
  | .invalidName name => "invalid name '" ++ name ++ "'"
  | .expected what => "expected " ++ what.text
  | .tagMismatch opened closed => "tag mismatch: <" ++ opened ++ "> closed with </" ++ closed ++ ">"
  | .unexpectedEndTag name => "unexpected end tag </" ++ name ++ ">"
  | .unclosedTag name => "unclosed tag <" ++ name ++ ">"
  | .duplicateAttribute name => "duplicate attribute '" ++ name ++ "'"
  | .ltInAttributeValue => "'<' is not allowed in attribute values"
  | .unknownEntity name => "unknown entity '&" ++ name ++ ";'"
  | .malformedReference => "malformed character or entity reference"
  | .doubleHyphenInComment => "'--' is not allowed inside comments"
  | .cdataEndInText => "']]>' is not allowed in text content"
  | .misplacedDeclaration => "XML declaration is only allowed at the start of the document"
  | .reservedInstructionTarget target =>
    "processing instruction target '" ++ target ++ "' is reserved"
  | .misplacedDoctype => "DOCTYPE is only allowed once, before the root element"
  | .noRootElement => "document has no root element"
  | .multipleRoots => "document has more than one root element"
  | .outsideRoot what => what.label ++ " is not allowed outside the root element"
  | .undeclaredPrefix p => "namespace prefix '" ++ p ++ "' is not declared"
  | .invalidNamespaceDeclaration fault => "invalid namespace declaration: " ++ fault.message

/-- What is wrong, and the byte at which it is. -/
structure Fault where
  /-- The byte offset in the text. -/
  offset : Nat
  /-- What is wrong. -/
  kind : ErrorKind
  deriving DecidableEq

end XmlQuery.Markup
