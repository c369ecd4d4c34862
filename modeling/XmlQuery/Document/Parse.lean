import XmlQuery.Document.Assembly
import XmlQuery.Encoding.Detect
import XmlQuery.Markup.Position

/-!
# Parsing documents

## Main definitions

* `Document.parseText`: the document that a text is
* `Document.parse`: the document that a byte sequence is
-/

namespace XmlQuery.Document

open Markup (Fault ParseError)

/-- The document that a text is, or the first fault in it. -/
def ofText (text : List Char) : Except Fault Document :=
  (Arena.ofReading Text.Register (Markup.readAll text)).map Arena.document

/-- The document that a text is, or what is wrong with it and where. -/
def parseText (text : List Char) : Except ParseError Document :=
  (ofText text).mapError (.ofFault (Utf8.encode text))

/-- The document that a byte sequence is, or what is wrong with it and where. Places are counted
in the text as UTF-8 without its byte order mark. -/
def parse (bytes : List UInt8) : Except ParseError Document :=
  match toUtf8 bytes with
  | none => .error (.ofFault bytes ⟨0, .invalidUtf16⟩)
  | some utf8 =>
    match Utf8.decode utf8 with
    | .error offset => .error (.ofFault utf8 ⟨offset, .invalidUtf8⟩)
    | .ok text => parseText text

end XmlQuery.Document
