import XmlQuery.Encoding.Utf8
import XmlQuery.Markup.Error

/-!
# Positions

A byte offset is shown as a line and a column, both counted from one. Lines end with a line
feed; columns count characters, and each ill-formed piece of the bytes as one character.

## Main definitions

* `Position.ofOffset`: the position of a byte offset
* `ParseError`: what is wrong with a document, and where
-/

namespace XmlQuery.Markup

/-- A place in a document. -/
structure Position where
  /-- The byte offset. -/
  offset : Nat
  /-- The line, from one. -/
  line : Nat
  /-- The column in characters, from one. -/
  column : Nat
  deriving DecidableEq

namespace Position

/-- The byte that ends a line. -/
def lineFeed : UInt8 := 10

/-- The bytes after the last line feed. -/
def lastLine (bytes : List UInt8) : List UInt8 :=
  (bytes.reverse.takeWhile (· != lineFeed)).reverse

/-- The position of a byte offset, which is at most the number of bytes. -/
def ofOffset (bytes : List UInt8) (offset : Nat) : Position :=
  let offset := min offset bytes.length
  let before := bytes.take offset
  ⟨offset, before.count lineFeed + 1, (Utf8.pieces (lastLine before)).length + 1⟩

/-- A position in words. -/
def text (p : Position) : String :=
  "line " ++ toString p.line ++ ", column " ++ toString p.column

end Position

/-- What is wrong with a document, and where. -/
structure ParseError where
  /-- Where it is. -/
  position : Position
  /-- What is wrong. -/
  kind : ErrorKind
  deriving DecidableEq

namespace ParseError

/-- A fault with its position in a document. -/
def ofFault (bytes : List UInt8) (fault : Fault) : ParseError :=
  ⟨.ofOffset bytes fault.offset, fault.kind⟩

/-- What is wrong and where, in words. -/
def text (e : ParseError) : String :=
  e.kind.message ++ " at " ++ e.position.text

end ParseError

end XmlQuery.Markup
