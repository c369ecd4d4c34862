import XmlQuery.Encoding.Utf8
import XmlQuery.Encoding.Utf16

/-!
# Encodings of documents

A document is in UTF-16 if it starts with a byte order mark of UTF-16, or without a mark with
the sign `<` in UTF-16; every other document is taken for UTF-8. A byte order mark is not part
of the text.

## Main definitions

* `Encoding.detect`: the encoding of a byte sequence
* `toUtf8`: the text of a document in UTF-8, not yet checked if that is its encoding
-/

namespace XmlQuery

/-- An encoding of documents. -/
inductive Encoding
  /-- UTF-8. -/
  | utf8
  /-- UTF-16. -/
  | utf16 (order : Utf16.ByteOrder)
  deriving DecidableEq

namespace Encoding

/-- The encoding, decided from the first two bytes. -/
def detect : List UInt8 → Encoding
  | 0xFF :: 0xFE :: _ => .utf16 .little
  | 0xFE :: 0xFF :: _ => .utf16 .big
  | 0x00 :: 0x3C :: _ => .utf16 .big
  | 0x3C :: 0x00 :: _ => .utf16 .little
  | _ => .utf8

/-- The byte order mark of an encoding. -/
def mark : Encoding → List UInt8
  | .utf8 => [0xEF, 0xBB, 0xBF]
  | .utf16 .little => [0xFF, 0xFE]
  | .utf16 .big => [0xFE, 0xFF]

/-- The bytes after a byte order mark, if there is one. -/
def unmark (e : Encoding) (bytes : List UInt8) : List UInt8 :=
  if e.mark.isPrefixOf bytes then bytes.drop e.mark.length else bytes

end Encoding

/-- A document in UTF-8 and without a byte order mark; none if it is ill-formed UTF-16. Bytes
taken for UTF-8 are left as they are. -/
def toUtf8 (bytes : List UInt8) : Option (List UInt8) :=
  let encoding := Encoding.detect bytes
  let body := encoding.unmark bytes
  match encoding with
  | .utf8 => some body
  | .utf16 order => ((Utf16.units order body).bind Utf16.decode).map Utf8.encode

end XmlQuery
