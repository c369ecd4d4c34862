import XmlQuery.Text.EscapeTable
import XmlQuery.Text.Hex
import XmlQuery.Text.Ranges

/-!
# Quoted texts

## Main definitions

* `quote`: a text in double quotes, with escapes for what would not be seen
-/

namespace XmlQuery.Text

/-- A character in a quoted text. -/
def quoteChar (c : Char) : List Char :=
  if c = '"' ∨ c = '\\' then ['\\', c]
  else if c = '\n' then ['\\', 'n']
  else if c = '\r' then ['\\', 'r']
  else if c = '\t' then ['\\', 't']
  else if c = '\x00' then ['\\', '0']
  else if c.toNat < 0x20 ∨ c.toNat = 0x7F ∨ inRanges hiddenRanges c.toNat then
    '\\' :: 'u' :: '\x7b' :: Nat.toDigits 16 c.toNat ++ ['\x7d']
  else [c]

/-- A text in double quotes, with escapes for what would not be seen. -/
def quote (text : String) : String :=
  "\"" ++ String.ofList (text.toList.flatMap quoteChar) ++ "\""

end XmlQuery.Text
