/-!
# Characters and names of markup

The character classes of XML 1.0 (fifth edition) and the names of the namespace recommendation
that are built on them.

## Main definitions

* `isChar`: the characters that a document may hold
* `isNameStart`, `isNameChar`: the characters of names
* `isNCName`: a name without a colon
* `splitQName?`: the prefix and the local part of a qualified name
-/

namespace XmlQuery.Markup

/-- The character may occur in a document. -/
def isChar (c : Char) : Bool :=
  let n := c.toNat
  n == 0x9 || n == 0xA || n == 0xD || (0x20 ≤ n && n ≤ 0xD7FF) || (0xE000 ≤ n && n ≤ 0xFFFD) ||
    (0x10000 ≤ n && n ≤ 0x10FFFF)

/-- A name may start with the character. -/
def isNameStart (c : Char) : Bool :=
  let n := c.toNat
  c == ':' || c == '_' || ('A' ≤ c && c ≤ 'Z') || ('a' ≤ c && c ≤ 'z') ||
    (0xC0 ≤ n && n ≤ 0xD6) || (0xD8 ≤ n && n ≤ 0xF6) || (0xF8 ≤ n && n ≤ 0x2FF) ||
    (0x370 ≤ n && n ≤ 0x37D) || (0x37F ≤ n && n ≤ 0x1FFF) || (0x200C ≤ n && n ≤ 0x200D) ||
    (0x2070 ≤ n && n ≤ 0x218F) || (0x2C00 ≤ n && n ≤ 0x2FEF) || (0x3001 ≤ n && n ≤ 0xD7FF) ||
    (0xF900 ≤ n && n ≤ 0xFDCF) || (0xFDF0 ≤ n && n ≤ 0xFFFD) || (0x10000 ≤ n && n ≤ 0xEFFFF)

/-- A name may go on with the character. -/
def isNameChar (c : Char) : Bool :=
  let n := c.toNat
  isNameStart c || c == '-' || c == '.' || ('0' ≤ c && c ≤ '9') || n == 0xB7 ||
    (0x300 ≤ n && n ≤ 0x36F) || (0x203F ≤ n && n ≤ 0x2040)

/-- A name without a colon may start with the character. -/
def isNCNameStart (c : Char) : Bool := c != ':' && isNameStart c

/-- A name without a colon may go on with the character. -/
def isNCNameChar (c : Char) : Bool := c != ':' && isNameChar c

/-- The text is a name. -/
def isName : List Char → Bool
  | [] => false
  | c :: rest => isNameStart c && rest.all isNameChar

/-- The text is a name without a colon. -/
def isNCName : List Char → Bool
  | [] => false
  | c :: rest => isNCNameStart c && rest.all isNCNameChar

/-- What stands before and after the first colon of a name. -/
def splitColon (name : List Char) : List Char × Option (List Char) :=
  match name.dropWhile (· != ':') with
  | [] => (name, none)
  | _ :: after => (name.takeWhile (· != ':'), some after)

/-- The prefix, if any, and the local part of a qualified name. -/
def splitQName? (name : List Char) : Option (Option (List Char) × List Char) :=
  match splitColon name with
  | (before, some after) =>
    if isNCName before && isNCName after then some (some before, after) else none
  | (whole, none) => if isNCName whole then some (none, whole) else none

end XmlQuery.Markup
