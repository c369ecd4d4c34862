import XmlQuery.Text.Hex

/-!
# Numeric addresses

The hosts of URLs that are numbers: IPv4 addresses, whose parts may be decimal, octal or
hexadecimal and may be fewer than four, and IPv6 addresses without their brackets.

## Main definitions

* `parts`: the pieces of a text between separators
* `endsInNumber`: a host that has to be an IPv4 address
* `isIpv4`: an IPv4 address
* `isIpv6`: an IPv6 address
-/

namespace XmlQuery.Url

open Text

/-- The pieces of a text between separators, one more than there are separators. -/
def parts (separator : Char) : List Char → List (List Char)
  | [] => [[]]
  | c :: rest =>
    if c = separator then [] :: parts separator rest
    else
      match parts separator rest with
      | [] => [[c]]
      | first :: others => (c :: first) :: others

/-- A decimal digit. -/
def isDecimal (c : Char) : Bool := (Hex.digit? 10 c).isSome

/-- A hexadecimal digit. -/
def isHexadecimal (c : Char) : Bool := (Hex.digit? 16 c).isSome

/-! ## IPv4 -/

/-- The number that a part of an IPv4 address denotes: hexadecimal after `0x`, octal after a
leading zero, and decimal otherwise. No digits after `0x` denote zero. -/
def partNumber? : List Char → Option Nat
  | [] => none
  | '0' :: 'x' :: digits | '0' :: 'X' :: digits =>
    if digits.isEmpty then some 0 else Hex.number? 16 digits
  | ['0'] => some 0
  | '0' :: digits => Hex.number? 8 digits
  | digits => Hex.number? 10 digits

/-- The parts of a host between dots; a dot at the end does not count. -/
def hostParts (host : List Char) : List (List Char) :=
  let all := parts '.' host
  if all.getLast? = some [] then all.dropLast else all

/-- The last part of a host is a number, so the host has to be an IPv4 address. -/
def endsInNumber (host : List Char) : Bool :=
  match (hostParts host).getLast? with
  | none => false
  | some part => (!part.isEmpty && part.all isDecimal) || (partNumber? part).isSome

/-- The host is an IPv4 address: at most four numbers, each but the last one a byte, and the last
one within the bytes that are left. -/
def isIpv4 (host : List Char) : Bool :=
  match (hostParts host).mapM partNumber? with
  | none => false
  | some numbers =>
    match numbers.reverse with
    | [] => false
    | last :: others =>
      others.length < 4 && others.all (· < 256) && last < Nat.pow 256 (4 - others.length)

/-! ## IPv6 -/

/-- A byte in decimal digits without leading zeros. -/
def isDecimalByte (digits : List Char) : Bool :=
  (digits.length ≤ 1 || digits.head? != some '0') && digits.all isDecimal &&
    (Hex.number? 10 digits).any (· < 256)

/-- Four bytes in decimal digits, with dots between them. -/
def isDottedQuad (text : List Char) : Bool :=
  let bytes := parts '.' text
  bytes.length == 4 && bytes.all isDecimalByte

/-- The text continues an IPv6 address by `left` groups, or by fewer if groups have been left out
by a double colon. The last two groups may be written as four bytes. -/
def isGroups : (left : Nat) → (shortened : Bool) → List Char → Bool
  | left, shortened, [] => shortened || left == 0
  | 0, _, _ :: _ => false
  | left + 1, shortened, c :: rest =>
    if c = ':' then !shortened && isGroups left true rest
    else
      let digits := ((c :: rest).take 4).takeWhile isHexadecimal
      match (c :: rest).drop digits.length with
      | [] => isGroups left shortened []
      | [':'] => false
      | ':' :: others => isGroups left shortened others
      | '.' :: _ =>
        (left == 1 || (left > 1 && shortened)) && isDottedQuad (c :: rest)
      | _ => false

/-- The text between the brackets of a host is an IPv6 address. -/
def isIpv6 : List Char → Bool
  | ':' :: ':' :: rest => isGroups 7 true rest
  | ':' :: _ => false
  | [_] => false
  | text => isGroups 8 false text

end XmlQuery.Url
