import XmlQuery.Encoding.Utf8
import XmlQuery.Url.DomainName

/-!
# Hosts

The host of a URL is an address or a name. A name may be written with percent escapes, which
stand for bytes of UTF-8; it may not hold what separates the parts of a URL.

## Main definitions

* `UrlError`: why a text is not a URL
* `unescape`: the bytes of a text with percent escapes
* `checkHost`: the host of a scheme whose hosts are names of the network
* `checkOpaqueHost`: the host of any other scheme
-/

namespace XmlQuery.Url

open Text

/-- Why a text is not a URL. -/
inductive UrlError
  /-- There is no scheme. -/
  | relative
  /-- There is no host where one has to be. -/
  | emptyHost
  /-- The name of the host is not one that can be written in ASCII. -/
  | invalidName
  /-- The host has a character that hosts of the scheme do not have. -/
  | invalidCharacter
  /-- The host ends in a number and is not an IPv4 address. -/
  | invalidIpv4
  /-- The host is in brackets and is not an IPv6 address. -/
  | invalidIpv6
  /-- The port is not a number of sixteen bits. -/
  | invalidPort
  deriving DecidableEq

/-- The wording of the error. -/
def UrlError.message : UrlError → String
  | .relative => "relative URL without a base"
  | .emptyHost => "empty host"
  | .invalidName => "invalid international domain name"
  | .invalidCharacter => "invalid domain character"
  | .invalidIpv4 => "invalid IPv4 address"
  | .invalidIpv6 => "invalid IPv6 address"
  | .invalidPort => "invalid port number"

/-- The bytes of a text in which a percent sign and two hexadecimal digits stand for a byte. -/
def unescape : List Char → List UInt8
  | [] => []
  | [c] => Utf8.encode [c]
  | [c, d] => Utf8.encode [c, d]
  | c :: high :: low :: rest =>
    match c, Hex.digit? 16 high, Hex.digit? 16 low with
    | '%', some h, some l => UInt8.ofNat (16 * h + l) :: unescape rest
    | _, _, _ => Utf8.encode [c] ++ unescape (high :: low :: rest)

/-- A character that hosts without a meaning of their own do not have. -/
def isForbiddenInOpaque (c : Char) : Bool := "\x00\t\n\r #/:<>?@[\\]^|".contains c

/-- The IPv6 address in a host that starts with a bracket. -/
def checkBracketed (inside : List Char) : Except UrlError Unit :=
  if inside.getLast? = some ']' ∧ isIpv6 inside.dropLast then .ok () else .error .invalidIpv6

/-- The name of a host, or the address that it has to be if it ends in a number. -/
def checkName (bytes : List UInt8) : Except UrlError Unit :=
  match Utf8.decode bytes with
  | .error _ => .error .invalidName
  | .ok text =>
    match toAscii? text with
    | none => .error .invalidName
    | some name =>
      if name.isEmpty then .error .emptyHost
      else if endsInNumber name && !isIpv4 name then .error .invalidIpv4
      else .ok ()

/-- The host of a scheme whose hosts are names of the network. -/
def checkHost : List Char → Except UrlError Unit
  | '[' :: inside => checkBracketed inside
  | host => checkName (unescape host)

/-- The host of a scheme whose hosts have no meaning of their own. -/
def checkOpaqueHost : List Char → Except UrlError Unit
  | '[' :: inside => checkBracketed inside
  | host => if host.any isForbiddenInOpaque then .error .invalidCharacter else .ok ()

end XmlQuery.Url
