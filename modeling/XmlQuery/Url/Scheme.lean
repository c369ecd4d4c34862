import XmlQuery.Text.Blank
import XmlQuery.Url.Host

/-!
# URLs and their schemes

A URL starts with a scheme, which decides how the rest is read. The schemes of the network are
followed by a host and perhaps by a port; other schemes have a host after two slashes only.

## Main definitions

* `splitScheme?`: the scheme at the front of a text
* `checkAuthority`: user, host and port
* `scheme`: the scheme of a URL, or why the text is not one
-/

namespace XmlQuery.Url

open Text

/-- How the host of a URL is read. -/
inductive SchemeKind
  /-- A scheme of the network: there is a host, and it is a name or an address. -/
  | network
  /-- The scheme of files: there may be a host. -/
  | file
  /-- Any other scheme. -/
  | other
  deriving DecidableEq

/-- The kind of a scheme. -/
def SchemeKind.of (scheme : String) : SchemeKind :=
  if ["http", "https", "ws", "wss", "ftp"].contains scheme then .network
  else if scheme = "file" then .file
  else .other

/-- A text without control characters and spaces at its ends and without tabs and line ends. -/
def clean (text : List Char) : List Char :=
  let outer (c : Char) : Bool := c.toNat ≤ 0x20
  (trimEnd outer (text.dropWhile outer)).filter fun c => !(c == '\t' || c == '\n' || c == '\r')

/-- A character of a scheme. -/
def isSchemeChar (c : Char) : Bool := c.isAlphanum || c == '+' || c == '-' || c == '.'

/-- The scheme at the front of a text in lower case, and what follows its colon. -/
def splitScheme? (text : List Char) : Option (String × List Char) :=
  match text.dropWhile isSchemeChar with
  | ':' :: rest =>
    if text.head?.any Char.isAlpha then
      some (String.ofList ((text.takeWhile isSchemeChar).map Char.toLower), rest)
    else none
  | _ => none

/-- A character that ends the part of a URL that holds user, host and port. -/
def endsAuthority (kind : SchemeKind) (c : Char) : Bool :=
  c == '/' || c == '?' || c == '#' || (kind != .other && c == '\\')

/-- The user before the last at sign of a text, if there is one, and what follows. -/
def splitUser (text : List Char) : Option (List Char) × List Char :=
  match text.reverse.span (· != '@') with
  | (host, _ :: user) => (some user.reverse, host.reverse)
  | (_, []) => (none, text)

/-- The host at the front of a text, which ends at a colon outside brackets, and the rest. -/
def splitHost : (bracketed : Bool) → List Char → List Char × List Char
  | _, [] => ([], [])
  | bracketed, c :: rest =>
    if c = ':' ∧ ¬bracketed then ([], c :: rest)
    else
      let (host, port) := splitHost (c == '[' || (bracketed && c != ']')) rest
      (c :: host, port)

/-- The digits of a port, from a value on. A backslash ends them. -/
def checkPort : (value : Nat) → List Char → Except UrlError Unit
  | _, [] => .ok ()
  | value, c :: rest =>
    match Hex.digit? 10 c with
    | some digit =>
      if value * 10 + digit < 65536 then checkPort (value * 10 + digit) rest
      else .error .invalidPort
    | none => if c = '\\' then .ok () else .error .invalidPort

/-- The user, the host and the port of a URL. -/
def checkAuthority (kind : SchemeKind) (text : List Char) : Except UrlError Unit := do
  let (user, rest) := splitUser (text.takeWhile (!endsAuthority kind ·))
  let (host, port) := splitHost false rest
  if user = some [] ∧ rest = [] ∧ text.any (endsAuthority kind) then throw .emptyHost
  if kind = .network then
    if host.isEmpty then throw .emptyHost
    checkHost host
  else
    checkOpaqueHost host
    if host.isEmpty ∧ (!port.isEmpty ∨ user.any fun u => u ≠ [] ∧ u ≠ [':']) then throw .emptyHost
  checkPort 0 (port.drop 1)

/-- The text is the letter of a drive and a colon or a bar. -/
def isDrive : List Char → Bool
  | [letter, mark] => letter.isAlpha && (mark == ':' || mark == '|')
  | _ => false

/-- The host of a file, which follows two slashes of either kind. -/
def checkFile : List Char → Except UrlError Unit
  | first :: second :: rest =>
    let isSlash (c : Char) : Bool := c == '/' || c == '\\'
    let host := rest.takeWhile (!endsAuthority .file ·)
    if isSlash first ∧ isSlash second ∧ ¬host.isEmpty ∧ ¬isDrive host then checkHost host
    else .ok ()
  | _ => .ok ()

/-- The scheme of a URL in lower case, or why the text is not a URL. -/
def scheme (text : String) : Except UrlError String :=
  match splitScheme? (clean text.toList) with
  | none => .error .relative
  | some (scheme, rest) => do
    match SchemeKind.of scheme with
    | .network => checkAuthority .network (rest.dropWhile fun c => c == '/' || c == '\\')
    | .file => checkFile rest
    | .other =>
      match rest with
      | '/' :: '/' :: authority => checkAuthority .other authority
      | _ => pure ()
    return scheme

end XmlQuery.Url
