import XmlQuery.Document.Tree
import XmlQuery.Markup.Reader
import XmlQuery.Namespace.Scope

/-!
# From events to trees

Events are taken one by one. Open elements are kept in a stack, each with the contents it has so
far; an end tag closes the innermost one. Start tags declare namespaces and resolve their names
in the scope that results. The table of a document is not made from the trees: it is what they say
about it that its arena has to show.

## Main definitions

* `Builder`: the open elements, the finished trees and the scope
* `Builder.step`: taking one event
* `Builder.finish`: the end of the events
* `buildTrees`: the trees of a reading of a document
-/

namespace XmlQuery

open Markup (Attribute Event ErrorKind Fault Placed Reading)
open Namespace (Scope)

/-- An open element. -/
structure OpenElement where
  /-- The name as written. -/
  written : String
  /-- The name. -/
  name : Name
  /-- The attributes. -/
  attributes : List TreeAttribute
  /-- The contents so far, the latest first. -/
  contents : List Tree

/-- The state between two events. -/
structure Builder where
  /-- The open elements, the innermost first. -/
  opened : List OpenElement
  /-- The trees at the top of the document, the latest first. -/
  top : List Tree
  /-- The bindings of prefixes in force. -/
  scope : Scope

namespace Builder

/-- The state in front of a document. -/
def start : Builder := ⟨[], [], .initial⟩

/-- No element is open. -/
def atTop (b : Builder) : Bool := b.opened.isEmpty

/-- The root element has been closed, if none is open. -/
def hasRoot (b : Builder) : Bool := b.top.any (·.isElement)

/-- The state with a further tree in the innermost element or at the top. -/
def add (b : Builder) (t : Tree) : Builder :=
  match b.opened with
  | [] => { b with top := t :: b.top }
  | e :: outer => { b with opened := { e with contents := t :: e.contents } :: outer }

/-- The prefix that a declaration attribute declares; none for the default namespace. -/
def declaredPrefix? (a : Attribute) : Option String :=
  a.nsPrefix?.map fun _ => a.localName

/-- The scope after a namespace declaration. -/
def declare (s : Scope) (a : Attribute) : Except Fault Scope :=
  let declared : Except ErrorKind Scope :=
    match declaredPrefix? a with
    | none => (s.declareDefault a.value).mapError .invalidNamespaceDeclaration
    | some p =>
      if Markup.isNCName p.toList then
        (s.declare p a.value).mapError .invalidNamespaceDeclaration
      else .error (.invalidName a.name)
  declared.mapError fun kind => ⟨a.offset, kind⟩

/-- The scope after the namespace declarations of a tag. -/
def declareAll (s : Scope) (attributes : List Attribute) : Except Fault Scope :=
  (attributes.filter (·.isDeclaration)).foldlM declare s

/-- The name of an element: without a prefix it is in the default namespace. -/
def elementName (s : Scope) (written : String) : Except ErrorKind Name :=
  match Markup.splitQName? written.toList with
  | none => .error (.invalidName written)
  | some (none, part) => .ok ⟨"", String.ofList part, s.default⟩
  | some (some p, part) =>
    match s.resolve? (String.ofList p) with
    | none => .error (.undeclaredPrefix (String.ofList p))
    | some uri => .ok ⟨String.ofList p, String.ofList part, uri⟩

/-- The name of an attribute that declares no namespace: without a prefix it is in none. -/
def attributeName (s : Scope) (written : String) : Except ErrorKind Name :=
  match Markup.splitQName? written.toList with
  | none => .error (.invalidName written)
  | some (none, part) => .ok ⟨"", String.ofList part, ""⟩
  | some (some p, part) =>
    match s.resolve? (String.ofList p) with
    | none => .error (.undeclaredPrefix (String.ofList p))
    | some uri => .ok ⟨String.ofList p, String.ofList part, uri⟩

/-- The name of an attribute that declares a namespace. -/
def declarationName (a : Attribute) : Name :=
  ⟨a.nsPrefix?.getD "", a.localName, Namespace.xmlnsUri⟩

/-- An attribute with its name resolved. -/
def resolveAttribute (s : Scope) (a : Attribute) : Except ErrorKind TreeAttribute :=
  if a.isDeclaration then .ok ⟨declarationName a, a.value, true⟩
  else (attributeName s a.name).map fun name => ⟨name, a.value, false⟩

/-- Two attributes that declare no namespace have the same namespace and local part. -/
def sameExpanded (a b : TreeAttribute) : Bool :=
  !a.isDeclaration && !b.isDeclaration && a.name.uri == b.name.uri &&
    a.name.localPart == b.name.localPart

/-- The attributes of a tag with their names resolved, after those in `seen` and `earlier`,
which hold the same attributes, the latest first. -/
def resolveAttributes (s : Scope) (seen : List Attribute) (earlier : List TreeAttribute) :
    List Attribute → Except Fault (List TreeAttribute)
  | [] => .ok []
  | a :: rest =>
    if seen.any (·.name == a.name) then .error ⟨a.offset, .duplicateAttribute a.name⟩
    else
      match resolveAttribute s a with
      | .error kind => .error ⟨a.offset, kind⟩
      | .ok resolved =>
        if earlier.any (sameExpanded resolved) then
          .error ⟨a.offset, .duplicateAttribute a.name⟩
        else
          match resolveAttributes s (a :: seen) (resolved :: earlier) rest with
          | .error fault => .error fault
          | .ok others => .ok (resolved :: others)

/-- Taking a start tag. -/
def openElement (b : Builder) (offset : Nat) (written : String) (attributes : List Attribute)
    (isEmpty : Bool) : Except Fault Builder := do
  if b.atTop && b.hasRoot then throw ⟨offset, .multipleRoots⟩
  let scope ← declareAll b.scope.push attributes
  let name ← (elementName scope written).mapError fun kind => ⟨offset + 1, kind⟩
  let resolved ← resolveAttributes scope [] [] attributes
  if isEmpty then
    .ok { b.add (.element name resolved []) with scope := scope.pop }
  else
    .ok { b with opened := ⟨written, name, resolved, []⟩ :: b.opened, scope := scope }

/-- Taking an end tag. -/
def closeElement (b : Builder) (offset : Nat) (written : String) : Except Fault Builder :=
  match b.opened with
  | [] => .error ⟨offset, .unexpectedEndTag written⟩
  | e :: outer =>
    if e.written = written then
      let closed := Tree.element e.name e.attributes e.contents.reverse
      .ok { ({ b with opened := outer } : Builder).add closed with scope := b.scope.pop }
    else .error ⟨offset, .tagMismatch e.written written⟩

/-- Taking an event that starts at a byte offset. -/
def step (b : Builder) (offset : Nat) : Event → Except Fault Builder
  | .declaration content => .ok (b.add (.leaf (.declaration "xml") content))
  | .instruction target content => .ok (b.add (.leaf (.declaration target) content))
  | .comment data => .ok (b.add (.leaf .comment data))
  | .doctype body =>
    if !b.atTop || b.top.any (·.isDoctype) || b.hasRoot then .error ⟨offset, .misplacedDoctype⟩
    else .ok (b.add (.leaf .doctype body))
  | .text data =>
    if b.atTop then
      if data.toList.all Text.isBlank then .ok b else .error ⟨offset, .outsideRoot .text⟩
    else .ok (b.add (.leaf .text data))
  | .cdata data =>
    if b.atTop then .error ⟨offset, .outsideRoot .cdata⟩
    else .ok (b.add (.leaf .cdata data))
  | .startTag name attributes isEmpty => b.openElement offset name attributes isEmpty
  | .endTag name => b.closeElement offset name

/-- Taking events in order. -/
def run (b : Builder) (events : List Placed) : Except Fault Builder :=
  events.foldlM (fun b e => b.step e.offset e.event) b

/-- The trees at the end of the events, which is at a byte offset. -/
def finish (b : Builder) (offset : Nat) : Except Fault (List Tree) :=
  match b.opened with
  | e :: _ => .error ⟨offset, .unclosedTag e.written⟩
  | [] => if b.hasRoot then .ok b.top.reverse else .error ⟨offset, .noRootElement⟩

end Builder

/-- The trees of a document that has been read. A fault in the nesting of its events comes
before the failure at which reading stopped. -/
def buildTrees (reading : Reading) : Except Fault (List Tree) :=
  match Builder.start.run reading.events with
  | .error fault => .error fault
  | .ok b =>
    match reading.outcome with
    | .error failure => .error failure.fault
    | .ok offset => b.finish offset

end XmlQuery
