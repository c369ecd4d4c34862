import XmlQuery.Document.Arena
import XmlQuery.Document.Build
import XmlQuery.Namespace.Resolver

/-!
# Putting documents together

The arena of a document grows event by event. An element is appended when its tag opens it and
closed when its end tag comes, so that between two events the open elements do not know yet where
their subtrees end. Names are resolved by the numbers of their strings.

## Main definitions

* `Assembly`: an arena with its open elements and the bindings in force
* `Assembly.step`: taking one event
* `Assembly.finish`: the end of the events
* `Arena.ofReading`: the arena of a reading of a document
-/

namespace XmlQuery

open Markup (Attribute Event ErrorKind Fault Placed Reading)
open Namespace (Resolver)
open Text (Store)

/-- An element whose end tag has not come yet. -/
structure OpenNode where
  /-- Its place in the arena. -/
  id : Nat
  /-- Its name as written. -/
  written : String

/-- An arena that is put together. -/
structure Assembly (σ ι : Type) where
  /-- The arena so far. -/
  arena : Arena σ ι
  /-- The bindings of prefixes in force. -/
  resolver : Resolver ι
  /-- The open elements, the innermost first. -/
  opened : List OpenNode
  /-- There has been a document type declaration. -/
  hasDoctype : Bool

namespace Assembly

variable {σ ι : Type} [Store σ ι] [OfNat ι 0] [DecidableEq ι]

/-- The assembly in front of a document: the document node alone. -/
def start : Assembly σ ι :=
  let (resolver, strings) := Resolver.new (Store.empty : σ)
  ⟨⟨[.new .document none].toArray, strings, none⟩, resolver, [], false⟩

/-- The node in which contents stand: the innermost open element, or the document. -/
def holder (b : Assembly σ ι) : Nat := (b.opened.head?.map (·.id)).getD 0

/-- The number of a string, and the assembly with the string in its store. -/
def intern (b : Assembly σ ι) (s : String) : ι × Assembly σ ι :=
  let (id, strings) := Store.intern b.arena.strings s
  (id, { b with arena := { b.arena with strings := strings } })

/-- The assembly with a further node, linked to its parent. -/
def append (b : Assembly σ ι) (n : ArenaNode ι) : Assembly σ ι :=
  { b with arena := b.arena.append n }

/-- The assembly with a leaf in a node. -/
def addLeaf (b : Assembly σ ι) (kind : NodeKind) (parent : Nat) (data : String) : Assembly σ ι :=
  let (value, b) := b.intern data
  b.append (.leaf kind parent value)

/-- The assembly with the XML declaration or a processing instruction in a node. -/
def addDeclaration (b : Assembly σ ι) (parent : Nat) (target content : String) : Assembly σ ι :=
  let (target, b) := b.intern target
  let (value, b) := b.intern content
  b.append (.declaration parent target value)

/-! ## Tags -/

/-- The assembly after a namespace declaration. -/
def declare (b : Assembly σ ι) (a : Attribute) : Except Fault (Assembly σ ι) :=
  let (uri, b) := b.intern a.value
  let declared : Except ErrorKind (Assembly σ ι) :=
    match Builder.declaredPrefix? a with
    | none =>
      ((b.resolver.declareDefault uri).mapError .invalidNamespaceDeclaration).map
        fun resolver => { b with resolver }
    | some p =>
      if Markup.isNCName p.toList then
        let (nsPrefix, b) := b.intern p
        ((b.resolver.declare nsPrefix uri b.arena.strings).mapError
          .invalidNamespaceDeclaration).map fun resolver => { b with resolver }
      else .error (.invalidName a.name)
  declared.mapError fun kind => ⟨a.offset, kind⟩

/-- The name of an element: without a prefix it is in the default namespace. -/
def elementName (b : Assembly σ ι) (written : String) :
    Except ErrorKind (NumberedName ι × Assembly σ ι) :=
  match Markup.splitQName? written.toList with
  | none => .error (.invalidName written)
  | some (none, part) =>
    let uri := b.resolver.default
    let (localPart, b) := b.intern (String.ofList part)
    .ok (⟨0, localPart, uri⟩, b)
  | some (some p, part) =>
    let (nsPrefix, b) := b.intern (String.ofList p)
    match b.resolver.resolve? nsPrefix with
    | none => .error (.undeclaredPrefix (String.ofList p))
    | some uri =>
      let (localPart, b) := b.intern (String.ofList part)
      .ok (⟨nsPrefix, localPart, uri⟩, b)

/-- The name of an attribute that declares no namespace: without a prefix it is in none. -/
def attributeName (b : Assembly σ ι) (written : String) :
    Except ErrorKind (NumberedName ι × Assembly σ ι) :=
  match Markup.splitQName? written.toList with
  | none => .error (.invalidName written)
  | some (none, part) =>
    let (localPart, b) := b.intern (String.ofList part)
    .ok (⟨0, localPart, 0⟩, b)
  | some (some p, part) =>
    let (localPart, b) := b.intern (String.ofList part)
    let (nsPrefix, b) := b.intern (String.ofList p)
    match b.resolver.resolve? nsPrefix with
    | none => .error (.undeclaredPrefix (String.ofList p))
    | some uri => .ok (⟨nsPrefix, localPart, uri⟩, b)

/-- The node of an attribute of an element. -/
def attributeNode (b : Assembly σ ι) (element : Nat) (a : Attribute) :
    Except ErrorKind (ArenaNode ι × Assembly σ ι) :=
  let (value, b) := b.intern a.value
  let node : ArenaNode ι := { (.new .attribute (some element) : ArenaNode ι) with value }
  if a.isDeclaration then
    let (nsPrefix, b) := b.intern (a.nsPrefix?.getD "")
    let (localPart, b) := b.intern a.localName
    .ok ({ node with name := ⟨nsPrefix, localPart, b.resolver.xmlnsUri⟩, isDeclaration := true }, b)
  else (b.attributeName a.name).map fun (name, b) => ({ node with name }, b)

/-- The assembly with the attributes of an element behind those in `seen`, the latest first, of
which `expanded` has the namespaces and local parts. Attributes are linked to no other node. -/
def addAttributes (element : Nat) (seen : List Attribute) (expanded : List (ι × ι))
    (b : Assembly σ ι) : List Attribute → Except Fault (Assembly σ ι)
  | [] => .ok b
  | a :: rest =>
    if seen.any (·.name == a.name) then .error ⟨a.offset, .duplicateAttribute a.name⟩
    else
      match b.attributeNode element a with
      | .error kind => .error ⟨a.offset, kind⟩
      | .ok (node, b) =>
        let key := (node.name.uri, node.name.localPart)
        if !node.isDeclaration && expanded.contains key then
          .error ⟨a.offset, .duplicateAttribute a.name⟩
        else
          addAttributes element (a :: seen)
            (if node.isDeclaration then expanded else key :: expanded)
            { b with arena := b.arena.push node } rest

/-- The assembly with an element in the innermost node. In the document it is the root element. -/
def addElement (b : Assembly σ ι) (name : NumberedName ι) : Assembly σ ι :=
  let parent := b.holder
  let id := b.arena.nodes.size
  let b := b.append (.element parent name)
  if parent = 0 then { b with arena := { b.arena with root := some id } } else b

/-- The assembly behind the attributes of an element, which is closed at once or is open. -/
def finishTag (b : Assembly σ ι) (id : Nat) (written : String) (attributeCount : Nat)
    (isEmpty : Bool) : Assembly σ ι :=
  let arena := b.arena.update id fun n => { n with attributeStart := id + 1, attributeCount }
  if isEmpty then { b with arena := arena.close id, resolver := b.resolver.leave }
  else { b with arena, opened := ⟨id, written⟩ :: b.opened }

/-- Taking a start tag. -/
def openElement (b : Assembly σ ι) (offset : Nat) (written : String) (attributes : List Attribute)
    (isEmpty : Bool) : Except Fault (Assembly σ ι) := do
  if b.opened.isEmpty && b.arena.root.isSome then throw ⟨offset, .multipleRoots⟩
  let b ← (attributes.filter (·.isDeclaration)).foldlM declare
    { b with resolver := b.resolver.enter }
  let (name, b) ← (b.elementName written).mapError fun kind => ⟨offset + 1, kind⟩
  let id := b.arena.nodes.size
  let b ← addAttributes id [] [] (b.addElement name) attributes
  .ok (b.finishTag id written attributes.length isEmpty)

/-- Taking an end tag. -/
def closeElement (b : Assembly σ ι) (offset : Nat) (written : String) :
    Except Fault (Assembly σ ι) :=
  match b.opened with
  | [] => .error ⟨offset, .unexpectedEndTag written⟩
  | e :: outer =>
    if e.written = written then
      .ok { b with arena := b.arena.close e.id, resolver := b.resolver.leave, opened := outer }
    else .error ⟨offset, .tagMismatch e.written written⟩

/-! ## Events -/

/-- Taking an event that starts at a byte offset. The XML declaration is always one of the
document. -/
def step (b : Assembly σ ι) (offset : Nat) : Event → Except Fault (Assembly σ ι)
  | .declaration content => .ok (b.addDeclaration 0 "xml" content)
  | .instruction target content => .ok (b.addDeclaration b.holder target content)
  | .comment data => .ok (b.addLeaf .comment b.holder data)
  | .doctype body =>
    if !b.opened.isEmpty || b.hasDoctype || b.arena.root.isSome then
      .error ⟨offset, .misplacedDoctype⟩
    else .ok ({ b with hasDoctype := true }.addLeaf .doctype 0 body)
  | .text data =>
    if b.opened.isEmpty then
      if data.toList.all Text.isBlank then .ok b else .error ⟨offset, .outsideRoot .text⟩
    else .ok (b.addLeaf .text b.holder data)
  | .cdata data =>
    if b.opened.isEmpty then .error ⟨offset, .outsideRoot .cdata⟩
    else .ok (b.addLeaf .cdata b.holder data)
  | .startTag name attributes isEmpty => b.openElement offset name attributes isEmpty
  | .endTag name => b.closeElement offset name

/-- Taking events in order. -/
def run (b : Assembly σ ι) (events : List Placed) : Except Fault (Assembly σ ι) :=
  events.foldlM (fun b e => b.step e.offset e.event) b

/-- The arena at the end of the events, which is at a byte offset. -/
def finish (b : Assembly σ ι) (offset : Nat) : Except Fault (Arena σ ι) :=
  match b.opened with
  | e :: _ => .error ⟨offset, .unclosedTag e.written⟩
  | [] => if b.arena.root.isNone then .error ⟨offset, .noRootElement⟩ else .ok (b.arena.close 0)

end Assembly

/-- The arena of a document that has been read. A fault in the nesting of its events comes before
the failure at which reading stopped. -/
def Arena.ofReading (σ : Type) {ι : Type} [Store σ ι] [OfNat ι 0] [DecidableEq ι]
    (reading : Reading) : Except Fault (Arena σ ι) :=
  match (Assembly.start : Assembly σ ι).run reading.events with
  | .error fault => .error fault
  | .ok b =>
    match reading.outcome with
    | .error failure => .error failure.fault
    | .ok offset => b.finish offset

end XmlQuery
