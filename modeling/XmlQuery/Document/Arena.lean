import XmlQuery.Document.Node
import XmlQuery.Text.Store

/-!
# Arenas

While a document is put together, its nodes stand in one table that grows at its end, and all their
strings are numbers of one store. A node that is appended is linked to its parent and to the child
in front of it; where its subtree ends is known only when it is closed.

## Main definitions

* `ArenaNode`: a node with numbers for its strings
* `Arena`: the table of nodes and the store of their strings
* `Arena.push`, `Arena.link`, `Arena.append`, `Arena.close`: how the table grows
* `Arena.document`: the document that an arena shows
-/

namespace XmlQuery

open Text (Store)

/-- The name of an element or an attribute, as numbers of strings. -/
structure NumberedName (ι : Type) where
  /-- The prefix as written, or zero. -/
  nsPrefix : ι
  /-- The local part. -/
  localPart : ι
  /-- The namespace, or zero. -/
  uri : ι

/-- A node of an arena. -/
structure ArenaNode (ι : Type) where
  /-- The kind. -/
  kind : NodeKind
  /-- The name of an element or an attribute; the target of a declaration as local part. -/
  name : NumberedName ι
  /-- Character data, the value of an attribute or the content of a declaration. -/
  value : ι
  /-- The node is an attribute that declares a namespace. -/
  isDeclaration : Bool
  /-- The node that holds this one; the element of an attribute. -/
  parent : Option Nat
  /-- The first of the contents. -/
  firstChild : Option Nat
  /-- The last of the contents. -/
  lastChild : Option Nat
  /-- The one before this in the contents of the parent. -/
  previous : Option Nat
  /-- The one after this in the contents of the parent. -/
  next : Option Nat
  /-- The first of the attributes of an element. -/
  attributeStart : Nat
  /-- The number of attributes. -/
  attributeCount : Nat
  /-- The last node below this one so far, or the node itself. -/
  last : Nat

namespace ArenaNode

variable {σ ι : Type} [OfNat ι 0]

/-- A node that has no strings and no links but that to its parent. -/
def new (kind : NodeKind) (parent : Option Nat) : ArenaNode ι where
  kind := kind
  name := ⟨0, 0, 0⟩
  value := 0
  isDeclaration := false
  parent := parent
  firstChild := none
  lastChild := none
  previous := none
  next := none
  attributeStart := 0
  attributeCount := 0
  last := 0

/-- An element that has just been opened. -/
def element (parent : Nat) (name : NumberedName ι) : ArenaNode ι :=
  { (new .element (some parent) : ArenaNode ι) with name := name }

/-- A node without contents. -/
def leaf (kind : NodeKind) (parent : Nat) (value : ι) : ArenaNode ι :=
  { (new kind (some parent) : ArenaNode ι) with value := value }

/-- The XML declaration or a processing instruction. -/
def declaration (parent : Nat) (target value : ι) : ArenaNode ι :=
  { (new .declaration (some parent) : ArenaNode ι) with name := ⟨0, target, 0⟩, value := value }

/-- The node with its strings. -/
def read [Store σ ι] (strings : σ) (n : ArenaNode ι) : Node where
  kind := n.kind
  name := ⟨Store.get strings n.name.nsPrefix, Store.get strings n.name.localPart,
    Store.get strings n.name.uri⟩
  value := Store.get strings n.value
  isDeclaration := n.isDeclaration
  parent := n.parent
  firstChild := n.firstChild
  lastChild := n.lastChild
  previous := n.previous
  next := n.next
  attributeStart := n.attributeStart
  attributeCount := n.attributeCount
  last := n.last

end ArenaNode

/-- The nodes of a document in document order, the document node first, and their strings. -/
structure Arena (σ ι : Type) where
  /-- The nodes. -/
  nodes : Array (ArenaNode ι)
  /-- The strings. -/
  strings : σ
  /-- The root element, as soon as there is one. -/
  root : Option Nat

namespace Arena

variable {σ ι : Type}

/-- The arena with another node in the place of one. -/
def update (a : Arena σ ι) (id : Nat) (f : ArenaNode ι → ArenaNode ι) : Arena σ ι :=
  { a with nodes := a.nodes.modify id f }

/-- The arena with a further node, which is linked to no other one. -/
def push (a : Arena σ ι) (n : ArenaNode ι) : Arena σ ι :=
  { a with nodes := a.nodes.push { n with last := a.nodes.size } }

/-- The arena where a node is the last child of another one. -/
def link (a : Arena σ ι) (parent child : Nat) : Arena σ ι :=
  let linked :=
    match a.nodes[parent]?.bind (·.lastChild) with
    | some last =>
      (a.update child fun n => { n with previous := some last }).update last
        fun n => { n with next := some child }
    | none => a.update parent fun n => { n with firstChild := some child }
  linked.update parent fun n => { n with lastChild := some child }

/-- The arena with a further node, which is the last child of its parent. -/
def append (a : Arena σ ι) (n : ArenaNode ι) : Arena σ ι :=
  let id := a.nodes.size
  (a.push n).link (n.parent.getD 0) id

/-- The arena where the nodes behind a node so far are below it. -/
def close (a : Arena σ ι) (id : Nat) : Arena σ ι :=
  let last := a.nodes.size - 1
  a.update id fun n => { n with last := last }

/-- The document that an arena shows: its nodes with their strings. -/
def document [Store σ ι] (a : Arena σ ι) : Document where
  nodes := a.nodes.map (·.read a.strings)
  root := a.root.getD 0

end Arena

end XmlQuery
