import XmlQuery.Document.Tree

/-!
# Nodes

The nodes of a document stand in one table, in document order: an element is followed by its
attributes and then by its contents. A node is known by its place in the table, its number, so
document order is the order of numbers, and what is below a node is a range of numbers.

## Main definitions

* `NodeKind`: the kinds of nodes
* `Node`: a node with its links
* `Document`: the table of nodes
-/

namespace XmlQuery

/-- The kinds of nodes. -/
inductive NodeKind
  /-- The document. -/
  | document
  /-- The XML declaration or a processing instruction. -/
  | declaration
  /-- An element. -/
  | element
  /-- Plain text. -/
  | text
  /-- A CDATA section. -/
  | cdata
  /-- A comment. -/
  | comment
  /-- An attribute. -/
  | attribute
  /-- A document type declaration. -/
  | doctype
  deriving DecidableEq

namespace NodeKind

/-- All kinds. -/
def all : List NodeKind :=
  [.document, .declaration, .element, .text, .cdata, .comment, .attribute, .doctype]

/-- The word for a kind in records. -/
def label : NodeKind → String
  | .document => "document"
  | .declaration => "declaration"
  | .element => "element"
  | .text => "text"
  | .cdata => "cdata"
  | .comment => "comment"
  | .attribute => "attribute"
  | .doctype => "notation"

/-- The kind that a word stands for. -/
def ofLabel? (word : String) : Option NodeKind :=
  all.find? (·.label == word)

theorem ofLabel?_label (k : NodeKind) : ofLabel? k.label = some k := by
  cases k <;> rfl

end NodeKind

/-- A node of a document, linked to the nodes around it. -/
structure Node where
  /-- The kind. -/
  kind : NodeKind
  /-- The name of an element or an attribute; the target of a declaration as local part. -/
  name : Name
  /-- Character data, the value of an attribute or the content of a declaration. -/
  value : String
  /-- The node is an attribute that declares a namespace. -/
  isDeclaration : Bool
  /-- The node that holds this one; the element of an attribute. -/
  parent : Option Nat
  /-- The first of the contents. -/
  firstChild : Option Nat
  /-- The last of the contents. -/
  lastChild : Option Nat
  /-- The one before this in the contents of the parent. -/
  previous : Option Nat
  /-- The one after this in the contents of the parent. -/
  next : Option Nat
  /-- The first of the attributes of an element. -/
  attributeStart : Nat
  /-- The number of attributes. -/
  attributeCount : Nat
  /-- The last node below this one, or the node itself. -/
  last : Nat
  deriving DecidableEq

/-- A document: its nodes in document order, the document node first. -/
structure Document where
  /-- The nodes in document order. -/
  nodes : Array Node
  /-- The root element. -/
  root : Nat

namespace Document

/-- The number of nodes. -/
def size (d : Document) : Nat := d.nodes.size

/-- A node of the document. -/
def node? (d : Document) (id : Nat) : Option Node := d.nodes[id]?

/-- The kind of a node. -/
def kind? (d : Document) (id : Nat) : Option NodeKind := (d.node? id).map (·.kind)

/-- The name of a node, which most kinds do not have. -/
def name (d : Document) (id : Nat) : Name := ((d.node? id).map (·.name)).getD .none

/-- The value of a node, which documents and elements do not have. -/
def value (d : Document) (id : Nat) : String := ((d.node? id).map (·.value)).getD ""

/-- The node that holds a node. -/
def parent? (d : Document) (id : Nat) : Option Nat := (d.node? id).bind (·.parent)

/-- The node is an attribute that declares a namespace. -/
def isDeclaration (d : Document) (id : Nat) : Bool := (d.node? id).any (·.isDeclaration)

/-- The attributes of an element in document order, namespace declarations included. -/
def attributes (d : Document) (id : Nat) : List Nat :=
  match d.node? id with
  | some n => if n.kind = .element then List.range' n.attributeStart n.attributeCount else []
  | none => []

/-- The nodes on the way along a link, at most `fuel` of them. -/
def follow (d : Document) (link : Node → Option Nat) :
    (fuel : Nat) → Option Nat → List Nat
  | 0, _ => []
  | _ + 1, none => []
  | fuel + 1, some id => id :: d.follow link fuel ((d.node? id).bind link)

/-- The nodes on the way along a link from a node, which is not among them. No way visits a node
twice, so there are fewer of them than nodes. -/
def walk (d : Document) (link : Node → Option Nat) (id : Nat) : List Nat :=
  d.follow link d.size ((d.node? id).bind link)

/-- The contents of a node in document order. -/
def children (d : Document) (id : Nat) : List Nat :=
  d.follow (·.next) d.size ((d.node? id).bind (·.firstChild))

/-- A node is plain text or a CDATA section. -/
def isCharacterData (d : Document) (id : Nat) : Bool :=
  d.kind? id == some .text || d.kind? id == some .cdata

/-- The last node below a node, or the node itself. -/
def last (d : Document) (id : Nat) : Nat := ((d.node? id).map (·.last)).getD id

/-- The numbers of the nodes below a node, attributes included. -/
def below (d : Document) (id : Nat) : List Nat :=
  List.range' (id + 1) (d.last id - id)

/-- The string-value of a node: for a document and an element the character data below it in
document order, for every other node its value. -/
def stringValue (d : Document) (id : Nat) : String :=
  match d.kind? id with
  | none => ""
  | some .document | some .element =>
    String.join (((d.below id).filter d.isCharacterData).map d.value)
  | some _ => d.value id

/-- What a record shows of a node: character data, the value of an attribute, the target of a
declaration. -/
def data (d : Document) (id : Nat) : String :=
  match d.kind? id with
  | some .text | some .cdata | some .comment | some .attribute | some .doctype => d.value id
  | some .declaration => (d.name id).localPart
  | some .element | some .document | none => ""

/-- The value of the attribute of an element with this local part and without a namespace. -/
def attribute? (d : Document) (id : Nat) (localPart : String) : Option String :=
  ((d.attributes id).find? fun a =>
    (d.name a).uri == "" && (d.name a).localPart == localPart).map d.value

end Document

end XmlQuery
