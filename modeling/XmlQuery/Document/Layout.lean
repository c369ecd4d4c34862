import XmlQuery.Document.Node

/-!
# The table of a tree

What a document that is put together from its events has to be: its trees are laid out in document
order, an element, its attributes, its contents, and the places of all neighbours follow from the
sizes of the trees.

## Main definitions

* `Tree.layout`: the nodes of a tree that starts at a place
* `Document.ofTrees`: the document with these trees at its top
-/

namespace XmlQuery

/-- The kind of node that a leaf is. -/
def LeafKind.nodeKind : LeafKind → NodeKind
  | .declaration _ => .declaration
  | .text => .text
  | .cdata => .cdata
  | .comment => .comment
  | .doctype => .doctype

/-- The name of a leaf: the target of a declaration. -/
def LeafKind.name : LeafKind → Name
  | .declaration target => { Name.none with localPart := target }
  | _ => .none

/-- The node of an attribute. -/
def TreeAttribute.layout (a : TreeAttribute) (id element : Nat) : Node where
  kind := .attribute
  name := a.name
  value := a.value
  isDeclaration := a.isDeclaration
  parent := some element
  firstChild := none
  lastChild := none
  previous := none
  next := none
  attributeStart := 0
  attributeCount := 0
  last := id

/-- The nodes of attributes that start at a place. -/
def TreeAttribute.layouts (id element : Nat) : List TreeAttribute → List Node
  | [] => []
  | a :: rest => a.layout id element :: layouts (id + 1) element rest

namespace Tree

/-- The place of the first of some trees that start at a place. -/
def firstId? (id : Nat) : List Tree → Option Nat
  | [] => none
  | _ :: _ => some id

/-- The place of the last of some trees that start at a place. -/
def lastId? (id : Nat) : List Tree → Option Nat
  | [] => none
  | [_] => some id
  | t :: ts => lastId? (id + t.size) ts

mutual

/-- The nodes of a tree that starts at a place, between its siblings in the contents of
`parent`. -/
def layout (id parent : Nat) (previous next : Option Nat) : Tree → List Node
  | .leaf kind value =>
    [{ kind := kind.nodeKind, name := kind.name, value := value, isDeclaration := false,
       parent := some parent, firstChild := none, lastChild := none, previous := previous,
       next := next, attributeStart := 0, attributeCount := 0, last := id }]
  | .element name attributes contents =>
    let first := id + 1 + attributes.length
    { kind := .element, name := name, value := "", isDeclaration := false,
      parent := some parent, firstChild := firstId? first contents,
      lastChild := lastId? first contents, previous := previous, next := next,
      attributeStart := id + 1, attributeCount := attributes.length,
      last := first + sizes contents - 1 } ::
    (TreeAttribute.layouts (id + 1) id attributes ++ layouts first id none contents)

/-- The nodes of a sequence of siblings that starts at a place. -/
def layouts (id parent : Nat) (previous : Option Nat) : List Tree → List Node
  | [] => []
  | t :: ts =>
    t.layout id parent previous (firstId? (id + t.size) ts) ++
      layouts (id + t.size) parent (some id) ts

end

/-- The place of the first element among siblings that start at a place. -/
def rootId (id : Nat) : List Tree → Nat
  | [] => id
  | t :: ts => if t.isElement then id else rootId (id + t.size) ts

end Tree

namespace Document

/-- The document node in front of some trees. -/
def topNode (trees : List Tree) : Node where
  kind := .document
  name := .none
  value := ""
  isDeclaration := false
  parent := none
  firstChild := Tree.firstId? 1 trees
  lastChild := Tree.lastId? 1 trees
  previous := none
  next := none
  attributeStart := 0
  attributeCount := 0
  last := Tree.sizes trees

/-- The document with these trees at its top. -/
def ofTrees (trees : List Tree) : Document where
  nodes := (topNode trees :: Tree.layouts 1 0 none trees).toArray
  root := Tree.rootId 1 trees

/-- The nodes of a document are the document node and the layout of its trees. -/
theorem nodes_ofTrees (trees : List Tree) :
    (ofTrees trees).nodes.toList = topNode trees :: Tree.layouts 1 0 none trees := rfl

end Document

end XmlQuery
