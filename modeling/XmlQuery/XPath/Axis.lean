import XmlQuery.Document.Node
import XmlQuery.XPath.Program

/-!
# Axes and node tests

An axis lists the nodes in a direction from a node, nearest first. Since nodes are numbered in
document order and every node knows the last one below it, what is below, before or behind a node
is a range of numbers. Attributes are in these ranges, but only the axis `attribute` leads to
them.

## Main definitions

* `Axis.nodes`: the nodes of an axis from a node
* `ResolvedTest.holds`: a node passes a node test
-/

namespace XmlQuery.XPath

/-- The node exists and is no attribute. -/
def isTreeNode (d : Document) (id : Nat) : Bool :=
  (d.node? id).any (·.kind != .attribute)

/-- The nodes below a node, attributes aside. -/
def descendants (d : Document) (id : Nat) : List Nat :=
  (d.below id).filter (isTreeNode d)

/-- The nodes that hold a node, the nearest first. -/
def ancestors (d : Document) (id : Nat) : List Nat := d.walk (·.parent) id

/-- The nodes behind the end of a node. -/
def followingNodes (d : Document) (id : Nat) : List Nat :=
  (List.range' (d.last id + 1) (d.size - (d.last id + 1))).filter (isTreeNode d)

/-- The nodes that have ended in front of a node, the nearest first. -/
def precedingNodes (d : Document) (id : Nat) : List Nat :=
  (List.range (min id d.size)).reverse.filter fun n => isTreeNode d n && decide (d.last n < id)

/-- The nodes in a direction from a node, the nearest first. -/
def Axis.nodes (d : Document) (id : Nat) : Axis → List Nat
  | .child => d.children id
  | .descendant => descendants d id
  | .descendantOrSelf => id :: descendants d id
  | .parent => (d.parent? id).toList
  | .ancestor => ancestors d id
  | .ancestorOrSelf => id :: ancestors d id
  | .followingSibling => d.walk (·.next) id
  | .precedingSibling => d.walk (·.previous) id
  | .following => followingNodes d id
  | .preceding => precedingNodes d id
  | .self => [id]
  | .attribute => (d.attributes id).filter (!d.isDeclaration ·)
  | .namespaces => []

/-- The kind of node that names on an axis are about. -/
def Axis.mainKind : Axis → NodeKind
  | .attribute => .attribute
  | _ => .element

/-- The node, of a kind and with a name, is what a node test asks for on an axis. The XML
declaration is no processing instruction. -/
def ResolvedTest.accepts (axis : Axis) (kind : NodeKind) (name : Name) : ResolvedTest → Bool
  | .any => kind == axis.mainKind
  | .name uri localPart => kind == axis.mainKind && name.localPart == localPart && name.uri == uri
  | .inNamespace uri => kind == axis.mainKind && name.uri == uri
  | .node => true
  | .text => kind == .text || kind == .cdata
  | .comment => kind == .comment
  | .instruction target =>
    kind == .declaration && name.localPart != "xml" && target.all (name.localPart == ·)

/-- The node exists and is what a node test asks for on an axis. -/
def ResolvedTest.holds (d : Document) (axis : Axis) (test : ResolvedTest) (id : Nat) : Bool :=
  (d.node? id).any fun n => test.accepts axis n.kind n.name

end XmlQuery.XPath
