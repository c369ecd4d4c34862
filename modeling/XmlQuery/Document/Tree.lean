/-!
# Trees

A document as a tree: elements with their attributes and contents, and leaves. Names are
resolved, that is, they carry the namespace that their prefix stands for.

## Main definitions

* `Name`: a prefix, a local part and a namespace
* `Tree`: an element with its contents, or a leaf
* `Tree.size`: the number of nodes, attributes included
-/

namespace XmlQuery

/-- The name of an element or an attribute, with the namespace that its prefix stands for. -/
structure Name where
  /-- The prefix as written, or nothing. -/
  nsPrefix : String
  /-- The local part. -/
  localPart : String
  /-- The namespace, or nothing. -/
  uri : String
  deriving DecidableEq

namespace Name

/-- No name. -/
def none : Name := ⟨"", "", ""⟩

/-- The name as written: the prefix, a colon and the local part, or the local part alone. -/
def qualified (n : Name) : String :=
  if n.nsPrefix = "" then n.localPart else n.nsPrefix ++ ":" ++ n.localPart

end Name

/-- An attribute of an element, namespace declarations included. -/
structure TreeAttribute where
  /-- The name. -/
  name : Name
  /-- The value. -/
  value : String
  /-- The attribute declares a namespace. -/
  isDeclaration : Bool
  deriving DecidableEq

/-- The kinds of nodes without contents. -/
inductive LeafKind
  /-- The XML declaration or a processing instruction. -/
  | declaration (target : String)
  /-- Plain text. -/
  | text
  /-- A CDATA section. -/
  | cdata
  /-- A comment. -/
  | comment
  /-- A document type declaration. -/
  | doctype
  deriving DecidableEq

/-- A node with everything below it. -/
inductive Tree
  /-- An element. -/
  | element (name : Name) (attributes : List TreeAttribute) (contents : List Tree)
  /-- A node without contents. -/
  | leaf (kind : LeafKind) (value : String)

namespace Tree

/-- The tree is an element. -/
def isElement : Tree → Bool
  | .element .. => true
  | .leaf .. => false

/-- The tree is a document type declaration. -/
def isDoctype : Tree → Bool
  | .leaf .doctype _ => true
  | _ => false

mutual

/-- The number of nodes of a tree, attributes included. -/
def size : Tree → Nat
  | .element _ attributes contents => 1 + attributes.length + sizes contents
  | .leaf .. => 1

/-- The number of nodes of a sequence of trees, attributes included. -/
def sizes : List Tree → Nat
  | [] => 0
  | t :: ts => t.size + sizes ts

end

theorem size_pos (t : Tree) : 0 < t.size := by
  cases t <;> simp only [size] <;> omega

end Tree

end XmlQuery
