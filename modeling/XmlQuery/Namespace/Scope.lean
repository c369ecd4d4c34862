import XmlQuery.Namespace.Uri

/-!
# Namespace scopes

A scope is a stack of bindings of prefixes, each with the depth of the element that declared it.
The latest binding of a prefix is the one in force; leaving an element removes the bindings of
its depth. The empty prefix stands for the default namespace, the empty URI for none.

## Main definitions

* `Scope`: the bindings in force and the depth of the innermost element
* `Scope.push`, `Scope.pop`: entering and leaving an element
* `Scope.declare`, `Scope.declareDefault`: a declaration, which the rules may refuse
* `Scope.resolve?`, `Scope.default`: the binding in force
-/

namespace XmlQuery.Namespace

/-- A reason to refuse a namespace declaration. -/
inductive DeclarationFault
  /-- The prefix `xmlns` is declared. -/
  | declaresXmlns
  /-- The prefix `xml` is bound to another namespace than its own. -/
  | rebindsXml
  /-- A prefix is bound to no namespace. -/
  | emptyUri (nsPrefix : String)
  /-- A prefix is bound to a reserved namespace. -/
  | reservedUri (nsPrefix : String)
  /-- The default namespace is a reserved one. -/
  | reservedDefault
  deriving DecidableEq

/-- The wording of a reason. -/
def DeclarationFault.message : DeclarationFault → String
  | .declaresXmlns => "the 'xmlns' prefix cannot be declared"
  | .rebindsXml => "the 'xml' prefix cannot be rebound"
  | .emptyUri p => "prefix '" ++ p ++ "' cannot be bound to an empty URI"
  | .reservedUri p => "prefix '" ++ p ++ "' cannot be bound to a reserved namespace"
  | .reservedDefault => "the default namespace cannot be a reserved namespace"

/-- A prefix, the URI it is bound to, and the depth of the declaring element. -/
structure Binding where
  /-- The prefix, empty for the default namespace. -/
  nsPrefix : String
  /-- The namespace, empty for none. -/
  uri : String
  /-- The number of elements that are open where the declaration stands. -/
  depth : Nat
  deriving DecidableEq

/-- The bindings in force, the latest first, and the number of open elements. -/
structure Scope where
  /-- The bindings, the latest first. -/
  bindings : List Binding
  /-- The number of open elements. -/
  depth : Nat
  deriving DecidableEq

namespace Scope

/-- The scope of a document: only `xml` is bound. -/
def initial : Scope := ⟨[⟨"xml", xmlUri, 0⟩], 0⟩

/-- The scope inside a new element. -/
def push (s : Scope) : Scope := { s with depth := s.depth + 1 }

/-- The scope after the innermost element: its bindings are gone. -/
def pop (s : Scope) : Scope :=
  ⟨s.bindings.dropWhile (s.depth ≤ ·.depth), s.depth - 1⟩

/-- The scope with a further binding at the present depth. -/
def bind (s : Scope) (nsPrefix uri : String) : Scope :=
  { s with bindings := ⟨nsPrefix, uri, s.depth⟩ :: s.bindings }

/-- A namespace that no declaration may use. -/
def isReserved (uri : String) : Bool :=
  uri == xmlUri || uri == xmlnsUri

/-- The declaration of a prefix. -/
def declare (s : Scope) (nsPrefix uri : String) : Except DeclarationFault Scope :=
  if nsPrefix = "xmlns" then .error .declaresXmlns
  else if nsPrefix = "xml" then
    if uri = xmlUri then .ok s else .error .rebindsXml
  else if uri = "" then .error (.emptyUri nsPrefix)
  else if isReserved uri then .error (.reservedUri nsPrefix)
  else .ok (s.bind nsPrefix uri)

/-- The declaration of the default namespace; the empty URI removes it. -/
def declareDefault (s : Scope) (uri : String) : Except DeclarationFault Scope :=
  if isReserved uri then .error .reservedDefault else .ok (s.bind "" uri)

/-- The namespace that a prefix is bound to. -/
def resolve? (s : Scope) (nsPrefix : String) : Option String :=
  (s.bindings.find? (·.nsPrefix == nsPrefix)).map (·.uri)

/-- The namespace of element names without a prefix. -/
def default (s : Scope) : String :=
  (s.resolve? "").getD ""

@[simp] theorem push_bindings (s : Scope) : s.push.bindings = s.bindings := rfl

@[simp] theorem push_depth (s : Scope) : s.push.depth = s.depth + 1 := rfl

@[simp] theorem resolve?_push (s : Scope) (p : String) : s.push.resolve? p = s.resolve? p := rfl

/-- A new binding is in force for its prefix and for no other one. -/
theorem resolve?_bind (s : Scope) (p uri q : String) :
    (s.bind p uri).resolve? q = if p = q then some uri else s.resolve? q := by
  by_cases h : p = q <;> simp [bind, resolve?, h]

end Scope

end XmlQuery.Namespace
