import XmlQuery.Namespace.Scope
import XmlQuery.Text.Store

/-!
# Resolving numbered prefixes

While a document is put together, prefixes and namespaces are numbers of a store of strings. The
bindings in force are a stack of such numbers, and the rules for declarations compare numbers too.

## Main definitions

* `Resolver`: the bindings in force and the numbers of the reserved names
* `Resolver.enter`, `Resolver.leave`: entering and leaving an element
* `Resolver.declare`, `Resolver.declareDefault`: a declaration, which the rules may refuse
* `Resolver.resolve?`, `Resolver.default`: the binding in force
-/

namespace XmlQuery.Namespace

open Text (Store)

/-- A prefix, the namespace it is bound to, and the depth of the declaring element. -/
structure NumberedBinding (ι : Type) where
  /-- The number of the prefix, zero for the default namespace. -/
  nsPrefix : ι
  /-- The number of the namespace, zero for none. -/
  uri : ι
  /-- The number of elements that are open where the declaration stands. -/
  depth : Nat

/-- The bindings in force, the latest first, the number of open elements, and the numbers of the
names that the rules know. -/
structure Resolver (ι : Type) where
  /-- The bindings, the latest first. -/
  bindings : List (NumberedBinding ι)
  /-- The number of open elements. -/
  depth : Nat
  /-- The prefix `xml`. -/
  xmlPrefix : ι
  /-- The prefix `xmlns`. -/
  xmlnsPrefix : ι
  /-- The namespace of the prefix `xml`. -/
  xmlUri : ι
  /-- The namespace of namespace declarations. -/
  xmlnsUri : ι

namespace Resolver

variable {σ ι : Type} [Store σ ι]

/-- The resolver of a document, where only `xml` is bound, and the store with the names that the
rules know. -/
def new (strings : σ) : Resolver ι × σ :=
  let (xmlPrefix, strings) := Store.intern strings "xml"
  let (xmlnsPrefix, strings) := Store.intern strings "xmlns"
  let (xmlUri, strings) := Store.intern strings Namespace.xmlUri
  let (xmlnsUri, strings) := Store.intern strings Namespace.xmlnsUri
  (⟨[⟨xmlPrefix, xmlUri, 0⟩], 0, xmlPrefix, xmlnsPrefix, xmlUri, xmlnsUri⟩, strings)

/-- The resolver inside a new element. -/
def enter (r : Resolver ι) : Resolver ι := { r with depth := r.depth + 1 }

/-- The resolver after the innermost element: its bindings are gone. -/
def leave (r : Resolver ι) : Resolver ι :=
  { r with bindings := r.bindings.dropWhile (r.depth ≤ ·.depth), depth := r.depth - 1 }

/-- The resolver with a further binding at the present depth. -/
def bind (r : Resolver ι) (nsPrefix uri : ι) : Resolver ι :=
  { r with bindings := ⟨nsPrefix, uri, r.depth⟩ :: r.bindings }

variable [DecidableEq ι] [OfNat ι 0]

/-- The declaration of a prefix. -/
def declare (r : Resolver ι) (nsPrefix uri : ι) (strings : σ) :
    Except DeclarationFault (Resolver ι) :=
  if nsPrefix = r.xmlnsPrefix then .error .declaresXmlns
  else if nsPrefix = r.xmlPrefix then
    if uri = r.xmlUri then .ok r else .error .rebindsXml
  else if uri = 0 then .error (.emptyUri (Store.get strings nsPrefix))
  else if uri = r.xmlUri ∨ uri = r.xmlnsUri then
    .error (.reservedUri (Store.get strings nsPrefix))
  else .ok (r.bind nsPrefix uri)

/-- The declaration of the default namespace; the empty one removes it. -/
def declareDefault (r : Resolver ι) (uri : ι) : Except DeclarationFault (Resolver ι) :=
  if uri = r.xmlUri ∨ uri = r.xmlnsUri then .error .reservedDefault else .ok (r.bind 0 uri)

/-- The namespace that a prefix is bound to. -/
def resolve? (r : Resolver ι) (nsPrefix : ι) : Option ι :=
  (r.bindings.find? (·.nsPrefix = nsPrefix)).map (·.uri)

/-- The namespace of element names without a prefix. -/
def default (r : Resolver ι) : ι := (r.resolve? 0).getD 0

end Resolver

end XmlQuery.Namespace
