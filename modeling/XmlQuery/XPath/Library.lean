import XmlQuery.Namespace.Uri
import XmlQuery.Number.Arithmetic
import XmlQuery.Text.Case
import XmlQuery.Text.Words
import XmlQuery.XPath.Axis
import XmlQuery.XPath.EvalError

/-!
# The function library

## Main definitions

* `Context`: where an expression is evaluated
* `Builtin.apply`: the value of a function on arguments
-/

namespace XmlQuery.XPath

/-- Where an expression is evaluated: at a node, which stands at a place among others. -/
structure Context where
  /-- The context node. -/
  node : Nat
  /-- Its place among the nodes around it, from one. -/
  position : Nat
  /-- The number of the nodes around it. -/
  size : Nat
  deriving DecidableEq

/-- The context of a node by itself. -/
def Context.ofNode (node : Nat) : Context := ⟨node, 1, 1⟩

namespace Builtin

/-- The local part of the name of a node that has one, and the target of a declaration. -/
def localNameOf (d : Document) (id : Nat) : String :=
  match d.kind? id with
  | some .element | some .attribute | some .declaration => (d.name id).localPart
  | _ => ""

/-- The namespace of the name of an element or an attribute. -/
def namespaceUriOf (d : Document) (id : Nat) : String :=
  match d.kind? id with
  | some .element | some .attribute => (d.name id).uri
  | _ => ""

/-- The name of a node as written, and the target of a declaration. -/
def nameOf (d : Document) (id : Nat) : String :=
  match d.kind? id with
  | some .element | some .attribute => (d.name id).qualified
  | some .declaration => (d.name id).localPart
  | _ => ""

/-- The language that an element is said to be in. -/
def language? (d : Document) (id : Nat) : Option String :=
  ((d.attributes id).find? fun a =>
    (d.name a).localPart == "lang" && (d.name a).uri == Namespace.xmlUri).map d.value

/-- A language is the one asked for or a variety of it: the case of letters is ignored, and what
follows a hyphen. -/
def inLanguage (target language : List Char) : Bool :=
  match Text.dropExact? (Text.lower target) (Text.lower language) with
  | some [] => true
  | some (c :: _) => c == '-'
  | none => false

/-- The nearest language said of a node is the one asked for. -/
def isInLanguage (d : Document) (id : Nat) (target : String) : Bool :=
  ((id :: ancestors d id).findSome? (language? d)).any fun language =>
    inLanguage target.toList language.toList

/-- The characters of a text at the places from `round start` up to, but not including,
`round start + round length`, or to the end. -/
def substringOf (text : List Char) (start : Float) (length : Option Float) : List Char :=
  let first := Number.round start
  let stop := length.map fun n => first + Number.round n
  (text.zipIdx 1).filterMap fun (c, i) =>
    let place := Number.ofNat i
    if first ≤ place && stop.all (place < ·) then some c else none

/-- The nodes of an argument. -/
def nodesOf (f : Builtin) : Value → Except EvalError (List Nat)
  | .nodeSet nodes => .ok nodes
  | v => .error (.argumentNotNodeSet f v.type)

/-- What a text function makes of the first node of a node-set, or of nothing. -/
def ofFirst (f : Builtin) (of : Nat → String) (v : Value) : Except EvalError Value :=
  (f.nodesOf v).map fun nodes => .string ((nodes.head?.map of).getD "")

/-- What a function of two texts makes of two values. -/
def ofTexts (d : Document) (of : List Char → List Char → Value) (x y : Value) : Value :=
  of (x.toText d).toList (y.toText d).toList

/-- The value of a list of characters. -/
def text (s : List Char) : Value := .string (String.ofList s)

/-- The value of a natural number. -/
def natural (n : Nat) : Value := .number (Number.ofNat n)

/-- The value of a function on arguments, which have to be as many as it takes. -/
def apply (d : Document) (c : Context) (f : Builtin) (arguments : List Value) :
    Except EvalError Value :=
  match f, arguments with
  | .last, [] => .ok (natural c.size)
  | .position, [] => .ok (natural c.position)
  | .constTrue, [] => .ok (.boolean true)
  | .constFalse, [] => .ok (.boolean false)
  | .localName, [] => .ok (.string (localNameOf d c.node))
  | .localName, [x] => f.ofFirst (localNameOf d) x
  | .namespaceUri, [] => .ok (.string (namespaceUriOf d c.node))
  | .namespaceUri, [x] => f.ofFirst (namespaceUriOf d) x
  | .name, [] => .ok (.string (nameOf d c.node))
  | .name, [x] => f.ofFirst (nameOf d) x
  | .string, [] => .ok (.string (d.stringValue c.node))
  | .string, [x] => .ok (.string (x.toText d))
  | .stringLength, [] => .ok (natural (d.stringValue c.node).length)
  | .stringLength, [x] => .ok (natural (x.toText d).length)
  | .normalizeSpace, [] => .ok (text (Text.normalizeSpace (d.stringValue c.node).toList))
  | .normalizeSpace, [x] => .ok (text (Text.normalizeSpace (x.toText d).toList))
  | .number, [] => .ok (.number (Value.numberOf (d.stringValue c.node)))
  | .number, [x] => .ok (.number (x.toNumber d))
  | .count, [x] => (f.nodesOf x).map fun nodes => natural nodes.length
  | .sum, [x] =>
    (f.nodesOf x).map fun nodes =>
      .number (Number.sum (nodes.map fun n => Value.numberOf (d.stringValue n)))
  | .id, [_] => .error .noIdentifiers
  | .lowerCase, [x] => .ok (text (Text.lower (x.toText d).toList))
  | .upperCase, [x] => .ok (text (Text.upper (x.toText d).toList))
  | .boolean, [x] => .ok (.boolean x.toBoolean)
  | .not, [x] => .ok (.boolean (!x.toBoolean))
  | .lang, [x] => .ok (.boolean (isInLanguage d c.node (x.toText d)))
  | .floor, [x] => .ok (.number (x.toNumber d).floor)
  | .ceiling, [x] => .ok (.number (x.toNumber d).ceil)
  | .round, [x] => .ok (.number (Number.round (x.toNumber d)))
  | .startsWith, [x, y] => .ok (ofTexts d (fun s p => .boolean (p.isPrefixOf s)) x y)
  | .endsWith, [x, y] => .ok (ofTexts d (fun s p => .boolean (p.isSuffixOf s)) x y)
  | .contains, [x, y] => .ok (ofTexts d (fun s p => .boolean (Text.contains s p)) x y)
  | .substringBefore, [x, y] => .ok (ofTexts d (fun s p => text (Text.before s p)) x y)
  | .substringAfter, [x, y] => .ok (ofTexts d (fun s p => text (Text.after s p)) x y)
  | .substring, [x, y] => .ok (text (substringOf (x.toText d).toList (y.toNumber d) none))
  | .substring, [x, y, z] =>
    .ok (text (substringOf (x.toText d).toList (y.toNumber d) (some (z.toNumber d))))
  | .translate, [x, y, z] =>
    .ok (text (Text.translate (y.toText d).toList (z.toText d).toList (x.toText d).toList))
  | .concat, x :: y :: rest =>
    .ok (.string (String.join ((x :: y :: rest).map (Value.toText d))))
  | f, arguments => .error (.arity f arguments.length)

end Builtin

end XmlQuery.XPath
