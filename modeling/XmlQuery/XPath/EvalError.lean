import XmlQuery.XPath.Function
import XmlQuery.XPath.Value

/-!
# Failures of evaluation

## Main definitions

* `EvalError`: why a program has no value
* `EvalError.message`: its wording
-/

namespace XmlQuery.XPath

/-- An operation that works on node-sets alone. -/
inductive NodeSetOperation
  /-- A location step. -/
  | step
  /-- A predicate. -/
  | predicate
  /-- A union. -/
  | union
  deriving DecidableEq

/-- The word for an operation. -/
def NodeSetOperation.text : NodeSetOperation → String
  | .step => "a location step"
  | .predicate => "a predicate"
  | .union => "'|'"

/-- Why a program has no value. -/
inductive EvalError
  /-- An operation needs more values than there are. -/
  | emptyStack
  /-- An operation needs a node-set and finds another value. -/
  | notNodeSet (operation : NodeSetOperation) (found : ValueType)
  /-- A function does not take that many arguments. -/
  | arity (function : Builtin) (count : Nat)
  /-- A function needs a node-set and finds another value. -/
  | argumentNotNodeSet (function : Builtin) (found : ValueType)
  /-- Identifiers are not known, since documents are not validated. -/
  | noIdentifiers
  /-- A selection finds another value than a node-set. -/
  | notSelection (source : String) (found : ValueType)
  deriving DecidableEq

/-- The wording of a failure. -/
def EvalError.message : EvalError → String
  | .emptyStack => "malformed expression: evaluation stack is empty"
  | .notNodeSet operation found =>
    operation.text ++ " requires a node-set, got " ++ found.name
  | .arity f count =>
    f.label ++ "() expects " ++ f.arity.text ++ " argument(s), got " ++ toString count
  | .argumentNotNodeSet f found =>
    f.label ++ "() argument must be a node-set, got " ++ found.name
  | .noIdentifiers =>
    "id() is not supported: documents are not validated, so no attribute is of type ID"
  | .notSelection source found =>
    "expression '" ++ source ++ "' evaluates to a " ++ found.name ++ ", not a node-set"

end XmlQuery.XPath
