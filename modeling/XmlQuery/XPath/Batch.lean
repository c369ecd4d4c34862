import XmlQuery.XPath.Machine

/-!
# Several expressions over one document

Compiled expressions do not change a document, so several of them are evaluated over the same one
independently. Each has its result in its own place, and one that fails leaves the others alone.

## Main definitions

* `evaluateEach`: the value of each expression
* `selectEach`: the nodes of each expression

## Main results

* `getElem?_evaluateEach`, `getElem?_selectEach`: each result is that of its expression alone
-/

namespace XmlQuery.XPath

/-- The value of each expression at the document node. -/
def evaluateEach (d : Document) (es : List CompiledExpression) :
    List (Except EvalError Value) :=
  es.map (evaluate d 0)

/-- The nodes of each expression at the document node. -/
def selectEach (d : Document) (es : List CompiledExpression) :
    List (Except EvalError (List Nat)) :=
  es.map (select d 0)

@[simp] theorem getElem?_evaluateEach (d : Document) (es : List CompiledExpression) (i : Nat) :
    (evaluateEach d es)[i]? = es[i]?.map (evaluate d 0) :=
  List.getElem?_map

@[simp] theorem getElem?_selectEach (d : Document) (es : List CompiledExpression) (i : Nat) :
    (selectEach d es)[i]? = es[i]?.map (select d 0) :=
  List.getElem?_map

end XmlQuery.XPath
