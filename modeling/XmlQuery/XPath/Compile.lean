import XmlQuery.XPath.Bindings
import XmlQuery.XPath.Parser
import XmlQuery.XPath.Program

/-!
# Compiling expressions

The code of an expression leaves its value on the stack. Whatever depends on the expression and
its bindings alone is settled here: prefixes become namespaces, names of functions become
functions, and variables are refused.

## Main definitions

* `CompileError`: why an expression has no code
* `Expr.code`: the code of an expression
* `CompiledExpression.compile`: the code of a text
-/

namespace XmlQuery.XPath

/-- Why an expression has no code. -/
inductive CompileError
  /-- The text is not an expression. -/
  | syntaxError (e : SyntaxError)
  /-- A prefix is not bound. -/
  | unboundPrefix (nsPrefix : String)
  /-- There is no function of the name. -/
  | unknownFunction (name : String)
  /-- A variable is used, and none has a value. -/
  | unboundVariable (name : String)

/-- The wording of the error. -/
def CompileError.message : CompileError → String
  | .syntaxError e => "syntax error at offset " ++ toString e.offset ++ ": " ++ e.fault.message
  | .unboundPrefix p => "namespace prefix '" ++ p ++ "' is not bound"
  | .unknownFunction name => "unknown function '" ++ name ++ "()'"
  | .unboundVariable name => "variable '$" ++ name ++ "' is not bound"

/-- The namespace that a prefix has to stand for. -/
def Bindings.require (b : Bindings) (nsPrefix : String) : Except CompileError String :=
  match b.resolve? nsPrefix with
  | some uri => .ok uri
  | none => .error (.unboundPrefix nsPrefix)

/-- The namespace of names without a prefix on an axis: the default namespace is that of
elements only. -/
def Bindings.unprefixed (b : Bindings) (axis : Axis) : String :=
  if axis = .attribute ∨ axis = .namespaces then "" else b.default?.getD ""

/-- A node test with the namespaces of its names. -/
def NodeTest.resolve (b : Bindings) (axis : Axis) : NodeTest → Except CompileError ResolvedTest
  | .any => .ok .any
  | .name l => .ok (.name (b.unprefixed axis) l)
  | .qname p l => (b.require p).map (.name · l)
  | .wildcard p => (b.require p).map .inNamespace
  | .node => .ok .node
  | .text => .ok .text
  | .comment => .ok .comment
  | .instruction target => .ok (.instruction target)

mutual

/-- The code of an expression. -/
def Expr.code (b : Bindings) : Expr → Except CompileError Program
  | .root => .ok [.root]
  | .number value => .ok [.number value]
  | .string value => .ok [.string value]
  | .variable name => .error (.unboundVariable name)
  | .negate operand => do
    let code ← operand.code b
    return code ++ [.negate]
  | .binary op left right => do
    let before ← left.code b
    let after ← right.code b
    return match op with
      | .and => before ++ [.and after]
      | .or => before ++ [.or after]
      | op => before ++ after ++ [.binary op]
  | .union left right => do
    let before ← left.code b
    let after ← right.code b
    return before ++ after ++ [.union]
  | .path base axis test predicates => do
    let before ← base.code b
    let test ← test.resolve b axis
    let programs ← programs b predicates
    return before ++ [.step axis test programs]
  | .step axis test predicates => do
    let test ← test.resolve b axis
    let programs ← programs b predicates
    return [.context, .step axis test programs]
  | .filter base predicate => do
    let before ← base.code b
    let program ← predicate.code b
    return before ++ [.predicate program]
  | .call name arguments => do
    match Builtin.ofLabel? name with
    | none => throw (.unknownFunction name)
    | some f =>
      let code ← codes b arguments
      return code ++ [.call f arguments.length]

/-- The code of expressions, one after the other. -/
def codes (b : Bindings) : List Expr → Except CompileError Program
  | [] => .ok []
  | e :: rest => do
    let first ← e.code b
    let others ← codes b rest
    return first ++ others

/-- The code of expressions, each by itself. -/
def programs (b : Bindings) : List Expr → Except CompileError (List Program)
  | [] => .ok []
  | e :: rest => do
    let first ← e.code b
    let others ← programs b rest
    return first :: others

end

/-- An expression with its code. -/
structure CompiledExpression where
  /-- The text of the expression. -/
  source : String
  /-- The code. -/
  program : Program

/-- The code of the expression that a text is. -/
def CompiledExpression.compile (source : String) (b : Bindings) :
    Except CompileError CompiledExpression :=
  match parse source with
  | .error e => .error (.syntaxError e)
  | .ok e => (e.code b).map (⟨source, ·⟩)

end XmlQuery.XPath
