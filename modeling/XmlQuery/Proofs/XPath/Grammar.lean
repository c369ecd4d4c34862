import XmlQuery.XPath.Expr
import XmlQuery.XPath.Token

/-!
# The grammar of expressions

The productions of XPath 1.0, over tokens. A phrase stands for a part of an expression, and with it
come the two numbers that are bounded: how many expressions are open at a time inside the phrase,
and how many operators, predicates of filters and path separators are in it. A single slash is the
document and separates nothing.

A star is a name test or an operator. It is a name test wherever an operand is missing, and directly
behind a slash, where the step that follows could be missing too. So `/ * a` is no expression, though
it could be taken for a product.

## Main definitions

* `Repeated`, `ListOf`: the phrases that repeat others
* `StepExpr`, `PrimaryExpr`, `PathExpr`: the phrases around nested expressions
* `Operator`, `Tier`: operators by how tightly they bind, and the phrases between them
* `Expression`, `UnaryExpr`: expressions
-/

namespace XmlQuery.XPath.Grammar

/-- What tokens stand for, with the number of expressions that are open at a time and the number of
items. -/
abbrev Phrases (α : Type) := List Token → α → (levels : Nat) → (items : Nat) → Prop

/-- A phrase with others behind it, each of which makes something of what is in front of it. -/
inductive Repeated {α : Type} (First : Phrases α) (More : Phrases (α → α)) : Phrases α
  /-- The first phrase alone. -/
  | first {ts : List Token} {a : α} {d n : Nat} : First ts a d n → Repeated First More ts a d n
  /-- A further phrase; a star directly behind a slash does not start one. -/
  | more {ts us : List Token} {a : α} {f : α → α} {d d' n m : Nat} :
    Repeated First More ts a d n → More us f d' m →
    (us.head? = some .star → ts.getLast? ≠ some .slash) →
    Repeated First More (ts ++ us) (f a) (max d d') (n + m)

/-- Phrases one behind the other. -/
inductive ListOf {α : Type} (Item : Phrases α) : Phrases (List α)
  /-- No phrases. -/
  | nil : ListOf Item [] [] 0 0
  /-- A phrase in front of others. -/
  | cons {ts us : List Token} {a : α} {as : List α} {d d' n m : Nat} :
    Item ts a d n → ListOf Item us as d' m →
    ListOf Item (ts ++ us) (a :: as) (max d d') (n + m)

/-! ## Steps -/

/-- The axis of a step. -/
inductive AxisSpecifier : List Token → Axis → Prop
  /-- No axis is written. -/
  | omitted : AxisSpecifier [] .child
  /-- The sign `@`. -/
  | at : AxisSpecifier [.at] .attribute
  /-- The name of an axis and two colons. -/
  | named (a : Axis) : AxisSpecifier [.axis a.name, .doubleColon] a

/-- A node test. -/
inductive NodeTestExpr : List Token → NodeTest → Prop
  /-- A star. -/
  | any : NodeTestExpr [.star] .any
  /-- A name. -/
  | name {l : String} : NodeTestExpr [.name l] (.name l)
  /-- A name with a prefix. -/
  | qname {p l : String} : NodeTestExpr [.qname p l] (.qname p l)
  /-- A star with a prefix. -/
  | wildcard {p : String} : NodeTestExpr [.prefixWildcard p] (.wildcard p)
  /-- The node type of all nodes. -/
  | node : NodeTestExpr [.nodeType "node", .leftParen, .rightParen] .node
  /-- The node type of character data. -/
  | text : NodeTestExpr [.nodeType "text", .leftParen, .rightParen] .text
  /-- The node type of comments. -/
  | comment : NodeTestExpr [.nodeType "comment", .leftParen, .rightParen] .comment
  /-- The node type of processing instructions. -/
  | instruction :
    NodeTestExpr [.nodeType "processing-instruction", .leftParen, .rightParen] (.instruction none)
  /-- The node type of processing instructions with a target. -/
  | target {t : String} :
    NodeTestExpr [.nodeType "processing-instruction", .leftParen, .string t, .rightParen]
      (.instruction (some t))

/-- An expression in brackets. -/
inductive PredicateExpr (Nested : Phrases Expr) : Phrases Expr
  | intro {ts : List Token} {e : Expr} {d n : Nat} :
    Nested ts e d n → PredicateExpr Nested (.leftBracket :: (ts ++ [.rightBracket])) e d n

/-- A location step. -/
inductive StepExpr (Nested : Phrases Expr) : Phrases Step
  /-- The sign `.`. -/
  | self : StepExpr Nested [.dot] (.anyNode .self) 0 0
  /-- The sign `..`. -/
  | parent : StepExpr Nested [.doubleDot] (.anyNode .parent) 0 0
  /-- An axis, a node test and predicates. -/
  | full {ts us vs : List Token} {a : Axis} {t : NodeTest} {ps : List Expr} {d n : Nat} :
    AxisSpecifier ts a → NodeTestExpr us t → ListOf (PredicateExpr Nested) vs ps d n →
    StepExpr Nested (ts ++ (us ++ vs)) ⟨a, t, ps⟩ d n

/-! ## Paths -/

/-- An argument behind a comma. -/
inductive FurtherArgument (Nested : Phrases Expr) : Phrases Expr
  | intro {ts : List Token} {e : Expr} {d n : Nat} :
    Nested ts e d n → FurtherArgument Nested (.comma :: ts) e d n

/-- The arguments of a function. -/
inductive Arguments (Nested : Phrases Expr) : Phrases (List Expr)
  /-- No arguments. -/
  | none : Arguments Nested [] [] 0 0
  /-- A first argument, and others behind commas. -/
  | some {ts us : List Token} {e : Expr} {es : List Expr} {d d' n m : Nat} :
    Nested ts e d n → ListOf (FurtherArgument Nested) us es d' m →
    Arguments Nested (ts ++ us) (e :: es) (max d d') (n + m)

/-- A primary expression. -/
inductive PrimaryExpr (Nested : Phrases Expr) : Phrases Expr
  /-- A number literal. -/
  | number {x : Float} : PrimaryExpr Nested [.number x] (.number x) 0 0
  /-- A string literal. -/
  | string {s : String} : PrimaryExpr Nested [.string s] (.string s) 0 0
  /-- A variable. -/
  | variable {l : String} : PrimaryExpr Nested [.dollar, .name l] (.variable l) 0 0
  /-- A variable with a prefix. -/
  | prefixedVariable {p l : String} :
    PrimaryExpr Nested [.dollar, .qname p l] (.variable (p ++ ":" ++ l)) 0 0
  /-- An expression in parentheses. -/
  | group {ts : List Token} {e : Expr} {d n : Nat} :
    Nested ts e d n → PrimaryExpr Nested (.leftParen :: (ts ++ [.rightParen])) e d n
  /-- A function call. -/
  | call {f : String} {ts : List Token} {es : List Expr} {d n : Nat} :
    Arguments Nested ts es d n →
    PrimaryExpr Nested (.functionName f :: .leftParen :: (ts ++ [.rightParen])) (.call f es) d n

/-- A predicate of what is in front of it. -/
inductive Filtering (Nested : Phrases Expr) : Phrases (Expr → Expr)
  | intro {ts : List Token} {e : Expr} {d n : Nat} :
    PredicateExpr Nested ts e d n → Filtering Nested ts (.filter · e) d (n + 1)

/-- A separator in front of a step, what it makes of the expression in front of it, and the items it
counts for. Two slashes stand for a step to the descendants between two slashes. -/
inductive Separator : Token → (Expr → Expr) → (items : Nat) → Prop
  | slash : Separator .slash id 1
  | doubleSlash : Separator .doubleSlash .withDescendants 2

/-- A step from what is in front of it, behind a separator. -/
inductive Stepping (Nested : Phrases Expr) : Phrases (Expr → Expr)
  | intro {t : Token} {g : Expr → Expr} {ts : List Token} {s : Step} {d n k : Nat} :
    Separator t g k → StepExpr Nested ts s d n →
    Stepping Nested (t :: ts) (fun base => (g base).andStep s) d (n + k)

/-- Where a path starts. -/
inductive PathStart (Nested : Phrases Expr) : Phrases Expr
  /-- With a step from the document. -/
  | absolute {ts : List Token} {f : Expr → Expr} {d n : Nat} :
    Stepping Nested ts f d n → PathStart Nested ts (f .root) d n
  /-- With a step from the context node. -/
  | relative {ts : List Token} {s : Step} {d n : Nat} :
    StepExpr Nested ts s d n → PathStart Nested ts s.toExpr d n
  /-- With a primary expression, which may have predicates. -/
  | filter {ts : List Token} {e : Expr} {d n : Nat} :
    Repeated (PrimaryExpr Nested) (Filtering Nested) ts e d n → PathStart Nested ts e d n

/-- A path. -/
inductive PathExpr (Nested : Phrases Expr) : Phrases Expr
  /-- The document alone. -/
  | root : PathExpr Nested [.slash] .root 0 0
  /-- The start of a path, and steps behind it. -/
  | steps {ts : List Token} {e : Expr} {d n : Nat} :
    Repeated (PathStart Nested) (Stepping Nested) ts e d n → PathExpr Nested ts e d n

/-! ## Operators -/

/-- The operators, by how tightly they bind. -/
inductive Operator : (tier : Nat) → Token → (Expr → Expr → Expr) → Prop
  | or : Operator 1 .or (.binary .or)
  | and : Operator 2 .and (.binary .and)
  | eq : Operator 3 .eq (.binary .eq)
  | notEq : Operator 3 .notEq (.binary .notEq)
  | lt : Operator 4 .lt (.binary .lt)
  | ltEq : Operator 4 .ltEq (.binary .ltEq)
  | gt : Operator 4 .gt (.binary .gt)
  | gtEq : Operator 4 .gtEq (.binary .gtEq)
  | plus : Operator 5 .plus (.binary .add)
  | minus : Operator 5 .minus (.binary .sub)
  | star : Operator 6 .star (.binary .mul)
  | div : Operator 6 .div (.binary .div)
  | mod : Operator 6 .mod (.binary .mod)
  | pipe : Operator 7 .pipe .union

/-- An operator between what is in front of it and an operand. -/
inductive Joining (tier : Nat) (Operand : Phrases Expr) : Phrases (Expr → Expr)
  | intro {t : Token} {join : Expr → Expr → Expr} {ts : List Token} {right : Expr} {d n : Nat} :
    Operator tier t join → Operand ts right d n →
    Joining tier Operand (t :: ts) (join · right) d (n + 1)

/-- Operands with the operators of a tier between them, grouped from the left. -/
inductive Tier (tier : Nat) (Operand : Phrases Expr) : Phrases Expr
  | intro {ts : List Token} {e : Expr} {d n : Nat} :
    Repeated Operand (Joining tier Operand) ts e d n → Tier tier Operand ts e d n

mutual

/-- An expression: operators between unary expressions. It is open itself while others are open
inside it. -/
inductive Expression : Phrases Expr
  | intro {ts : List Token} {e : Expr} {d n : Nat} :
    Tier 1 (Tier 2 (Tier 3 (Tier 4 (Tier 5 (Tier 6 UnaryExpr))))) ts e d n →
    Expression ts e (d + 1) n

/-- A unary expression. A negation is open while others are open inside it. -/
inductive UnaryExpr : Phrases Expr
  /-- The negative of a unary expression. -/
  | negate {ts : List Token} {e : Expr} {d n : Nat} :
    UnaryExpr ts e d n → UnaryExpr (.minus :: ts) (.negate e) (d + 1) n
  /-- The union of paths. -/
  | union {ts : List Token} {e : Expr} {d n : Nat} :
    Tier 7 (PathExpr Expression) ts e d n → UnaryExpr ts e d n

end

/-- A path is a unary expression, and with nothing around it an expression. -/
theorem PathExpr.expression {ts : List Token} {e : Expr} {d n : Nat}
    (h : PathExpr Expression ts e d n) : Expression ts e (d + 1) n :=
  .intro (.intro (.first (.intro (.first (.intro (.first (.intro (.first (.intro (.first
    (.intro (.first (.union (.intro (.first h)))))))))))))))

end XmlQuery.XPath.Grammar
