import XmlQuery.XPath.Expr
import XmlQuery.XPath.Syntax

/-!
# Parsing expressions

A recursive descent over the tokens of an expression. Abbreviations are expanded on the way: `.`
is `self::node()`, `..` is `parent::node()`, `@` is the axis `attribute`, and `//` is
`/descendant-or-self::node()/`.

Two counters bound the tree. One is the number of expressions that are open at a time: the whole
expression, groups, predicates, arguments and negations. It goes up where one opens and down where
one has been read. The other is the number of operators, predicates of filters and path separators
in all, which goes on to the end.

## Main definitions

* `Parser`: a reader of tokens
* `Parser.nest`, `Parser.unnest`: an expression opens, and it has been read
* `Parser.opened`: an expression is open while it is read
* `unary`, `nestedExpr`: the parsers of unary and of nested expressions
* `parse`: the expression that a text is
-/

namespace XmlQuery.XPath

/-- The most expressions that may be open at a time. -/
def maxNesting : Nat := 64

/-- The most operators, predicates of filters and path separators. -/
def maxItems : Nat := 256

/-- The tokens that are left, and what has been counted. -/
structure ParserState where
  /-- The tokens that are left. -/
  lexemes : List Lexeme
  /-- Where the tokens end. -/
  stop : Nat
  /-- Why they end there, unless it is the end of the expression. -/
  stopFault : Option LexicalFault
  /-- The number of items that may still come. -/
  items : Nat
  /-- The number of expressions that are open. -/
  nesting : Nat

/-- A reader of tokens, which fails with what is wrong and where. -/
abbrev Parser := StateT ParserState (Except SyntaxError)

namespace ParserState

/-- The token that comes next. -/
def next? (s : ParserState) : Option Token := s.lexemes.head?.map (·.token)

/-- The byte at which the next token starts, or at which the tokens end. -/
def offset (s : ParserState) : Nat := (s.lexemes.head?.map (·.offset)).getD s.stop

/-- The state, unless the tokens end here with a fault. -/
def check (s : ParserState) : Except SyntaxError ParserState :=
  match s.lexemes, s.stopFault with
  | [], some fault => .error ⟨s.stop, .lexical fault⟩
  | _, _ => .ok s

end ParserState

namespace Parser

/-- The token that comes next. -/
def peek : Parser (Option Token) := return (← get).next?

/-- Refuses the expression at the next token. -/
def refuse {α : Type} (fault : SyntaxFault) : Parser α := do
  throw ⟨(← get).offset, fault⟩

/-- Takes the next token. -/
def advance : Parser Unit := fun s =>
  (ParserState.check { s with lexemes := s.lexemes.tail }).map ((), ·)

/-- Counts items. -/
def count (n : Nat) : Parser Unit := do
  let s ← get
  if s.items < n then refuse .tooDeep
  else set { s with items := s.items - n }

/-- Opens an expression, unless too many are open. -/
def nest : Parser Unit := do
  modify fun s => { s with nesting := s.nesting + 1 }
  if maxNesting < (← get).nesting then refuse .tooDeep

/-- Closes an expression that has been read. -/
def unnest : Parser Unit := modify fun s => { s with nesting := s.nesting - 1 }

/-- Reads an expression, which is open while it is read. -/
def opened {α : Type} (p : Parser α) : Parser α := do
  nest
  let a ← p
  unnest
  return a

/-- Takes the next token, which has to be of a kind. -/
def expect (is : Token → Bool) (what : Wanted) : Parser Unit := do
  let next ← peek
  if next.any is then advance else refuse (.expected what next)

/-- Repeats a reader that takes a token whenever it goes on, at most `fuel` times. -/
def iterate {α : Type} (body : α → Parser (Option α)) : (fuel : Nat) → α → Parser α
  | 0, a => pure a
  | fuel + 1, a => do
    match ← body a with
    | none => pure a
    | some b => iterate body fuel b

/-- Repeats a reader that takes a token whenever it goes on, as often as it does. -/
def repeating {α : Type} (body : α → Parser (Option α)) (a : α) : Parser α := do
  iterate body (← get).lexemes.length a

end Parser

open XmlQuery.XPath.Parser

/-! ## Operators -/

/-- Operands with operators between them, grouped from the left. -/
def chain (operator? : Token → Option (Expr → Expr → Expr)) (operand : Parser Expr) :
    Parser Expr := do
  let first ← operand
  repeating (fun left => do
    match (← peek).bind operator? with
    | none => pure none
    | some join =>
      count 1
      advance
      return some (join left (← operand))) first

/-- The disjunction operator. -/
def orOperator : Token → Option BinaryOp
  | .or => some .or
  | _ => none

/-- The conjunction operator. -/
def andOperator : Token → Option BinaryOp
  | .and => some .and
  | _ => none

/-- The operators of equality. -/
def equalityOperator : Token → Option BinaryOp
  | .eq => some .eq
  | .notEq => some .notEq
  | _ => none

/-- The operators of order. -/
def relationalOperator : Token → Option BinaryOp
  | .lt => some .lt
  | .ltEq => some .ltEq
  | .gt => some .gt
  | .gtEq => some .gtEq
  | _ => none

/-- The operators of addition. -/
def additiveOperator : Token → Option BinaryOp
  | .plus => some .add
  | .minus => some .sub
  | _ => none

/-- The operators of multiplication. -/
def multiplicativeOperator : Token → Option BinaryOp
  | .star => some .mul
  | .div => some .div
  | .mod => some .mod
  | _ => none

/-- The operator of union. -/
def unionOperator : Token → Option (Expr → Expr → Expr)
  | .pipe => some .union
  | _ => none

/-- The operators between operands, those that bind the least first. -/
def precedence : List (Token → Option BinaryOp) :=
  [orOperator, andOperator, equalityOperator, relationalOperator, additiveOperator,
    multiplicativeOperator]

/-- An expression of operators between unary expressions. -/
def operators (unary : Parser Expr) : Parser Expr :=
  precedence.foldr (fun operator? operand => chain (fun t => (operator? t).map .binary) operand)
    unary

/-! ## Steps -/

/-- A location step can start with the token. -/
def startsStep : Token → Bool
  | .name _ | .qname _ _ | .prefixWildcard _ | .nodeType _ | .axis _ => true
  | .star | .at | .dot | .doubleDot => true
  | _ => false

/-- The token opens a parenthesis. -/
def isLeftParen : Token → Bool
  | .leftParen => true
  | _ => false

/-- The token closes a parenthesis. -/
def isRightParen : Token → Bool
  | .rightParen => true
  | _ => false

/-- The token opens a bracket. -/
def isLeftBracket : Token → Bool
  | .leftBracket => true
  | _ => false

/-- The token closes a bracket. -/
def isRightBracket : Token → Bool
  | .rightBracket => true
  | _ => false

/-- The token is two colons. -/
def isDoubleColon : Token → Bool
  | .doubleColon => true
  | _ => false

/-- A predicate in brackets. -/
def predicate (nested : Parser Expr) : Parser Expr := do
  expect isLeftBracket .leftBracket
  let e ← nested
  expect isRightBracket .rightBracket
  return e

/-- Predicates in brackets, as many as there are. -/
def predicates (nested : Parser Expr) : Parser (List Expr) := do
  let found ← repeating (fun (found : List Expr) => do
    if (← peek).any isLeftBracket then return some ((← predicate nested) :: found)
    else return none) []
  return found.reverse

/-- The target of a processing instruction, if one is given. -/
def instructionTarget : Parser (Option String) := do
  match ← peek with
  | some (.string target) =>
    advance
    return some target
  | _ => return none

/-- The test with a node type, whose parentheses come next. -/
def nodeType (name : String) : Parser NodeTest := do
  expect isLeftParen .leftParen
  let test ←
    if name = "node" then pure NodeTest.node
    else if name = "text" then pure NodeTest.text
    else if name = "comment" then pure NodeTest.comment
    else NodeTest.instruction <$> instructionTarget
  expect isRightParen .rightParen
  return test

/-- A node test. -/
def nodeTest : Parser NodeTest := do
  match ← peek with
  | some .star =>
    advance
    return .any
  | some (.name n) =>
    advance
    return .name n
  | some (.qname p l) =>
    advance
    return .qname p l
  | some (.prefixWildcard p) =>
    advance
    return .wildcard p
  | some (.nodeType name) =>
    advance
    nodeType name
  | found => refuse (.expected .nodeTest found)

/-- The axis of a step, which is `child` if none is written. -/
def axis : Parser Axis := do
  match ← peek with
  | some .at =>
    advance
    return .attribute
  | some (.axis name) =>
    match Axis.ofName? name with
    | none => refuse (.unknownAxis name)
    | some a =>
      advance
      expect isDoubleColon .doubleColon
      return a
  | _ => return .child

/-- A location step. -/
def step (nested : Parser Expr) : Parser Step := do
  match ← peek with
  | some .dot =>
    advance
    return .anyNode .self
  | some .doubleDot =>
    advance
    return .anyNode .parent
  | _ =>
    let a ← axis
    let test ← nodeTest
    return ⟨a, test, ← predicates nested⟩

/-! ## Primary expressions -/

/-- The arguments of a function, up to the closing parenthesis. -/
def arguments (nested : Parser Expr) : Parser (List Expr) := do
  let found ←
    if (← peek).any isRightParen then pure []
    else do
      let first ← nested
      repeating (fun found => do
        match ← peek with
        | some .comma =>
          advance
          return some ((← nested) :: found)
        | _ => return none) [first]
  expect isRightParen .rightParen
  return found.reverse

/-- An expression that is neither a path nor made of operators. -/
def primary (nested : Parser Expr) : Parser Expr := do
  match ← peek with
  | some (.number value) =>
    advance
    return .number value
  | some (.string value) =>
    advance
    return .string value
  | some .dollar =>
    advance
    match ← peek with
    | some (.name n) =>
      advance
      return .variable n
    | some (.qname p l) =>
      advance
      return .variable (p ++ ":" ++ l)
    | _ => refuse .noVariableName
  | some .leftParen =>
    advance
    let e ← nested
    expect isRightParen .rightParen
    return e
  | some (.functionName name) =>
    advance
    expect isLeftParen .leftParen
    return .call name (← arguments nested)
  | found => refuse (.unexpected found)

/-- A primary expression with predicates. -/
def filterExpr (nested : Parser Expr) : Parser Expr := do
  let first ← primary nested
  repeating (fun base => do
    if (← peek).any isLeftBracket then
      count 1
      return some (.filter base (← predicate nested))
    else return none) first

/-! ## Paths -/

/-- The steps that follow a base, each after a separator. -/
def moreSteps (nested : Parser Expr) (base : Expr) : Parser Expr :=
  repeating (fun (base : Expr) => do
    match ← peek with
    | some .slash =>
      count 1
      advance
      return some (base.andStep (← step nested))
    | some .doubleSlash =>
      count 2
      advance
      return some (base.withDescendants.andStep (← step nested))
    | _ => return none) base

/-- A location path or a filtered primary expression, with the steps that follow. A slash that
no step follows is the document alone. -/
def pathExpr (nested : Parser Expr) : Parser Expr := do
  match ← peek with
  | some .slash =>
    advance
    if (← peek).any startsStep then
      count 1
      moreSteps nested (Expr.root.andStep (← step nested))
    else return .root
  | some .doubleSlash =>
    count 2
    advance
    moreSteps nested (Expr.root.withDescendants.andStep (← step nested))
  | next =>
    if next.any startsStep then moreSteps nested (← step nested).toExpr
    else moreSteps nested (← filterExpr nested)

/-! ## Whole expressions -/

/-- A unary expression: a negation, or a union of paths. -/
def unaryWith (negation nested : Parser Expr) : Parser Expr := do
  match ← peek with
  | some .minus => negation
  | _ => chain unionOperator (pathExpr nested)

/-- An expression inside another one, or a whole one. -/
def nestedExpr (unary : Parser Expr) : Parser Expr := opened (operators unary)

/-- A unary expression. One that is nested in it takes one off the fuel, and it takes a token too,
so there is fuel as long as there are tokens; `bottom` is what comes without any. -/
def unary (bottom : Parser Expr) : (fuel : Nat) → Parser Expr
  | 0 => bottom
  | fuel + 1 =>
    unaryWith (do
      let e ← opened (do
        advance
        unary bottom fuel)
      return .negate e) (nestedExpr (unary bottom fuel))

/-- A whole expression: no token is left. -/
def wholeExpr (unary : Parser Expr) : Parser Expr := do
  let e ← nestedExpr unary
  match ← peek with
  | none => return e
  | found => refuse (.unexpected found)

/-- The expression that tokens make up, with a parser of unary expressions. -/
def parseWith (unary : Parser Expr) (lexed : Lexed) : Except SyntaxError Expr := do
  let s ← ParserState.check ⟨lexed.lexemes, lexed.stop, lexed.fault, maxItems, 0⟩
  ((wholeExpr unary).run s).map (·.1)

/-- The expression that tokens make up. -/
def parseTokens (lexed : Lexed) : Except SyntaxError Expr :=
  parseWith (unary (refuse .tooDeep) (lexed.lexemes.length + 1)) lexed

/-- The expression that a text is. -/
def parse (text : String) : Except SyntaxError Expr := parseTokens (tokenize text.toList)

end XmlQuery.XPath
