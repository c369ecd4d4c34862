/-!
# Tokens of expressions

## Main definitions

* `Token`: a token
* `Lexeme`: a token and where it starts
-/

namespace XmlQuery.XPath

/-- A token of an expression. -/
inductive Token
  /-- The sign `/`. -/
  | slash
  /-- The sign `//`. -/
  | doubleSlash
  /-- The sign `.`. -/
  | dot
  /-- The sign `..`. -/
  | doubleDot
  /-- The sign `@`. -/
  | at
  /-- The sign `|`. -/
  | pipe
  /-- The sign `+`. -/
  | plus
  /-- The sign `-`. -/
  | minus
  /-- The sign `*`, a name test or an operator. -/
  | star
  /-- The sign `=`. -/
  | eq
  /-- The sign `!=`. -/
  | notEq
  /-- The sign `<`. -/
  | lt
  /-- The sign `<=`. -/
  | ltEq
  /-- The sign `>`. -/
  | gt
  /-- The sign `>=`. -/
  | gtEq
  /-- The operator `and`. -/
  | and
  /-- The operator `or`. -/
  | or
  /-- The operator `mod`. -/
  | mod
  /-- The operator `div`. -/
  | div
  /-- The sign `(`. -/
  | leftParen
  /-- The sign `)`. -/
  | rightParen
  /-- The sign `[`. -/
  | leftBracket
  /-- The sign `]`. -/
  | rightBracket
  /-- A number literal. -/
  | number (value : Float)
  /-- A string literal. -/
  | string (value : String)
  /-- A name without a colon. -/
  | name (name : String)
  /-- A name with a prefix. -/
  | qname (nsPrefix localPart : String)
  /-- A prefix with a wildcard. -/
  | prefixWildcard (nsPrefix : String)
  /-- The name of a node type, in front of a parenthesis. -/
  | nodeType (name : String)
  /-- The name of a function, in front of a parenthesis. -/
  | functionName (name : String)
  /-- The name of an axis, in front of two colons. -/
  | axis (name : String)
  /-- The sign `::`. -/
  | doubleColon
  /-- The sign `,`. -/
  | comma
  /-- The sign `$`. -/
  | dollar

/-- A token and the byte at which it starts. -/
structure Lexeme where
  /-- The byte at which the token starts. -/
  offset : Nat
  /-- The token. -/
  token : Token

/-- Whether an operand ends with the token, when one has ended before it or not. After an operand
a star multiplies; elsewhere it is a name test and an operand itself. -/
def Token.endsOperand (afterOperand : Bool) : Token → Bool
  | .number _ | .string _ | .name _ | .qname _ _ | .prefixWildcard _ => true
  | .rightParen | .rightBracket | .dot | .doubleDot => true
  | .star => !afterOperand
  | _ => false

end XmlQuery.XPath
