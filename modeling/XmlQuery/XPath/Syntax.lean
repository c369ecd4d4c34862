import XmlQuery.Number.Text
import XmlQuery.Text.Quoted
import XmlQuery.XPath.Lexer

/-!
# Faults of expressions

## Main definitions

* `SyntaxFault`: what is wrong with the tokens of an expression
* `SyntaxError`: what is wrong and at which byte
* `Token.describe`: a token in words
-/

namespace XmlQuery.XPath

/-- What a parser was looking for. -/
inductive Wanted
  /-- An opening parenthesis. -/
  | leftParen
  /-- A closing parenthesis. -/
  | rightParen
  /-- An opening bracket. -/
  | leftBracket
  /-- A closing bracket. -/
  | rightBracket
  /-- Two colons. -/
  | doubleColon
  /-- A node test. -/
  | nodeTest
  deriving DecidableEq

/-- The wording of what was looked for. -/
def Wanted.text : Wanted → String
  | .leftParen => "'('"
  | .rightParen => "')'"
  | .leftBracket => "'['"
  | .rightBracket => "']'"
  | .doubleColon => "'::'"
  | .nodeTest => "node test"

/-- A word with a quoted text in parentheses. -/
def labelled (label text : String) : String :=
  label ++ "(" ++ Text.quote text ++ ")"

/-- A token in words. -/
def Token.describe : Token → String
  | .slash => "Slash"
  | .doubleSlash => "DoubleSlash"
  | .dot => "Dot"
  | .doubleDot => "DoubleDot"
  | .at => "At"
  | .pipe => "Pipe"
  | .plus => "Plus"
  | .minus => "Minus"
  | .star => "Star"
  | .eq => "Eq"
  | .notEq => "NotEq"
  | .lt => "Lt"
  | .ltEq => "LtEq"
  | .gt => "Gt"
  | .gtEq => "GtEq"
  | .and => "And"
  | .or => "Or"
  | .mod => "Mod"
  | .div => "Div"
  | .leftParen => "LeftParen"
  | .rightParen => "RightParen"
  | .leftBracket => "LeftBracket"
  | .rightBracket => "RightBracket"
  | .number value => "number " ++ Number.formatLiteral value
  | .string value => "string '" ++ value ++ "'"
  | .name n => "name '" ++ n ++ "'"
  | .qname p l =>
    "QName \x7b prefix: " ++ Text.quote p ++ ", local: " ++ Text.quote l ++ " \x7d"
  | .prefixWildcard p => labelled "PrefixWildcard" p
  | .nodeType n => labelled "NodeType" n
  | .functionName n => labelled "FunctionName" n
  | .axis n => labelled "Axis" n
  | .doubleColon => "DoubleColon"
  | .comma => "Comma"
  | .dollar => "Dollar"

/-- A token or the end of the expression in words. -/
def describe : Option Token → String
  | some token => token.describe
  | none => "end of expression"

/-- What is wrong with an expression. -/
inductive SyntaxFault
  /-- No token can be cut. -/
  | lexical (fault : LexicalFault)
  /-- No expression goes on with the token. -/
  | unexpected (found : Option Token)
  /-- Something else stands where this was looked for. -/
  | expected (what : Wanted) (found : Option Token)
  /-- A dollar sign is not followed by a name. -/
  | noVariableName
  /-- There is no axis of the name. -/
  | unknownAxis (name : String)
  /-- The expression is nested too deeply or has too many operators. -/
  | tooDeep

/-- The wording of what is wrong. -/
def SyntaxFault.message : SyntaxFault → String
  | .lexical fault => fault.message
  | .unexpected found => "unexpected " ++ describe found
  | .expected what found => "expected " ++ what.text ++ ", found " ++ describe found
  | .noVariableName => "expected variable name after '$'"
  | .unknownAxis name => "unknown axis '" ++ name ++ "'"
  | .tooDeep => "expression nested too deeply"

/-- What is wrong with an expression, and at which byte. -/
structure SyntaxError where
  /-- The byte. -/
  offset : Nat
  /-- What is wrong. -/
  fault : SyntaxFault

end XmlQuery.XPath
