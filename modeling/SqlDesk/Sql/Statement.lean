/-
SQL text as statements.

A statement ends with a semicolon that stands at no depth of round brackets; the word END lowers the
depth as a closing bracket does. Spaces and line comments after the semicolon still belong to it,
but not a hint, which is a line comment that opens with a plus sign. What is left at the end is a
statement unless it is white space only.
-/
import SqlDesk.Sql.Lexer

namespace SqlDesk.Sql

/-- By how much a token raises the depth. -/
def depthStep (token : Token) : Int :=
  if token.isMark '(' then 1
  else if token.isMark ')' || token.isKeyword "END" then -1
  else 0

/-- Whether a token is a line comment that opens with a plus sign. -/
def Token.isHint (token : Token) : Bool :=
  token.kind = .lineComment && token.text[2]? = some '+'

/-- Whether a token still belongs to the statement whose semicolon is behind it. -/
def trails (token : Token) : Bool :=
  token.kind = .blank || (token.kind = .lineComment && !token.isHint)

/-- Cuts tokens into statements; `seen` holds those of the current one, the last first, and `ended`
says whether it has its semicolon. -/
def cutFrom (seen : List Token) (depth : Int) (ended : Bool) : List Token → List (List Token)
  | [] => if seen.all Token.isBlank then [] else [seen.reverse]
  | token :: rest =>
    if ended && !trails token then
      let depth := depthStep token
      seen.reverse :: cutFrom [token] depth (token.isMark ';' && depth ≤ 0) rest
    else
      let depth := depth + depthStep token
      cutFrom (token :: seen) depth (ended || (token.isMark ';' && depth ≤ 0)) rest

/-- The statements of a text, as tokens. -/
def statements (tokens : List Token) : List (List Token) :=
  cutFrom [] 0 false tokens

/-- The text of tokens. -/
def textOf (tokens : List Token) : List Char :=
  tokens.flatMap (·.text)

/-- The statements of a text, each without blanks at its ends. -/
def split (cs : List Char) : List (List Char) :=
  (statements (tokens cs)).map fun statement => Text.trim (textOf statement)

end SqlDesk.Sql
