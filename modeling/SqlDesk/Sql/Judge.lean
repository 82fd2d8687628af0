/-
Whether SQL text has errors.

The judge looks at the text from afar. Round brackets have to match and quotes have to be closed.
Between semicolons there is either a statement, which opens with a word of its own and does not
break off where something has to follow, or an expression with at most a name after it, as a part of
a statement may be. All else is not looked at: what stands in brackets, and how a statement goes on.

Many words of the language are also names where no rule wants the word: `a desc` is an expression
with the name `desc`, and `is null` one about something called `is`.
-/
import SqlDesk.Sql.Lexer

namespace SqlDesk.Sql

/-- Whether round brackets fail to match. -/
def isUnbalanced (tokens : List Token) : Bool :=
  let depth := tokens.foldl (fun (depth : Option Nat) token =>
    if token.isMark '(' then depth.map (· + 1)
    else if token.isMark ')' then depth.bind fun n => if n = 0 then none else some (n - 1)
    else depth) (some 0)
  depth != some 0

/-- Whether a token is a quote that is never closed. -/
def isLoneQuote (token : Token) : Bool :=
  token.kind = .other && (token.text = ['\''] || token.text = ['"'])

/-- Whether a token is one of some words. -/
def isOneOf (words : List String) (token : Token) : Bool :=
  words.any token.isKeyword

/-- The tokens of a text as the judge reads them: a name right before a bracket that is spelled as a
word of the language is that word. -/
def respelled : List Token → List Token
  | [] => []
  | token :: rest =>
    let isCall := token.kind = .name && rest.head?.any (·.isMark '(')
    (if isCall then { token with kind := wordKind token.text } else token) :: respelled rest

/-- The tokens outside of round brackets and of CASE; what opens each of them stays. Nothing if one
of them is never closed. -/
def outermost? : Nat → List Token → Option (List Token)
  | depth, [] => if depth = 0 then some [] else none
  | depth, token :: rest =>
    if token.isMark '(' || token.isKeyword "CASE" then
      (outermost? (depth + 1) rest).map fun tokens => if depth = 0 then token :: tokens else tokens
    else if depth = 0 then (outermost? 0 rest).map (token :: ·)
    else if token.isMark ')' || token.isKeyword "END" then outermost? (depth - 1) rest
    else outermost? depth rest

/-- Whether a token can be a name. -/
def isNamable (token : Token) : Bool :=
  [.name, .symbol, .other, .order].contains token.kind ||
    isOneOf ["IS", "NULL", "END", "EXISTS", "SET", "LEFT", "RIGHT", "FULL", "ALL", "BY", "GROUP",
      "ORDER"] token ||
    (token.kind = .verb && ["UPDATE", "DELETE"].contains (String.ofList (capitals token.text)))

/-- Whether a token is or opens an operand. -/
def opensOperand (token : Token) : Bool :=
  isNamable token || [.string, .number, .wildcard].contains token.kind || token.isMark '(' ||
    isOneOf ["CASE", "NOT NULL"] token

/-- Whether a token joins the operand before it with the one after it. -/
def joinsOperands (token : Token) : Bool :=
  [.comparison, .operator, .wildcard].contains token.kind || token.isMark '.' ||
    isOneOf ["AND", "OR", "IN", "BETWEEN"] token

/-- Whether a token goes on with the operand before it. -/
def extendsOperand (token : Token) : Bool :=
  token.isMark '(' || token.kind = .string || isOneOf ["NOT", "NOT NULL"] token ||
    (token.kind = .number && token.text.head? = some '-')

/-- Whether a token unites two queries. -/
def unites (token : Token) : Bool :=
  isOneOf ["UNION", "UNION ALL"] token

/-- The places in an expression: before an operand, after one, after IS, before the name of the
whole, after that name, before a query that the expression is united with, and in that query. -/
inductive Place where
  | before
  | after
  | asking
  | naming
  | named
  | uniting
  | united
  deriving DecidableEq, Repr

namespace Place

/-- The place after a token. -/
def next (place : Place) (token : Token) : Option Place :=
  match place with
  | before =>
    if opensOperand token then some after
    else if token.kind = .operator || token.isKeyword "NOT" then some before
    else none
  | after =>
    if token.isKeyword "IS" then some asking
    else if token.isKeyword "AS" then some naming
    else if unites token then some uniting
    else if joinsOperands token then some before
    else if extendsOperand token then some after
    else if isNamable token then some named
    else none
  | asking =>
    if token.isKeyword "NOT" then some asking
    else if opensOperand token then some after
    else none
  | naming => if opensOperand token then some named else none
  | named => if unites token then some uniting else none
  | uniting => if token.kind = .verb || token.isMark '(' then some united else none
  | united => some united

/-- Whether an expression can end at a place. -/
def isEnd (place : Place) : Bool :=
  place ≠ before && place ≠ uniting

end Place

/-- Whether tokens are an expression, with at most a name after it. -/
def isExpression (tokens : List Token) : Bool :=
  match outermost? 0 tokens with
  | none => false
  | some tokens =>
    let stop := tokens.foldl (fun (place : Option Place) token => place.bind (·.next token))
      (some .before)
    stop.any Place.isEnd

/-- Whether a token is nothing without what has to follow it. -/
def needsMore (token : Token) : Bool :=
  token.kind = .comparison || token.kind = .operator ||
    isOneOf ["FROM", "WHERE", "HAVING", "AND", "OR", "NOT", "BETWEEN", "ORDER BY"] token ||
    unites token ||
    (token.kind = .keyword && "JOIN".toList.isSuffixOf (capitals token.text))

/-- Whether tokens are a statement, by the words that it opens with. -/
def isStatement : List Token → Bool
  | [] => false
  | first :: rest =>
    first.kind = .verb || first.kind = .tables ||
      isOneOf ["FROM", "VALUES", "SET", "ELSE", "END"] first ||
      (first.isMark '(' && (rest.dropWhile (·.isMark '(')).head?.any fun token =>
        token.kind = .verb || token.kind = .tables)

/-- Whether tokens have errors although they open no statement: they are no expression, or they ask
for the description of something that has no name. -/
def isMalformedPart : List Token → Bool
  | [] => false
  | first :: rest =>
    if first.kind = .order && capitals first.text = "DESC".toList then
      !rest.head?.any isNamable || !isExpression rest
    else !isExpression (first :: rest)

/-- Whether what stands between two semicolons has errors. -/
def isMalformed (tokens : List Token) : Bool :=
  let tokens := tokens.filter fun token => !token.isBlank && !token.isComment
  if isStatement tokens then tokens.getLast?.any needsMore else isMalformedPart tokens

/-- What stands between semicolons. -/
def betweenSemicolons (tokens : List Token) : List (List Token) :=
  tokens.foldr (fun token parts =>
    match parts with
    | [] => [[token]]
    | part :: parts =>
      if token.isMark ';' then [] :: part :: parts else (token :: part) :: parts) [[]]

/-- Whether a text has errors. -/
def hasErrors (cs : List Char) : Bool :=
  let tokens := respelled (tokens cs)
  isUnbalanced tokens || tokens.any isLoneQuote || (betweenSemicolons tokens).any isMalformed

end SqlDesk.Sql
