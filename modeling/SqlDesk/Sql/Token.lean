/-
The tokens of SQL text.

A token is a piece of text with a kind. The words of the language are of four kinds: the verbs that
open a statement, the word that opens its common tables, the two words of order, and all others;
everything that holds for each of them is said of `isReserved`.
-/
import SqlDesk.Text.Word
import SqlDesk.Text.Blank

namespace SqlDesk.Sql

/-- The kinds of tokens. -/
inductive TokenKind where
  | blank
  | newline
  | lineComment
  | blockComment
  | wildcard
  | name
  | symbol
  | string
  | number
  | keyword
  | verb
  | tables
  | order
  | comparison
  | operator
  | punctuation
  | other
  deriving DecidableEq, Repr

/-- A piece of SQL text. -/
structure Token where
  kind : TokenKind
  text : List Char
  deriving DecidableEq, Repr

/-- A text in capitals; only the letters A to Z have them here. -/
def capitals (cs : List Char) : List Char :=
  cs.map Char.toUpper

namespace Token

/-- Whether a token is white space. -/
def isBlank (token : Token) : Bool :=
  token.kind = .blank || token.kind = .newline

/-- Whether a token is a comment. -/
def isComment (token : Token) : Bool :=
  token.kind = .lineComment || token.kind = .blockComment

/-- Whether a token is a word of the language. -/
def isReserved (token : Token) : Bool :=
  token.kind = .keyword || token.kind = .verb || token.kind = .tables || token.kind = .order

/-- Whether a token is a certain word, one that is neither verb nor a word of order. -/
def isKeyword (token : Token) (word : String) : Bool :=
  token.kind = .keyword && capitals token.text = word.toList

/-- Whether a token is a certain punctuation mark. -/
def isMark (token : Token) (mark : Char) : Bool :=
  token.kind = .punctuation && token.text = [mark]

/-- A token with the words of the language in capitals, or in small letters. -/
def recase (upper : Bool) (token : Token) : Token :=
  if token.isReserved then
    { token with text := token.text.map (if upper then Char.toUpper else Char.toLower) }
  else token

/-- The white space put in by the layout. -/
def space (cs : List Char) : Token := ⟨.blank, cs⟩

end Token

end SqlDesk.Sql
