/-
The formatting of one statement.

The words of the language get their capitals or small letters first. If the statement is to be laid
out its tokens then become a tree, the white space in the tree is put in order, and the groups of
the tree are written over lines; otherwise the tokens stay as they are. Either way blanks at line
ends go.
-/
import SqlDesk.Sql.Statement
import SqlDesk.Sql.Grouping
import SqlDesk.Sql.Spacing
import SqlDesk.Sql.Layout
import SqlDesk.Sql.Serialize

namespace SqlDesk.Sql

/-- A statement laid out over lines. -/
def layOutStatement (style : Style) (statement : List Token) : List Char :=
  layOut style (spaceAll (groupAll statement))

/-- A text with its words in capitals or small letters, each of its statements laid out in a style
if there is one. -/
def format (upper : Bool) (style : Option Style) (cs : List Char) : List Char :=
  let recased := (statements (tokens cs)).map (·.map (Token.recase upper))
  (recased.map fun statement =>
    serialize <|
      match style with
      | some style => layOutStatement style statement
      | none => textOf statement).flatten

end SqlDesk.Sql
