/-
Where on its line the next character of a text goes.

Only the length of the last line counts. A line end does not open a new line by itself, the
character after it does: right after a line end the last line is still the one that it closes.
-/
import SqlDesk.Text.Newline

namespace SqlDesk.Sql

/-- The length of the last line of a text, whether that line is closed, and whether a carriage
return closed it. -/
structure Column where
  length : Nat := 0
  closed : Bool := false
  afterReturn : Bool := false
  deriving DecidableEq, Repr

namespace Column

/-- The column after one more character. -/
def step (column : Column) (c : Char) : Column :=
  if Text.isLineBreak c then
    if column.afterReturn && c = '\n' then { column with afterReturn := false }
    else { length := if column.closed then 0 else column.length, closed := true,
           afterReturn := c = '\r' }
  else { length := if column.closed then 1 else column.length + 1 }

/-- The column after a text. -/
def advance (column : Column) (cs : List Char) : Column :=
  cs.foldl step column

end Column

end SqlDesk.Sql
