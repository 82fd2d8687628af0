/-
A laid out statement as lines.

Lines end at line ends outside quotes; each is written without the blanks at its end. A quote that
is never closed, or whose text has a backslash right before a line end, does not quote.
-/
import SqlDesk.Text.Blank
import SqlDesk.Text.Newline

namespace SqlDesk.Sql

/-- The length of the rest of a quotation, if it is closed. -/
def quotationLength? (quote : Char) : List Char → Option Nat
  | [] => none
  | c :: rest =>
    if c = quote then some 1
    else if c = '\\' then
      match rest with
      | [] => none
      | d :: rest => if d = '\n' then none else (quotationLength? quote rest).map (· + 2)
    else (quotationLength? quote rest).map (· + 1)

/-- The lines of a text; `line` is the current one backwards, of which `skip` more characters are
quoted. -/
def linesFrom (line : List Char) : Nat → List Char → List (List Char)
  | _, [] => [line.reverse]
  | skip + 1, c :: rest => linesFrom (c :: line) skip rest
  | 0, '\r' :: '\n' :: rest => line.reverse :: linesFrom [] 0 rest
  | 0, c :: rest =>
    if c = '\r' || c = '\n' then line.reverse :: linesFrom [] 0 rest
    else if c = '\'' || c = '"' then linesFrom (c :: line) ((quotationLength? c rest).getD 0) rest
    else linesFrom (c :: line) 0 rest

/-- A text with its lines right-trimmed. -/
def serialize (cs : List Char) : List Char :=
  Text.joinLines ((linesFrom [] 0 cs).map Text.trimRight)

end SqlDesk.Sql
