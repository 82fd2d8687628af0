/-
The text widget of the editor.

Its cursor counts UTF-16 units, so it can stand between the two units of a character; the text is
never cut there. A position that is not in the text is not taken. What is inserted takes the place
of the selection and makes the text count as modified.
-/
import SqlDesk.Text.Utf16
import SqlDesk.Text.Newline

namespace SqlDesk

/-- A text widget: its text, the two ends of its selection, and whether the text is modified. The
cursor is at `position`. -/
structure TextWidget where
  text : List Char := []
  anchor : Nat := 0
  position : Nat := 0
  modified : Bool := false
  deriving DecidableEq, Repr

namespace TextWidget

/-- The number of UTF-16 units of the text. -/
def size (widget : TextWidget) : Nat :=
  Text.Utf16.size widget.text

/-- The number of lines of the text. -/
def lineCount (widget : TextWidget) : Nat :=
  Text.lineCount widget.text

/-- A position, if it is in the text. -/
def position? (widget : TextWidget) (position : Int) : Option Nat :=
  if 0 ≤ position && position ≤ widget.size then some position.toNat else none

/-- Puts the cursor at a position, without a selection, if the position is in the text. -/
def moveTo (widget : TextWidget) (position : Int) : TextWidget :=
  match widget.position? position with
  | some place => { widget with anchor := place, position := place }
  | none => widget

/-- Moves the cursor to a position, if it is in the text; the anchor stays where it is. -/
def extendTo (widget : TextWidget) (position : Int) : TextWidget :=
  match widget.position? position with
  | some place => { widget with position := place }
  | none => widget

/-- Selects from one position to another: the cursor goes to the first and is dragged to the second.
-/
def select (widget : TextWidget) (anchor position : Int) : TextWidget :=
  (widget.moveTo anchor).extendTo position

/-- The text before the selection. -/
def before (widget : TextWidget) : List Char :=
  widget.text.take (Text.Utf16.toOffset widget.text (min widget.anchor widget.position))

/-- The text after the selection. -/
def after (widget : TextWidget) : List Char :=
  widget.text.drop (Text.Utf16.toOffset widget.text (max widget.anchor widget.position))

/-- Puts a text in the place of the selection, with the cursor after it. -/
def insert (widget : TextWidget) (text : List Char) : TextWidget :=
  let cursor := Text.Utf16.size (widget.before ++ text)
  ⟨widget.before ++ text ++ widget.after, cursor, cursor, true⟩

/-- Shows another text, with the cursor at its start. -/
def setText (_ : TextWidget) (text : List Char) : TextWidget :=
  { text := text }

/-- Puts a text in the place of the whole text, with the cursor after it. -/
def replaceAll (widget : TextWidget) (text : List Char) : TextWidget :=
  (widget.select 0 widget.size).insert text

/-- The number of the line that a position is in, from zero. -/
def lineAt (widget : TextWidget) (position : Nat) : Nat :=
  (widget.text.take (Text.Utf16.toOffset widget.text position)).count '\n'

/-- The positions at which a line starts and ends, the lines being what is left of the text. -/
def lineEnds (start : Nat) : List (List Char) → Nat → Option (Nat × Nat)
  | [], _ => none
  | line :: _, 0 => some (start, start + Text.Utf16.size line)
  | line :: rest, k + 1 => lineEnds (start + Text.Utf16.size line + 1) rest k

/-- Selects a line, without its line end; the cursor is at the end. A line that does not exist is
not selected. -/
def selectLine (widget : TextWidget) (line : Nat) : TextWidget :=
  match lineEnds 0 (Text.splitLines widget.text) line with
  | some (start, stop) => widget.select start stop
  | none => widget

end TextWidget

end SqlDesk
