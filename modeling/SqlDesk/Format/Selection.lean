/-
Selections, and the part of a text that a selection asks to format.

Offsets count characters. A selection ends where its caret is, which may lie before its start.
`trimmed` turns it forward and takes off one line end or space; `Span.of` formats a selection only
if it is a proper part of the text.
-/
import SqlDesk.Text.Slice

namespace SqlDesk

/-- A selection: where it was started, and where its caret is. -/
structure Selection where
  anchor : Int
  position : Int
  deriving DecidableEq, Repr

namespace Selection

/-- The smaller offset of a selection. -/
def start (selection : Selection) : Int :=
  min selection.anchor selection.position

/-- The larger offset of a selection. -/
def stop (selection : Selection) : Int :=
  max selection.anchor selection.position

/-- Whether the caret lies before the start. -/
def isBackward (selection : Selection) : Bool :=
  selection.position < selection.anchor

/-- The same selection with the caret at its end. -/
def normalized (selection : Selection) : Selection :=
  if selection.isBackward then ⟨selection.position, selection.anchor⟩ else selection

/-- The characters at the end of a selection that do not count: line ends and the space. -/
def isTrailing (c : Char) : Bool :=
  c = '\n' || c = '\r' || c = ' ' || c.toNat = 0x2028 || c.toNat = 0x2029

/-- Whether the last character of a selection does not count. -/
def endsTrailing (text : List Char) (selection : Selection) : Bool :=
  match Text.slice text (selection.stop - 1) selection.stop with
  | [c] => isTrailing c
  | _ => false

/-- A selection turned forward and without its last character if that one does not count. -/
def trimmed (text : List Char) (selection : Selection) : Selection :=
  let forward := selection.normalized
  if forward.start < forward.stop && forward.endsTrailing text then
    ⟨forward.anchor, forward.position - 1⟩
  else forward

end Selection

/-- The part of a text chosen for formatting: its ends, whether it is all that is changed, and
where the caret was. -/
structure Span where
  start : Int
  stop : Int
  selectionOnly : Bool
  caret : Int
  deriving DecidableEq, Repr

namespace Span

/-- The span that a selection in a text asks for. -/
def of (text : List Char) (selection : Selection) : Span :=
  let trimmed := selection.trimmed text
  let length := trimmed.stop - trimmed.start
  ⟨trimmed.start, trimmed.stop, 0 < length && length < text.length, trimmed.position⟩

/-- The text to format. -/
def target (span : Span) (text : List Char) : List Char :=
  if span.selectionOnly then Text.slice text span.start span.stop else text

end Span

end SqlDesk
