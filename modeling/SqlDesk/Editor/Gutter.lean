/-
The gutter with the line numbers.

Every digit and every space is seven wide, every line ten high. The gutter is as wide as its margins
and the digits of the last line number; the line of the cursor stands out. A press on a number
selects its line.
-/
import SqlDesk.Editor.Widget
import SqlDesk.Settings

namespace SqlDesk.Gutter

/-- The width of a character. -/
def characterWidth : Int := 7

/-- The height of a line. -/
def lineHeight : Int := 10

/-- The width of the gutter beside a number of lines. -/
def width (settings : EditorSettings) (lines : Nat) : Int :=
  settings.gutter.leftMargin + settings.gutter.rightMargin +
    characterWidth * (toString (max 1 lines)).length

/-- The distance of two tab stops. -/
def tabStop (settings : EditorSettings) : Int :=
  characterWidth * settings.font.tabWidth

/-- What is painted: an area, or a text in an area, with its colour. -/
inductive Mark where
  | fill (x y width height : Int) (color : String)
  | text (x y width height : Int) (text color : String)
  deriving DecidableEq, Repr

/-- The marks of a line. -/
def lineMarks (settings : EditorSettings) (area : Int) (current : Nat) (line : Nat) : List Mark :=
  let top := lineHeight * line
  let number (color : String) : Mark :=
    .text 0 top (area - settings.gutter.rightMargin) lineHeight (toString (line + 1)) color
  if line = current then [.fill 0 top area lineHeight "#e4e4e4", number "#1a1a1a"]
  else [number "#8a8a8a"]

/-- Whether a line has a part between two rows. -/
def isVisible (top bottom : Int) (line : Nat) : Bool :=
  lineHeight * line ≤ bottom && top ≤ lineHeight * line + lineHeight

/-- The marks of the gutter, painted with some width from the row `top` on over `height` rows. -/
def paint (settings : EditorSettings) (widget : TextWidget) (area top height : Int) : List Mark :=
  let visible := (List.range widget.lineCount).filter (isVisible top (top + height - 1))
  visible.flatMap (lineMarks settings area (widget.lineAt widget.position))

/-- The widget after a press on a row of the gutter. -/
def press (widget : TextWidget) (y : Int) : TextWidget :=
  if y < 0 then widget else widget.selectLine (y / lineHeight).toNat

end SqlDesk.Gutter
