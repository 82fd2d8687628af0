/-
Colours as texts, and the button that shows one.

A colour is written with three or six hexadecimal digits after a number sign; what is not written so
is black. The text on a button is black on a light colour and white on a dark one.
-/
import SqlDesk.Toml.Text
import SqlDesk.Text.Quoted

namespace SqlDesk.Dialog

/-- A colour: its red, green and blue, each below 256. -/
structure Color where
  red : Nat := 0
  green : Nat := 0
  blue : Nat := 0
  deriving DecidableEq, Repr

namespace Color

/-- The colour that a text denotes. -/
def parse? (text : String) : Option Color :=
  match text.toList with
  | '#' :: digits =>
    match digits.mapM Toml.hexDigit? with
    | some [r, g, b] => some ⟨17 * r, 17 * g, 17 * b⟩
    | some [r, r', g, g', b, b'] => some ⟨16 * r + r', 16 * g + g', 16 * b + b'⟩
    | _ => none
  | _ => none

/-- The text of a colour, with six small digits. -/
def name (color : Color) : String :=
  String.ofList ('#' :: Text.hexDigits 2 color.red ++ Text.hexDigits 2 color.green ++
    Text.hexDigits 2 color.blue)

/-- Whether a colour is light. -/
def isLight (color : Color) : Bool :=
  0.299 * color.red.toFloat + 0.587 * color.green.toFloat + 0.114 * color.blue.toFloat > 128.0

/-- The look of a button that shows a colour. -/
def style (text : String) : String :=
  let ink := if ((parse? text).getD {}).isLight then "#000000" else "#FFFFFF"
  s!"background-color: {text}; color: {ink}; border: 1px solid #888; padding: 2px 8px;"

/-- The text of a button after a colour has been asked for. No answer, or one that is no colour,
leaves it as it is. -/
def pick (text : String) (answer : Option String) : String :=
  match answer.bind parse? with
  | some color => color.name
  | none => text

end Color

end SqlDesk.Dialog
