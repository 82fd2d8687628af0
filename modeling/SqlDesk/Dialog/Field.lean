/-
What is typed into the boxes of the options dialog.

In the box of the indent string a tab and a space are shown as a backslash with a letter. A box of a
count takes whole numbers that are not negative.
-/
import SqlDesk.Failure
import SqlDesk.Text.Replace

namespace SqlDesk.Dialog

/-- An indent string as it is shown. -/
def escapeIndent (indent : List Char) : List Char :=
  Text.replaceAll [' '] ['\\', 's'] (Text.replaceAll ['\t'] ['\\', 't'] indent)

/-- The indent string that a shown one stands for. -/
def unescapeIndent (shown : List Char) : List Char :=
  Text.replaceAll ['\\', 's'] [' '] (Text.replaceAll ['\\', 't'] ['\t'] shown)

/-- A label without the colons at its end. -/
def plainLabel (label : String) : String :=
  String.ofList ((label.toList.reverse.dropWhile (· = ':')).reverse)

/-- The count typed into a box. -/
def parseCount (label text : String) : Except SettingsError Nat :=
  match Text.integer? text.toList with
  | none => .error (.notWholeNumber (plainLabel label) text)
  | some n => if n < 0 then .error (.negativeCount (plainLabel label)) else .ok n.toNat

end SqlDesk.Dialog
