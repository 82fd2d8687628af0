/-
Documents that can be formatted.

The format command sees a document through a view: its path, its text, its selection and three ways
to change it, with offsets that count characters. A plain document keeps just that. The document of
the editor keeps a text widget, whose cursor counts UTF-16 units; its view converts every offset.
-/
import SqlDesk.Format.Selection
import SqlDesk.Editor.Widget

namespace SqlDesk

/-- How the format command sees and changes a document of some type. -/
structure DocumentView (δ : Type) where
  path : δ → String
  text : δ → List Char
  selection : δ → Selection
  replaceRange : Int → Int → List Char → δ → δ
  replaceAll : List Char → δ → δ
  setCaret : Int → δ → δ

/-- A document that is a text with a selection. -/
structure PlainDocument where
  path : String
  text : List Char
  selection : Selection
  deriving DecidableEq, Repr

namespace PlainDocument

/-- Puts a text in the place of the characters between two offsets, with the caret after it. -/
def replaceRange (start stop : Int) (text : List Char) (document : PlainDocument) :
    PlainDocument :=
  let old := document.text
  let caret := start + text.length
  { document with
    text := old.take (Text.place old.length start) ++ text ++ old.drop (Text.place old.length stop)
    selection := ⟨caret, caret⟩ }

/-- Replaces the whole text, with the caret after it. -/
def replaceAll (text : List Char) (document : PlainDocument) : PlainDocument :=
  { document with text := text, selection := ⟨text.length, text.length⟩ }

/-- Moves the caret to an offset, or to the nearest end of the text. -/
def setCaret (offset : Int) (document : PlainDocument) : PlainDocument :=
  let caret := min (max offset 0) document.text.length
  { document with selection := ⟨caret, caret⟩ }

/-- The view of a plain document. -/
def view : DocumentView PlainDocument where
  path := path
  text := text
  selection := selection
  replaceRange := replaceRange
  replaceAll := replaceAll
  setCaret := setCaret

end PlainDocument

/-- A document in the editor: a text widget and the path of the file. -/
structure EditorDocument where
  widget : TextWidget := {}
  path : String := ""
  deriving DecidableEq, Repr

namespace EditorDocument

/-- The text of the document. -/
def text (document : EditorDocument) : List Char :=
  document.widget.text

/-- The selection of the widget in characters. -/
def selection (document : EditorDocument) : Selection :=
  ⟨Text.Utf16.toOffset document.text document.widget.anchor,
    Text.Utf16.toOffset document.text document.widget.position⟩

/-- The position in the widget of an offset. -/
def positionOf (document : EditorDocument) (offset : Int) : Nat :=
  Text.Utf16.ofOffset document.text offset

/-- Puts a text in the place of the characters between two offsets. -/
def replaceRange (start stop : Int) (text : List Char) (document : EditorDocument) :
    EditorDocument :=
  let widget := document.widget.select (document.positionOf start) (document.positionOf stop)
  { document with widget := widget.insert text }

/-- Replaces the whole text. -/
def replaceAll (text : List Char) (document : EditorDocument) : EditorDocument :=
  { document with widget := document.widget.replaceAll text }

/-- Moves the cursor to an offset. -/
def setCaret (offset : Int) (document : EditorDocument) : EditorDocument :=
  { document with widget := document.widget.moveTo (document.positionOf offset) }

/-- The view of a document in the editor. -/
def view : DocumentView EditorDocument where
  path := path
  text := text
  selection := selection
  replaceRange := replaceRange
  replaceAll := replaceAll
  setCaret := setCaret

end EditorDocument

end SqlDesk
