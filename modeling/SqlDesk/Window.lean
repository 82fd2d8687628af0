/-
The window of the editor.

A window has one document, a store of settings and the command that formats. The title shows the
name of the file and a star for unsaved changes; it follows the flag of the widget and every change
of the file. The hotkey of the command is bound when the window opens and whenever the options were
accepted.
-/
import SqlDesk.Dialog
import SqlDesk.Format.Command
import SqlDesk.Editor.Gutter

namespace SqlDesk

/-- A window: the store, the document, the format command with its action, the settings that the
editor shows, the title and the status line, whether it is closed, and the user before it. The
shortcuts of the action are key sequences of some notation. -/
structure Window (κ : Type := String) where
  store : Store
  document : EditorDocument := {}
  command : Command
  action : Action κ := {}
  editor : EditorSettings
  title : String
  status : String := ""
  closed : Bool := false
  user : User := {}

namespace Window

variable {κ : Type} [KeyNotation κ]

/-- The title for a document. -/
def titleOf (document : EditorDocument) : String :=
  let star := if document.widget.modified then "*" else ""
  let name := if document.path = "" then "Untitled" else Path.name document.path
  s!"{star}{name} - SqlTidy"

/-- The window with the title of its document. -/
def retitled (window : Window κ) : Window κ :=
  { window with title := titleOf window.document }

/-- The window with a message in its status line. -/
def noted (window : Window κ) (status : String) : Window κ :=
  { window with status := status }

/-- The window after a box was shown. -/
def shown (window : Window κ) (box : Box) : Window κ :=
  { window with user := window.user.shown box }

/-- The window on a store. -/
def opened (store : Store) (action : Action κ) (libraries : Engine.Libraries := .sql) : Window κ :=
  let (reply, action) := Hotkey.push (some Action.host) action store
  { store := store
    command := Command.configured store.settings none libraries
    action := action
    editor := store.settings.editor
    title := titleOf {}
    status :=
      match reply with
      | .ok _ => ""
      | .error refusal => Text.firstLine refusal.message }

/-- The window with another state of its widget. The title follows the flag of the widget. -/
def withWidget (window : Window κ) (widget : TextWidget) : Window κ :=
  let before := window.document.widget.modified
  let window := { window with document.widget := widget }
  if widget.modified = before then window else window.retitled

/-- Shows another text, which counts as unmodified. The title follows at once. -/
def setText (window : Window κ) (text : List Char) : Window κ :=
  (window.withWidget (window.document.widget.setText text)).retitled

/-- Types a text over the selection. -/
def type (window : Window κ) (text : List Char) : Window κ :=
  window.withWidget (window.document.widget.insert text)

/-- Selects from one position to another. -/
def select (window : Window κ) (anchor position : Int) : Window κ :=
  window.withWidget (window.document.widget.select anchor position)

/-- The width of the gutter and the distance of two tab stops. -/
def gutter (window : Window κ) : Int × Int :=
  (Gutter.width window.editor window.document.widget.lineCount, Gutter.tabStop window.editor)

/-- The user after some prompts were answered. -/
def prompted (user : User) (prompts : List Prompt) : User :=
  prompts.foldl (fun user prompt => (user.ask prompt.title prompt.message).2) user

/-- Has the document formatted. The prompts are shown as questions. -/
def runCommand (window : Window κ) : Except Failure Outcome × Window κ :=
  let run :=
    window.command.run EditorDocument.view (fun n => .ok (window.user.reply n)) window.document
  (run.outcome,
    { window.withWidget run.document.widget with user := prompted window.user run.prompts })

/-- What the status line says about an outcome. -/
def outcomeStatus : Outcome → String
  | .formattedSelection => "Formatted selection."
  | .formattedDocument => "Formatted document."
  | .declinedFileType => "Formatting cancelled."
  | .declinedParseErrors => "Formatting cancelled."

/-- Has the document formatted and says so. -/
def formatSql (window : Window κ) : Except Failure Unit × Window κ :=
  match window.runCommand with
  | (.ok outcome, window) => (.ok (), window.noted (outcomeStatus outcome))
  | (.error e, window) => (.error e, window)

/-- Shows what went wrong between the stored hotkey and the bindings. -/
def hear (window : Window κ) : Reply → Window κ
  | .ok _ => window
  | .error refusal => window.shown (.warning "Hotkey" refusal.message)

/-- Stores the hotkey that the action has. -/
def pullHotkey (window : Window κ) : Window κ :=
  let (reply, store) := Hotkey.pull (some Action.host) window.action window.store
  { window with store := store }.hear reply

/-- Gives the action the hotkey that is stored. -/
def pushHotkey (window : Window κ) : Window κ :=
  let (reply, action) := Hotkey.push (some Action.host) window.action window.store
  { window with action := action }.hear reply

/-- Takes over the stored settings. -/
def refreshed (window : Window κ) : Window κ :=
  let settings := window.store.settings
  { window with command := window.command.refresh settings, editor := settings.editor }

/-- Opens the options dialog and does what the user asks for in it. The settings are taken over if
the dialog was accepted at last, whatever failed in it. -/
def showOptions (window : Window κ) (actions : List DialogAction) :
    Except Failure Unit × Window κ :=
  let window := window.pullHotkey
  match Dialog.opened window.store true window.user with
  | .error e => (.error e, window)
  | .ok dialog =>
    let (outcome, dialog) :=
      dialog.run (Hotkey.readScope (some Action.host) window.action) actions
    let window := { window with store := dialog.store, user := dialog.user }
    if dialog.closing = some .accepted then
      (outcome, window.pushHotkey.refreshed.noted "Settings saved.")
    else (outcome, window)

end Window

end SqlDesk
