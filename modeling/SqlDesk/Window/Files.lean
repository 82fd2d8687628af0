/-
The files of a window.

A document is opened from a file and written to it; unsaved changes are given up only if the user
says so. After every write the guard may format the document and write it once more. Whatever goes
wrong then is shown in a box: the first write has been made, so the document counts as saved.
-/
import SqlDesk.Window
import SqlDesk.Format.SaveGuard

namespace SqlDesk.Window

variable {κ : Type}

/-- Whether unsaved changes may be given up; the user is asked if there are any. -/
def mayDiscard (window : Window κ) : Bool × Window κ :=
  if window.document.widget.modified then
    let (answer, user) := window.user.ask "Unsaved changes" "Discard unsaved changes?"
    (answer, { window with user := user })
  else (true, window)

/-- The window with a text and a path, without unsaved changes. -/
def holding (window : Window κ) (text : List Char) (path : String) : Window κ :=
  let widget := window.document.widget.setText text
  { window with document := ⟨widget, path⟩ }.retitled

/-- Starts a new document. -/
def new (window : Window κ) : Window κ :=
  match window.mayDiscard with
  | (true, window) => window.holding [] ""
  | (false, window) => window

/-- The text of a file; every line end of it counts as a line feed. -/
def readText (disk : Disk) (path : String) : Except Failure (List Char) :=
  match disk.read (Path.normal path) with
  | .error e => .error (.file e)
  | .ok bytes =>
    match Text.Utf8.decode bytes with
    | .error e => .error (.encoding e)
    | .ok cs => .ok (Text.unifyNewlines cs)

/-- Opens a file; whether that was done. -/
def load (window : Window κ) (path : String) : Bool × Window κ :=
  match readText window.store.disk path with
  | .error e => (false, window.shown (.critical "Open failed" e.message))
  | .ok text => (true, (window.holding text (Path.resolve path)).noted ("Opened: " ++ path))

/-- Lets the user choose a file to open; nothing is opened if no path is chosen. -/
def openFile (window : Window κ) (chosen : String) : Window κ :=
  match window.mayDiscard with
  | (false, window) => window
  | (true, window) =>
    let window := window.shown (.openFile "Open SQL File" "")
    if chosen = "" then window else (window.load chosen).2

/-- The window after its document was written to its file. -/
def written (window : Window κ) : Window κ :=
  let saved := { window with document.widget.modified := false }
  saved.retitled.noted ("Saved: " ++ window.document.path)

/-- Writes the document to its file and notifies the guard. -/
def write (window : Window κ) : Saving (Window κ) Unit :=
  let bytes := Text.Utf8.encode window.document.text
  match window.store.disk.write window.document.path bytes with
  | (.error e, disk) => .done (.error (.file e)) { window with store.disk := disk }
  | (.ok (), disk) =>
    .notify () { window with store.disk := disk }.written fun _ window => .done (.ok ()) window

/-- What the guard asks of a window. -/
def saveHooks : SaveHooks (Window κ) Unit where
  enabled := fun window => window.command.options.toggle .formatOnSave
  isSql := fun _ window => window.command.isSql window.document.path
  format := fun _ window =>
    let (outcome, window) := window.runCommand
    (outcome.map fun _ => (), window)
  save := fun _ window => window.write

/-- What is said about a failure after the document was saved. -/
def onSavedMessage (failure : Failure) : String :=
  if failure.isFileError then
    "The document was saved, but the formatted text could not be written:\n" ++ failure.message
  else "The document was saved without formatting:\n" ++ failure.message

/-- Handles a notification that the document was saved. It does not fail: failures are shown. -/
def onSaved : SavedHandler (Window κ) Unit := fun _ guarded =>
  match SaveGuard.onSaved saveHooks () guarded with
  | (.ok (), guarded) => (.ok (), guarded)
  | (.error e, guarded) =>
    (.ok (),
      { guarded with state := guarded.state.shown (.warning "Format on save" (onSavedMessage e)) })

/-- Saves the document to its file; whether the first write was made. -/
def saveNow (guarded : Guarded (Window κ)) : Bool × Guarded (Window κ) :=
  match guarded.state.write.run onSaved guarded.inProgress with
  | (.ok (), guarded) => (true, guarded)
  | (.error e, guarded) =>
    (false, { guarded with state := guarded.state.shown (.critical "Save failed" e.message) })

/-- Lets the user choose a file and saves the document to it; nothing is saved if no path is chosen.
-/
def saveAs (guarded : Guarded (Window κ)) (chosen : String) : Bool × Guarded (Window κ) :=
  let window := guarded.state
  let start := if window.document.path = "" then "query.sql" else window.document.path
  let window := window.shown (.saveFile "Save SQL File" start)
  if chosen = "" then (false, { guarded with state := window })
  else
    saveNow { guarded with state := { window with document.path := Path.resolve chosen } }

/-- Saves the document; a document without a file asks for one. -/
def save (guarded : Guarded (Window κ)) (chosen : String) : Bool × Guarded (Window κ) :=
  if guarded.state.document.path = "" then saveAs guarded chosen else saveNow guarded

/-- Closes the window, if unsaved changes may be given up. -/
def quit (window : Window κ) : Window κ :=
  match window.mayDiscard with
  | (true, window) => { window with closed := true }
  | (false, window) => window

end SqlDesk.Window
