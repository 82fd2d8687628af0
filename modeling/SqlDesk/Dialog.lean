/-
The options dialog.

A dialog shows the settings of a store in a form. Only OK, Apply and Export write what the form
holds, and only if it is valid; Import and Restore Defaults fill the form and leave the stored
settings as they are. Failures of settings and files are shown in a box; any other failure goes on
to the caller.
-/
import SqlDesk.Dialog.Form
import SqlDesk.Dialog.Color
import SqlDesk.Hotkey.Sync
import SqlDesk.Box

namespace SqlDesk

/-- How a dialog was closed. -/
inductive Closing where
  | accepted
  | rejected
  deriving DecidableEq, Repr

/-- A dialog: the store that it edits, its form, whether the host has key bindings, how it was
closed, and the user before it. -/
structure Dialog where
  store : Store
  form : Form
  hasHotkey : Bool
  closing : Option Closing := none
  user : User := {}

/-- What a user does in a dialog. File boxes come with the path that they are answered with. -/
inductive DialogAction where
  | enter (control : Key) (value : Toml.Value)
  | pick (control : Key) (color : Option String)
  | ok
  | cancel
  | apply
  | restoreDefaults
  | importFile (path : String)
  | exportFile (path : String)

namespace Dialog

/-- The titles of the tabs. -/
def tabs : List String := ["Formatting", "Editor", "General"]

/-- The dialog on a store, with the stored settings in its form. -/
def opened (store : Store) (hasHotkey : Bool) (user : User) : Except Failure Dialog :=
  match Form.blank.load store.settings hasHotkey with
  | (.ok (), form) => .ok { store, form, hasHotkey, user }
  | (.error e, _) => .error e

/-- The dialog after a warning. -/
def warned (dialog : Dialog) (title message : String) : Dialog :=
  { dialog with user := dialog.user.shown (.warning title message) }

/-- Shows a failure in a box, if it is one for the user. -/
def report (dialog : Dialog) (title introduction : String) (failure : Failure) :
    Except Failure Bool × Dialog :=
  if failure.isForUser then
    (.ok false, dialog.warned title (introduction ++ "\n" ++ failure.message))
  else (.error failure, dialog)

/-- The hotkey that stays, if the form has none to read. -/
def keptHotkey (dialog : Dialog) : Option String :=
  if dialog.hasHotkey then none else some dialog.store.settings.hotkey

/-- Shows why the form was not stored. -/
def notSaved (dialog : Dialog) (failure : Failure) : Except Failure Bool × Dialog :=
  dialog.report "Settings not saved" "The settings could not be saved:" failure

/-- Stores what the form holds; whether that was done. -/
def save (dialog : Dialog) : Except Failure Bool × Dialog :=
  match dialog.form.settings dialog.keptHotkey with
  | .error e => dialog.notSaved (.settings e)
  | .ok settings =>
    match dialog.store.commit settings with
    | (.ok (), store) => (.ok true, { dialog with store })
    | (.error e, store) => notSaved { dialog with store } e

/-- The name of the scope for a hotkey, from what the host replied; a refusal is shown. -/
def hearScope (dialog : Dialog) (reply : Reply) : Option String × Dialog :=
  if dialog.hasHotkey then
    match reply with
    | .ok scope => (some scope, dialog)
    | .error refusal => (none, dialog.warned "Hotkey" refusal.message)
  else (none, dialog)

/-- The settings that a store has after a reset. The reset is taken back at once, whether it went
well or not, so the store keeps what it had. -/
def defaultsOf (store : Store) (scope : Option String) : Except Failure Settings × Store :=
  let (outcome, changed) := store.reset scope
  match changed.restore store.snapshot with
  | (.ok (), store) => (outcome, store)
  | (.error e, store) => (.error e, store)

/-- Shows what every setting is at first; whether that was done. -/
def restoreDefaults (dialog : Dialog) (reply : Reply) : Except Failure Bool × Dialog :=
  let (scope, dialog) := dialog.hearScope reply
  match defaultsOf dialog.store scope with
  | (.error e, store) =>
    report { dialog with store } "Restore Defaults" "The default settings could not be restored:" e
  | (.ok defaults, store) =>
    let (outcome, form) := dialog.form.load defaults dialog.hasHotkey
    (outcome.map fun _ => true, { dialog with store, form })

/-- Shows the options in a file; whether that was done. -/
def importFrom (dialog : Dialog) (path : String) : Except Failure Bool × Dialog :=
  match dialog.store.importOptions path with
  | .ok options =>
    let (outcome, form) := dialog.form.loadOptions options
    (outcome.map fun _ => true, { dialog with form })
  | .error (.settings e) =>
    (.ok false, dialog.warned "Import failed" ("Failed to import settings:\n" ++ e.message))
  | .error e => (.error e, dialog)

/-- Stores what the form holds and writes its options to a file; whether both was done. -/
def exportTo (dialog : Dialog) (path : String) : Except Failure Bool × Dialog :=
  match dialog.save with
  | (.ok true, dialog) =>
    match dialog.store.exportOptions path none with
    | (.ok (), store) => (.ok true, { dialog with store })
    | (.error e, store) =>
      report { dialog with store } "Export failed" "Failed to export settings:" e
  | unsaved => unsaved

/-- The dialog closed. -/
def closed (dialog : Dialog) (closing : Closing) : Dialog :=
  { dialog with closing := some closing }

/-- The text of a control, which is a colour. -/
def colorOf (dialog : Dialog) (control : Key) : String :=
  match dialog.form.value control with
  | .string color => color
  | _ => ""

/-- Does what a user asks for; the host replies with the name of the scope if it is asked. -/
def act (reply : Reply) (dialog : Dialog) : DialogAction → Except Failure Unit × Dialog
  | .enter control value => (.ok (), { dialog with form := dialog.form.enter control value })
  | .pick control color =>
    let picked := Color.pick (dialog.colorOf control) color
    (.ok (), { dialog with form := dialog.form.enter control (.string picked) })
  | .ok =>
    match dialog.save with
    | (.ok true, dialog) => (.ok (), dialog.closed .accepted)
    | (outcome, dialog) => (outcome.map fun _ => (), dialog)
  | .cancel => (.ok (), dialog.closed .rejected)
  | .apply =>
    let (outcome, dialog) := dialog.save
    (outcome.map fun _ => (), dialog)
  | .restoreDefaults =>
    let (outcome, dialog) := dialog.restoreDefaults reply
    (outcome.map fun _ => (), dialog)
  | .importFile path =>
    let box := Box.openFile "Import Formatting Options" ""
    let dialog := { dialog with user := dialog.user.shown box }
    if path = "" then (.ok (), dialog)
    else
      let (outcome, dialog) := dialog.importFrom path
      (outcome.map fun _ => (), dialog)
  | .exportFile path =>
    let box := Box.saveFile "Export Formatting Options" "sqltidy-options.toml"
    let dialog := { dialog with user := dialog.user.shown box }
    if path = "" then (.ok (), dialog)
    else
      let (outcome, dialog) := dialog.exportTo path
      (outcome.map fun _ => (), dialog)

/-- Does what a user asks for, one after the other. A failure that nothing catches leaves the dialog
open, so what comes after it is done all the same; the first such failure is told. -/
def run (reply : Reply) (dialog : Dialog) : List DialogAction → Except Failure Unit × Dialog
  | [] => (.ok (), dialog)
  | action :: rest =>
    let (outcome, dialog) := dialog.act reply action
    let (later, dialog) := run reply dialog rest
    (outcome.bind fun _ => later, dialog)

end Dialog

end SqlDesk
