/-
The store of settings.

A store keeps settings in memory and in the file `settings.toml` of its directory. Every change is
written through at once: the new settings are checked, then written as a whole, and only then taken
over. So an operation that fails leaves the settings as they were, in memory and on the disk.
-/
import SqlDesk.Settings.File
import SqlDesk.Hotkey
import SqlDesk.Text.Newline

namespace SqlDesk

/-- A store: the disk, the directory of its file, the settings, and whether there was no file when
it was opened. -/
structure Store where
  disk : Disk
  folder : String
  settings : Settings
  incomplete : Bool

namespace Store

/-- The file of the settings in a directory. -/
def fileIn (folder : String) : String :=
  Path.inside folder "settings.toml"

/-- The file of a store. -/
def file (store : Store) : String :=
  fileIn store.folder

/-- The settings that the bytes of a file hold, and how many notices that gives. Text that is no
TOML document gives what every setting is at first. -/
def decode (bytes : List UInt8) : Except Failure (Settings × Nat) :=
  match Text.Utf8.decode bytes with
  | .error e => .error (.encoding e)
  | .ok cs =>
    match Toml.read cs with
    | .error .malformed => .ok (.factory, 1)
    | .error (.oversized digits) => .error (.numeral (some digits))
    | .ok document =>
      let (settings, ignored) := Settings.ofDocument document
      .ok (settings, ignored.length)

/-- The settings that a fresh start finds in a directory, and how many notices that gives. A file
that is missing or cannot be read gives what every setting is at first. -/
def load (disk : Disk) (folder : String) : Except Failure (Settings × Nat) :=
  if disk.exists? (fileIn folder) then
    match disk.read (fileIn folder) with
    | .error _ => .ok (.factory, 1)
    | .ok bytes => decode bytes
  else .ok (.factory, 0)

/-- Opens the store of a directory; the second part is the number of notices. -/
def openIn (disk : Disk) (folder : String) : Except Failure (Store × Nat) :=
  match load disk folder with
  | .error e => .error e
  | .ok (settings, notices) =>
    .ok (⟨disk, folder, settings, !disk.exists? (fileIn folder)⟩, notices)

/-- Why a document cannot be written. -/
def obstacle : Toml.Obstacle → Failure
  | .noSpelling => .unwritable
  | .oversized => .numeral none

/-- Writes settings to the file of a store; the outcome, and the disk afterwards. -/
def write (store : Store) (settings : Settings) : Except Failure Unit × Disk :=
  match store.disk.makeDirectories store.folder with
  | .error e => (.error (.file e), store.disk)
  | .ok disk =>
    match settings.toFile with
    | .error e => (.error (obstacle e), disk)
    | .ok cs =>
      let (outcome, disk) := disk.writeAtomically store.file (Text.Utf8.encode cs)
      (outcome.mapError .file, disk)

/-- Writes settings and takes them over; if the writing fails, the old ones stay. -/
def commit (store : Store) (settings : Settings) : Except Failure Unit × Store :=
  match store.write settings with
  | (.ok (), disk) => (.ok (), { store with disk := disk, settings := settings })
  | (.error e, disk) => (.error e, { store with disk := disk })

/-- Writes the settings if there was no file when the store was opened, or if there is none now. -/
def ensureComplete (store : Store) : Except Failure Unit × Store :=
  if store.incomplete || !store.disk.exists? store.file then
    match store.write store.settings with
    | (.ok (), disk) => (.ok (), { store with disk := disk, incomplete := false })
    | (.error e, disk) => (.error e, { store with disk := disk })
  else (.ok (), store)

/-- Options that replace the current ones, if they are given and valid. -/
def newOptions (store : Store) : Option Record → Except SettingsError Options
  | none => .ok store.settings.options
  | some record => record.check

/-- Saves the settings, with other options and another hotkey if these are given. -/
def save (store : Store) (options : Option Record) (hotkey : Option String) :
    Except Failure Unit × Store :=
  match store.newOptions options with
  | .error e => (.error (.settings e), store)
  | .ok options =>
    let hotkey := hotkey.getD store.settings.hotkey
    store.commit { store.settings with options := options, hotkey := hotkey }

/-- What every setting is at first, with the hotkey in the scope of a host. -/
def factoryFor (scope : Option String) : Settings :=
  { Settings.factory with hotkey := Hotkey.localize Settings.factory.hotkey scope }

/-- Puts every setting back to what it is at first; the new settings. -/
def reset (store : Store) (scope : Option String) : Except Failure Settings × Store :=
  let settings := factoryFor scope
  match store.commit settings with
  | (.ok (), store) => (.ok settings, store)
  | (.error e, store) => (.error e, store)

/-- The settings as a draft that can be changed and applied. -/
def snapshot (store : Store) : Draft :=
  store.settings.toDraft

/-- Replaces every setting. -/
def apply (store : Store) (draft : Draft) : Except Failure Unit × Store :=
  match draft.check with
  | .error e => (.error (.settings e), store)
  | .ok settings => store.commit settings

/-- Applies what a snapshot holds. -/
def restore (store : Store) (snapshot : Draft) : Except Failure Unit × Store :=
  store.apply snapshot

/-- Writes a record of options to a file of its own; the current options if none is given. The
record is not checked. -/
def exportOptions (store : Store) (path : String) (record : Option Record) :
    Except Failure Unit × Store :=
  match (record.getD store.settings.options.value).toFile with
  | .error e => (.error (obstacle e), store)
  | .ok cs =>
    let (outcome, disk) := store.disk.writeAtomically path (Text.Utf8.encode cs)
    (outcome.mapError .file, { store with disk := disk })

/-- The options in a file; nothing is applied. Every line end of the file counts as a line feed. -/
def importOptions (store : Store) (path : String) : Except Failure Options :=
  match store.disk.read (Path.normal path) with
  | .error e => .error (.settings (.unreadable path e))
  | .ok bytes =>
    match Text.Utf8.decode bytes with
    | .error e => .error (.encoding e)
    | .ok cs => Options.ofFile (Text.unifyNewlines cs)

/-- The directory of the settings of this program among those of all programs. -/
def homeIn (config : String) : String :=
  Path.inside config "sqltidy"

/-- The store that the whole program shares. It is opened once; from then on it is the same store,
whatever directory is named. -/
def openShared (shared : Option Store) (disk : Disk) (config : String) :
    Except Failure (Store × Nat) :=
  match shared with
  | some store => .ok ({ store with disk := disk }, 0)
  | none => openIn disk (homeIn config)

end Store

end SqlDesk
