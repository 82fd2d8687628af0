/-
Files and directories, and what can go wrong with them.

A disk maps the components of a path to a file's bytes or to a directory. `writeAtomically` replaces
a file as a whole: it fills a temporary file in the same directory, moves it over the target, and
removes what is left of it whatever happened, so a reader sees the old bytes or the new ones and
nothing else.

A temporary file gets a name that nothing in its directory has. `TempNames` is any way to find one:
it carries that its names are free, so no law about writes has to ask for that.

Storage can refuse a write. `refusals` and `writeRefusals` hold what it is about to do to the next
atomic and plain writes: each write takes the first entry.
-/
import SqlDesk.Path
import SqlDesk.Text.Quoted

namespace SqlDesk

/-- Why a file operation was refused. -/
inductive FileError where
  | notFound (path : String)
  | notDirectory (path : String)
  | isDirectory (path : String)
  | alreadyExists (path : String)
  | replacesDirectory (source target : String)
  | readOnly
  deriving DecidableEq, Repr

namespace FileError

/-- The wording of a refusal. -/
def message : FileError → String
  | .notFound path => "[Errno 2] No such file or directory: " ++ Text.quoted path
  | .notDirectory path => "[Errno 20] Not a directory: " ++ Text.quoted path
  | .isDirectory path => "[Errno 21] Is a directory: " ++ Text.quoted path
  | .alreadyExists path => "[Errno 17] File exists: " ++ Text.quoted path
  | .replacesDirectory source target =>
    "[Errno 21] Is a directory: " ++ Text.quoted source ++ " -> " ++ Text.quoted target
  | .readOnly => "read-only"

end FileError

/-- What lies at a place on a disk. -/
inductive Entry where
  | file (bytes : List UInt8)
  | directory
  deriving DecidableEq, Repr

/-- The steps of an atomic write at which storage can refuse it. -/
inductive WriteStep where
  | create
  | fill
  | replace
  deriving DecidableEq, Repr

/-- A way to name temporary files: a name for a file that is none of those taken. -/
structure TempNames where
  pick : List String → String
  isName : ∀ taken, Path.IsName (pick taken)
  fresh : ∀ taken, pick taken ∉ taken

namespace TempNames

/-- A name that is longer than each of those taken. -/
def longer (taken : List String) : String :=
  String.ofList (['t', 'm', 'p'] ++ (taken.map String.toList).flatten.map fun _ => '_')

theorem length_longer (taken : List String) :
    (longer taken).length = 3 + (taken.map String.toList).flatten.length := by
  simp only [longer, String.length_ofList, List.length_append, List.length_map]
  rfl

theorem length_le_flatten {name : String} {taken : List String} (h : name ∈ taken) :
    name.length ≤ (taken.map String.toList).flatten.length := by
  rw [← String.length_toList]
  exact (List.sublist_flatten_of_mem (List.mem_map_of_mem h)).length_le

theorem isName_longer (taken : List String) : Path.IsName (longer taken) := by
  have hne : ∀ name : String, name.length < 3 → longer taken ≠ name := by
    rintro name hname rfl
    rw [length_longer] at hname
    omega
  refine ⟨⟨hne "" (by decide), hne "." (by decide), ?_⟩, hne ".." (by decide)⟩
  simp [longer]

theorem longer_fresh (taken : List String) : longer taken ∉ taken := by
  intro hmem
  have hle := length_le_flatten hmem
  rw [length_longer] at hle
  omega

/-- Gives a temporary file one name, if that can be the name of a file and is not taken. -/
def preferring (name : String) : TempNames where
  pick taken := if Path.IsName name ∧ name ∉ taken then name else longer taken
  isName taken := by
    split
    · next h => exact h.1
    · exact isName_longer taken
  fresh taken := by
    split
    · next h => exact h.2
    · exact longer_fresh taken

instance : Coe String TempNames := ⟨preferring⟩

end TempNames

/-- The state of a disk: what lies where, how temporary files are named, and the refusals ahead. -/
structure Disk where
  entries : List (List String × Entry) := []
  tempName : TempNames := "tmp"
  refusals : List (Option WriteStep) := []
  writeRefusals : List Bool := []

namespace Disk

/-- What lies at a place. The root is a directory. -/
def entry? (disk : Disk) (place : List String) : Option Entry :=
  if place.isEmpty then some .directory
  else (disk.entries.find? fun e => e.1 == place).map (·.2)

/-- The disk without what lies at a place. -/
def erase (disk : Disk) (place : List String) : Disk :=
  { disk with entries := disk.entries.filter fun e => !(e.1 == place) }

/-- The disk with an entry at a place. -/
def put (disk : Disk) (place : List String) (entry : Entry) : Disk :=
  { disk with entries := (place, entry) :: disk.entries.filter fun e => !(e.1 == place) }

/-- Where a path leads, component by component. Each component but the last has to be a directory.
-/
def walk (disk : Disk) (path : String) : List String → List String → Except FileError (List String)
  | here, [] => .ok here
  | here, part :: rest =>
    match disk.entry? here with
    | some .directory =>
      walk disk path (if part = ".." then here.dropLast else here ++ [part]) rest
    | some (.file _) => .error (.notDirectory path)
    | none => .error (.notFound path)

/-- The place that a path names, whose directory exists. -/
def locate (disk : Disk) (path : String) : Except FileError (List String) :=
  disk.walk path [] (Path.components path)

/-- What a path leads to. -/
def lookup (disk : Disk) (path : String) : Except FileError Entry :=
  match disk.locate path with
  | .error e => .error e
  | .ok place =>
    match disk.entry? place with
    | some entry => .ok entry
    | none => .error (.notFound path)

/-- Whether a path leads anywhere. -/
def exists? (disk : Disk) (path : String) : Bool :=
  match disk.lookup path with
  | .ok _ => true
  | .error _ => false

/-- The bytes of a file. -/
def read (disk : Disk) (path : String) : Except FileError (List UInt8) :=
  match disk.lookup path with
  | .error e => .error e
  | .ok .directory => .error (.isDirectory path)
  | .ok (.file bytes) => .ok bytes

/-- Gives a file new bytes, whatever it held before. -/
def store (disk : Disk) (path : String) (bytes : List UInt8) : Except FileError Disk :=
  match disk.locate path with
  | .error e => .error e
  | .ok place =>
    match disk.entry? place, disk.entry? place.dropLast with
    | some .directory, _ => .error (.isDirectory path)
    | _, some .directory => .ok (disk.put place (.file bytes))
    | _, some (.file _) => .error (.notDirectory path)
    | _, none => .error (.notFound path)

/-- Writes a file in place; the outcome, and the disk afterwards. -/
def write (disk : Disk) (path : String) (bytes : List UInt8) : Except FileError Unit × Disk :=
  let refused := disk.writeRefusals.headD false
  let disk := { disk with writeRefusals := disk.writeRefusals.tail }
  if refused then (.error .readOnly, disk)
  else
    match disk.store path bytes with
    | .error e => (.error e, disk)
    | .ok disk' => (.ok (), disk')

/-- Removes a file, if there is one. -/
def remove (disk : Disk) (path : String) : Disk :=
  match disk.locate path with
  | .error _ => disk
  | .ok place =>
    match disk.entry? place with
    | some (.file _) => disk.erase place
    | _ => disk

/-- Makes the directories that are missing on the way from `here` along some components. -/
def makeAlong (path : String) : Disk → List String → List String → Except FileError Disk
  | disk, _, [] => .ok disk
  | disk, here, part :: rest =>
    if part = ".." then makeAlong path disk here.dropLast rest
    else
      let place := here ++ [part]
      match disk.entry? place with
      | some .directory => makeAlong path disk place rest
      | some (.file _) => .error (if rest.isEmpty then .alreadyExists path else .notDirectory path)
      | none => makeAlong path (disk.put place .directory) place rest

/-- Makes every directory of a path that is missing, those too that the path leaves again. -/
def makeDirectories (disk : Disk) (path : String) : Except FileError Disk :=
  makeAlong path disk [] (Path.components path)

/-- The disk with a file and every directory on the way to it. -/
def withFile (disk : Disk) (path : String) (bytes : List UInt8) : Except FileError Disk :=
  match disk.makeDirectories (Path.parent path) with
  | .error e => .error e
  | .ok disk => disk.store path bytes

/-- Moves a file over another place, which must not be a directory. -/
def replace (disk : Disk) (source target : String) : Except FileError Disk :=
  match disk.read source, disk.locate target with
  | .error e, _ => .error e
  | _, .error e => .error e
  | .ok bytes, .ok place =>
    match disk.entry? place with
    | some .directory => .error (.replacesDirectory source target)
    | _ => .ok ((disk.remove source).put place (.file bytes))

/-- The steps of an atomic write after the temporary file exists, up to the one that is refused. -/
def fillAndReplace (disk : Disk) (refused : Option WriteStep) (temp path : String)
    (bytes : List UInt8) : Except FileError Unit × Disk :=
  if refused = some .fill then (.error .readOnly, disk)
  else
    match disk.store temp bytes with
    | .error e => (.error e, disk)
    | .ok disk =>
      if refused = some .replace then (.error .readOnly, disk)
      else
        match disk.replace temp path with
        | .error e => (.error e, disk)
        | .ok disk => (.ok (), disk)

/-- The names of what lies in a directory. -/
def namesIn (disk : Disk) (folder : List String) : List String :=
  disk.entries.filterMap fun e => if e.1.dropLast = folder then e.1.getLast? else none

/-- The name of a temporary file beside a file: nothing in the directory has it, nor has the file. -/
def tempNameFor (disk : Disk) (path : String) : String :=
  disk.tempName.pick (Path.name path :: disk.namesIn (Path.place (Path.parent path)))

/-- The temporary file of an atomic write. -/
def tempFor (disk : Disk) (path : String) : String :=
  Path.inside (Path.parent (Path.normal path)) (disk.tempNameFor path)

/-- Replaces a file as a whole; the outcome, and the disk afterwards. -/
def writeAtomically (disk : Disk) (path : String) (bytes : List UInt8) :
    Except FileError Unit × Disk :=
  let refused := disk.refusals.headD none
  let disk := { disk with refusals := disk.refusals.tail }
  if refused = some .create then (.error .readOnly, disk)
  else
    let temp := disk.tempFor path
    match disk.store temp [] with
    | .error e => (.error e, disk)
    | .ok disk =>
      let (outcome, disk) := disk.fillAndReplace refused temp (Path.normal path) bytes
      (outcome, disk.remove temp)

/-- Every file and directory below a place, by path from there; directories end in a slash. -/
def listing (disk : Disk) (folder : List String) : List String :=
  (disk.entries.filterMap fun (place, entry) =>
    if folder.isPrefixOf place && place.length > folder.length then
      let shown := "/".intercalate (place.drop folder.length)
      some (match entry with
        | .file _ => shown
        | .directory => shown ++ "/")
    else none).mergeSort fun a b => decide (a ≤ b)

end Disk

end SqlDesk
