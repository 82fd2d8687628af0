/-
How much is logged, and where.

A level and a file can be given directly or by the environment; what is given directly goes first,
and an empty text is not given. The file is one in the working directory unless its path leads
elsewhere. It is opened when logging starts, so a place where no file can be is refused then.
-/
import SqlDesk.Disk

namespace SqlDesk.Logging

/-- A text in the capitals that the names of levels have. -/
def capitals (text : String) : String :=
  text.map fun c =>
    if c.toNat = 0x131 then 'I'
    else if c.toNat = 0x17F then 'S'
    else c.toUpper

/-- The level that is used when none is given, or one that does not exist. -/
def warningLevel : Nat := 30

/-- The levels by name. -/
def levels : List (String × Nat) :=
  [("NOTSET", 0), ("DEBUG", 10), ("INFO", 20), ("WARN", warningLevel), ("WARNING", warningLevel),
    ("ERROR", 40), ("CRITICAL", 50), ("FATAL", 50)]

/-- The places that a log can go to. -/
inductive Handler where
  | stream
  | file (path : String)
  deriving DecidableEq, Repr

namespace Handler

/-- The name of a handler. -/
def name : Handler → String
  | .stream => "StreamHandler"
  | .file _ => "FileHandler"

/-- The disk after a handler was opened: its file is there, with all that it held before. -/
def openOn (disk : Disk) : Handler → Except FileError Disk
  | .stream => .ok disk
  | .file path =>
    match disk.read path with
    | .ok _ => .ok disk
    | .error (.notFound _) => disk.store path []
    | .error e => .error e

end Handler

/-- A configuration of the log. -/
structure Config where
  level : Nat
  handlers : List Handler
  deriving DecidableEq, Repr

/-- The form of a line of the log. -/
def lineFormat : String := "[%(asctime)s] [%(levelname)s] %(name)s: %(message)s"

/-- The first of two texts that is given and not empty. -/
def choose (direct environment : Option String) : Option String :=
  (direct.filter (· ≠ "")).orElse fun _ => environment.filter (· ≠ "")

/-- The configuration for a level and a file, and what the environment says of both; `folder` is
the working directory. -/
def configure (folder : String) (level file environmentLevel environmentFile : Option String) :
    Config where
  level :=
    match choose level environmentLevel with
    | some name => (levels.lookup (capitals name)).getD warningLevel
    | none => warningLevel
  handlers :=
    match choose file environmentFile with
    | some path => [.stream, .file (Path.resolve (folder ++ "/" ++ path))]
    | none => [.stream]

/-- The disk after logging has started. -/
def Config.start (config : Config) (disk : Disk) : Except FileError Disk :=
  config.handlers.foldlM Handler.openOn disk

end SqlDesk.Logging
