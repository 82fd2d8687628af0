/-
The command line: starts the program on a file and prints the window that it shows.
-/
import SqlDesk.App

namespace SqlDesk

/-- The disk with the bytes of a real file, if it can be read. -/
def readInto (disk : Disk) (path : String) : IO Disk := do
  try
    let bytes ← IO.FS.readBinFile path
    return (disk.withFile path bytes.toList).toOption.getD disk
  catch _ => return disk

/-- Writes the settings of a window to their real file. -/
def writeSettings (store : Store) : IO Unit := do
  match store.disk.read store.file with
  | .ok bytes =>
    IO.FS.createDirAll store.folder
    IO.FS.writeBinFile store.file (ByteArray.mk bytes.toArray)
  | .error _ => return

/-- The directory of the settings of all programs. -/
def configFolder : IO String := do
  let folder := (← IO.getEnv "XDG_CONFIG_HOME").getD ""
  if Text.strip folder = "" then return ((← IO.getEnv "HOME").getD "") ++ "/.config"
  else return folder

/-- A line about a box. -/
def Box.line : Box → String
  | .question title message => s!"[{title}] {message}"
  | .warning title message => s!"[{title}] {message}"
  | .critical title message => s!"[{title}] {message}"
  | .about title message => s!"[{title}] {message}"
  | .openFile title start => s!"[{title}] {start}"
  | .saveFile title start => s!"[{title}] {start}"

end SqlDesk

open SqlDesk in
/-- Starts the program on the files it is called with, and shows its window. -/
def main (files : List String) : IO UInt32 := do
  let config ← configFolder
  let settings := Store.fileIn (Store.homeIn config)
  let disk ← (settings :: files.take 1).foldlM readInto {}
  match App.start disk config files with
  | .error e =>
    IO.eprintln e.message
    return 1
  | .ok window =>
    writeSettings window.store
    for box in window.user.seen do
      IO.eprintln box.line
    IO.println window.title
    IO.println window.status
    IO.print (String.ofList window.document.text)
    return 0
