/-
The start of the program.

The program opens the settings in the directory of the user, completes their file, opens its window
and loads the first file it is called with. A file that cannot be loaded does not stop it; the
window shows why.
-/
import SqlDesk.Window.Files

namespace SqlDesk.App

/-- The window that the program starts with. -/
def start (disk : Disk) (config : String) (files : List String) : Except Failure Window :=
  match Store.openShared none disk config with
  | .error e => .error e
  | .ok (store, _) =>
    match store.ensureComplete with
    | (.error e, _) => .error e
    | (.ok (), store) =>
      let window := Window.opened store {}
      match files with
      | [] => .ok window
      | file :: _ => .ok (window.load file).2

end SqlDesk.App
