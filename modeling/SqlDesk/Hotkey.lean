/-
Hotkeys.

A hotkey names a scope and the keys in it, with two colons in between. The scope is called
differently in each language.
-/
import SqlDesk.Settings
import SqlDesk.Text.Replace
import SqlDesk.Text.Blank

namespace SqlDesk.Hotkey

/-- What stands between the scope and the keys. -/
def separator : String := "::"

/-- The scope and the keys of a hotkey, without blanks around them. A hotkey without separator has
no scope. -/
def split (hotkey : String) : String × String :=
  match Text.cut? separator.toList hotkey.toList with
  | some (scope, keys) => (String.ofList (Text.trim scope), String.ofList (Text.trim keys))
  | none => ("", Text.strip hotkey)

/-- The keys of a hotkey. -/
def keys (hotkey : String) : String :=
  (split hotkey).2

/-- A hotkey with the scope as it is called at the host, if the host has a name for it. -/
def localize (hotkey : String) (scope : Option String) : String :=
  match scope with
  | none => hotkey
  | some scope => if scope = "" then hotkey else Text.replace hotkey factoryScope scope

end SqlDesk.Hotkey
