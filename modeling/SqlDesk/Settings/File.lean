/-
Settings as a file.

Reading never fails: a setting whose table is missing, or is no table, or whose value is not one it
can have, keeps what it is at first. Such values are listed, one notice for each. Writing puts the
general settings first, the options second and the three tables of the editor last.
-/
import SqlDesk.Settings
import SqlDesk.Options.Table

namespace SqlDesk

/-- The table that a path of keys leads to; empty where there is none. -/
def Toml.Table.descend (table : Toml.Table) : List String → Toml.Table
  | [] => table
  | key :: path => Toml.Table.descend (table.subtable key) path

namespace Key

/-- The value that a document has for a setting. -/
def find? (k : Key) (document : Toml.Table) : Option Toml.Value :=
  (document.descend k.path.1).get? k.path.2

/-- Whether a document has a value for a setting that it cannot have. -/
def isInvalid (k : Key) (document : Toml.Table) : Bool :=
  match k.find? document with
  | some value => !k.accepts value
  | none => false

end Key

namespace Draft

/-- The draft with a setting taken from a document, if it is there and can be taken. -/
def take (document : Toml.Table) (draft : Draft) (k : Key) : Draft :=
  match k.find? document with
  | some value => if k.accepts value then draft.set k value else draft
  | none => draft

end Draft

namespace Settings

/-- The settings that a document gives, and the settings whose values were left out. -/
def ofDocument (document : Toml.Table) : Settings × List Key :=
  let options := document.subtable SettingsError.optionsTable
  let (taken, ignored) :=
    match Options.ofTable false options with
    | .ok reading => reading
    | .error _ => ({}, [])
  let draft := Key.plain.foldl (Draft.take document) factory.toDraft
  (draft.withOptions taken,
    Key.plain.filter (·.isInvalid document) ++ ignored.map .option)

/-- A table of a document: each setting under its own key. -/
def group (settings : Settings) (keys : List Key) : Toml.Value :=
  .table (keys.map fun k => (k.path.2, settings.value k))

/-- The document of settings. -/
def toDocument (settings : Settings) : Toml.Table :=
  [("general", settings.group [.sqlExtension, .dialect, .hotkey]),
    (SettingsError.optionsTable, settings.group (Field.all.map .option)),
    ("editor", .table
      [("font", settings.group [.fontFamily, .fontSize, .tabWidth]),
        ("line_numbers", settings.group [.leftMargin, .rightMargin]),
        ("syntax", settings.group
          [.keywordColor, .keywordBold, .stringColor, .numberColor, .commentColor])])]

/-- The file of settings. -/
def toFile (settings : Settings) : Except Toml.Obstacle (List Char) :=
  Toml.write settings.toDocument

end Settings

end SqlDesk
