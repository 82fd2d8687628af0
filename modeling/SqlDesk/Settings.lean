/-
The settings of the program.

Besides the formatting options there are three general settings and ten of the editor. `Settings` is
what the program runs with; a `Draft` is the same with a record of options that may be invalid, as a
caller may hand it in. `Key` names every single setting.
-/
import SqlDesk.Options

namespace SqlDesk

/-- The font of the editor. -/
structure FontSettings where
  family : String := "Consolas"
  size : Int := 10
  tabWidth : Int := 4
  deriving DecidableEq, Repr

/-- The space to the left and right of line numbers. -/
structure GutterSettings where
  leftMargin : Int := 8
  rightMargin : Int := 4
  deriving DecidableEq, Repr

/-- The colours of SQL text. -/
structure ColorSettings where
  keyword : String := "#2E86C1"
  keywordBold : Bool := true
  string : String := "#27AE60"
  number : String := "#8E44AD"
  comment : String := "#808B96"
  deriving DecidableEq, Repr

/-- The settings of the editor. -/
structure EditorSettings where
  font : FontSettings := {}
  gutter : GutterSettings := {}
  colors : ColorSettings := {}
  deriving DecidableEq, Repr

/-- The scope of the hotkey that is set at first, as it is called in English. -/
def factoryScope : String := "Text Editor"

/-- The hotkey that is set at first. -/
def factoryHotkey : String := factoryScope ++ "::Ctrl+K, Ctrl+F"

/-- All settings, with formatting options of some kind. -/
structure SettingsWith (Opts : Type) where
  sqlExtension : String := ".sql"
  dialect : String := "tsql"
  hotkey : String := factoryHotkey
  options : Opts
  editor : EditorSettings := {}
  deriving DecidableEq

/-- The settings that the program runs with: the options are valid. -/
abbrev Settings : Type := SettingsWith Options

/-- Settings that a caller hands in: the options are any record. -/
abbrev Draft : Type := SettingsWith Record

namespace SettingsWith

/-- Settings with other options. -/
def withOptions {Opts Opts' : Type} (settings : SettingsWith Opts) (options : Opts') :
    SettingsWith Opts' where
  sqlExtension := settings.sqlExtension
  dialect := settings.dialect
  hotkey := settings.hotkey
  options := options
  editor := settings.editor

end SettingsWith

namespace Settings

/-- What every setting is at first. -/
def factory : Settings := { options := {} }

/-- Settings as a draft. -/
def toDraft (settings : Settings) : Draft :=
  settings.withOptions settings.options.value

end Settings

namespace Draft

/-- The settings of a draft whose options are valid. -/
def check (draft : Draft) : Except SettingsError Settings :=
  (Record.check draft.options).map draft.withOptions

end Draft

/-- The kinds of value that a setting can have. -/
inductive Kind where
  | text
  | number
  | truth
  deriving DecidableEq, Repr

/-- The single settings. -/
inductive Key where
  | sqlExtension
  | dialect
  | hotkey
  | option (field : Field)
  | fontFamily
  | fontSize
  | tabWidth
  | leftMargin
  | rightMargin
  | keywordColor
  | keywordBold
  | stringColor
  | numberColor
  | commentColor
  deriving DecidableEq, Repr

namespace Key

/-- The settings beside the formatting options, in the order of a file. -/
def plain : List Key :=
  [.sqlExtension, .dialect, .hotkey, .fontFamily, .fontSize, .tabWidth, .leftMargin, .rightMargin,
    .keywordColor, .keywordBold, .stringColor, .numberColor, .commentColor]

/-- All settings. -/
def all : List Key := plain ++ Field.all.map .option

theorem mem_all (k : Key) : k ∈ all := by
  cases k with
  | option f => simp [all, Field.mem_all]
  | _ => simp [all, plain]

/-- Where a setting stands in a file: the tables on the way and the key. -/
def path : Key → List String × String
  | .sqlExtension => (["general"], "sql_extension")
  | .dialect => (["general"], "dialect")
  | .hotkey => (["general"], "hotkey")
  | .option f => ([SettingsError.optionsTable], f.name)
  | .fontFamily => (["editor", "font"], "family")
  | .fontSize => (["editor", "font"], "size")
  | .tabWidth => (["editor", "font"], "tab_width")
  | .leftMargin => (["editor", "line_numbers"], "left_margin")
  | .rightMargin => (["editor", "line_numbers"], "right_margin")
  | .keywordColor => (["editor", "syntax"], "keyword_color")
  | .keywordBold => (["editor", "syntax"], "keyword_bold")
  | .stringColor => (["editor", "syntax"], "string_color")
  | .numberColor => (["editor", "syntax"], "number_color")
  | .commentColor => (["editor", "syntax"], "comment_color")

/-- The kind of value that a setting has. -/
def kind : Key → Kind
  | .option .indent => .text
  | .option (.count _) => .number
  | .option (.toggle _) => .truth
  | .fontSize => .number
  | .tabWidth => .number
  | .leftMargin => .number
  | .rightMargin => .number
  | .keywordBold => .truth
  | _ => .text

/-- Whether a value is one that a setting takes from a file: of its kind, and not negative. -/
def accepts (k : Key) (value : Toml.Value) : Bool :=
  match k.kind, value with
  | .text, .string _ => true
  | .number, .integer n => 0 ≤ n
  | .truth, .boolean _ => true
  | _, _ => false

end Key

namespace Draft

/-- The value of a setting. -/
def value (draft : Draft) : Key → Toml.Value
  | .sqlExtension => .string draft.sqlExtension
  | .dialect => .string draft.dialect
  | .hotkey => .string draft.hotkey
  | .option f => draft.options f
  | .fontFamily => .string draft.editor.font.family
  | .fontSize => .integer draft.editor.font.size
  | .tabWidth => .integer draft.editor.font.tabWidth
  | .leftMargin => .integer draft.editor.gutter.leftMargin
  | .rightMargin => .integer draft.editor.gutter.rightMargin
  | .keywordColor => .string draft.editor.colors.keyword
  | .keywordBold => .boolean draft.editor.colors.keywordBold
  | .stringColor => .string draft.editor.colors.string
  | .numberColor => .string draft.editor.colors.number
  | .commentColor => .string draft.editor.colors.comment

/-- A draft with a setting given a value. Outside the options a value of the wrong kind changes
nothing. -/
def set (draft : Draft) : Key → Toml.Value → Draft
  | .option f, v => { draft with options := Record.set draft.options f v }
  | .sqlExtension, .string s => { draft with sqlExtension := s }
  | .dialect, .string s => { draft with dialect := s }
  | .hotkey, .string s => { draft with hotkey := s }
  | .fontFamily, .string s => { draft with editor.font.family := s }
  | .fontSize, .integer n => { draft with editor.font.size := n }
  | .tabWidth, .integer n => { draft with editor.font.tabWidth := n }
  | .leftMargin, .integer n => { draft with editor.gutter.leftMargin := n }
  | .rightMargin, .integer n => { draft with editor.gutter.rightMargin := n }
  | .keywordColor, .string s => { draft with editor.colors.keyword := s }
  | .keywordBold, .boolean b => { draft with editor.colors.keywordBold := b }
  | .stringColor, .string s => { draft with editor.colors.string := s }
  | .numberColor, .string s => { draft with editor.colors.number := s }
  | .commentColor, .string s => { draft with editor.colors.comment := s }
  | _, _ => draft

end Draft

namespace Settings

/-- The value of a setting. -/
def value (settings : Settings) (k : Key) : Toml.Value :=
  settings.toDraft.value k

end Settings

end SqlDesk
