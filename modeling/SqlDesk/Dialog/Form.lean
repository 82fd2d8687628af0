/-
The form of the options dialog.

A form has a control for every setting. Counts are typed as texts and the indent string in its shown
form, so what is typed need not be valid. Number boxes take the nearest number in their range, and a
form carries that their numbers are in it. `Form.settings` reads the form, and the first count that is
none decides the error. `Form.load` shows settings in it.
-/
import SqlDesk.Settings
import SqlDesk.Dialog.Field

namespace SqlDesk

/-- The controls of the formatting options. -/
structure OptionControls where
  indent : String := ""
  count : Count → String := fun _ => ""
  toggle : Toggle → Bool := fun _ => false

namespace OptionControls

/-- What the control of an option shows. -/
def value (controls : OptionControls) : Field → Toml.Value
  | .indent => .string controls.indent
  | .count c => .string (controls.count c)
  | .toggle t => .boolean (controls.toggle t)

/-- The controls after something is put into one of them; what it cannot show changes nothing. -/
def enter (controls : OptionControls) : Field → Toml.Value → OptionControls
  | .indent, .string text => { controls with indent := text }
  | .count c, .string text =>
    { controls with count := fun d => if d = c then text else controls.count d }
  | .toggle t, .boolean b =>
    { controls with toggle := fun u => if u = t then b else controls.toggle u }
  | _, _ => controls

/-- The labels of the boxes of counts. -/
def label : Count → String
  | .maxLineWidth => "Max Line Width:"
  | .spacesPerTab => "Spaces per Tab:"
  | .statementBreaks => "Statement Line Breaks:"
  | .clauseBreaks => "Clause Line Breaks:"

/-- The boxes of counts from top to bottom. -/
def boxes : List Count := [.maxLineWidth, .spacesPerTab, .statementBreaks, .clauseBreaks]

/-- Takes the counts typed into some boxes, up to the first that holds none. -/
def takeCounts (controls : OptionControls) : List Count → Options → Except SettingsError Options
  | [], options => .ok options
  | c :: cs, options =>
    match Dialog.parseCount (label c) (controls.count c) with
    | .error e => .error e
    | .ok n => takeCounts controls cs (options.set (.count c) (.integer n))

/-- The options that the controls stand for. -/
def options (controls : OptionControls) : Except SettingsError Options :=
  takeCounts controls boxes
    { indent := String.ofList (Dialog.unescapeIndent controls.indent.toList)
      toggle := controls.toggle }

/-- Shows counts in their boxes, up to the first that has too many digits. -/
def showCounts (options : Options) :
    List Count → OptionControls → Except Failure Unit × OptionControls
  | [], controls => (.ok (), controls)
  | c :: cs, controls =>
    if Text.isWritable (options.count c) then
      showCounts options cs (controls.enter (.count c) (.string (toString (options.count c))))
    else (.error (.numeral none), controls)

/-- Shows options in their controls. -/
def load (controls : OptionControls) (options : Options) :
    Except Failure Unit × OptionControls :=
  let shown := String.ofList (Dialog.escapeIndent options.indent.toList)
  match showCounts options boxes { controls with indent := shown } with
  | (.ok (), controls) => (.ok (), { controls with toggle := options.toggle })
  | (.error e, controls) => (.error e, controls)

end OptionControls

namespace EditorSettings

/-- The nearest number to `n` from `least` to `most`. -/
def nearest (least most n : Int) : Int :=
  min (max n least) most

/-- The settings as number boxes show them. -/
def clamped (settings : EditorSettings) : EditorSettings where
  font :=
    { settings.font with
      size := nearest 6 72 settings.font.size
      tabWidth := nearest 1 16 settings.font.tabWidth }
  gutter :=
    { leftMargin := nearest 0 50 settings.gutter.leftMargin
      rightMargin := nearest 0 50 settings.gutter.rightMargin }
  colors := settings.colors

/-- The numbers of the editor are those that its number boxes can hold. -/
structure InRange (editor : EditorSettings) : Prop where
  size : 6 ≤ editor.font.size ∧ editor.font.size ≤ 72
  tabWidth : 1 ≤ editor.font.tabWidth ∧ editor.font.tabWidth ≤ 16
  leftMargin : 0 ≤ editor.gutter.leftMargin ∧ editor.gutter.leftMargin ≤ 50
  rightMargin : 0 ≤ editor.gutter.rightMargin ∧ editor.gutter.rightMargin ≤ 50

theorem inRange_clamped (editor : EditorSettings) : editor.clamped.InRange := by
  constructor <;> simp only [clamped, nearest] <;> omega

end EditorSettings

/-- A form: settings with controls in the place of options, and with numbers that number boxes can
hold. -/
structure Form extends SettingsWith OptionControls where
  inRange : editor.InRange

namespace Form

/-- The form with some settings in its controls, as far as its number boxes can hold them. -/
def ofSettings (settings : SettingsWith OptionControls) : Form :=
  { settings with
    editor := settings.editor.clamped
    inRange := settings.editor.inRange_clamped }

/-- The form before anything is shown in it. -/
def blank : Form where
  sqlExtension := ""
  dialect := ""
  hotkey := ""
  options := {}
  inRange := ⟨by decide, by decide, by decide, by decide⟩

/-- What the control of a setting shows. -/
def value (form : Form) : Key → Toml.Value
  | .option f => form.options.value f
  | k => Draft.value (form.withOptions (fun _ => .nothing)) k

/-- The form after something is put into the control of a setting. -/
def enter (form : Form) : Key → Toml.Value → Form
  | .option f, value => { form with options := form.options.enter f value }
  | k, value =>
    .ofSettings <|
      (Draft.set (form.withOptions fun _ => .nothing) k value).withOptions form.options

/-- The form with options shown in it. -/
def loadOptions (form : Form) (options : Options) : Except Failure Unit × Form :=
  let (outcome, controls) := form.options.load options
  (outcome, { form with options := controls })

/-- The form with settings shown in it. The hotkey is shown only if the host has key bindings. -/
def load (form : Form) (settings : Settings) (hasHotkey : Bool) : Except Failure Unit × Form :=
  match form.loadOptions settings.options with
  | (.error e, form) => (.error e, form)
  | (.ok (), form) =>
    (.ok (), .ofSettings
      { settings.withOptions form.options with
        hotkey := if hasHotkey then settings.hotkey else form.hotkey })

/-- The settings that a form stands for; the hotkey is not read if there is one to keep. -/
def settings (form : Form) (kept : Option String) : Except SettingsError Settings :=
  match form.options.options with
  | .error e => .error e
  | .ok options =>
    let sqlExtension := Text.strip form.sqlExtension
    if sqlExtension = "" then .error .noExtension
    else
      .ok
        { sqlExtension := sqlExtension
          dialect := Text.strip form.dialect
          hotkey := kept.getD (Text.strip form.hotkey)
          options := options
          editor := form.editor }

end Form

end SqlDesk
