/-
Saving a form, whatever stands in it.

Each control of a form stands for a value of its setting, or for none (`Form.meant`). The settings
that a form gives are what its controls stand for, one by one (`Form.meant_of_settings`), so no field
of older settings is left in them but a hotkey that has no control (`Form.settings_congr`). Only a box
of a count and the box of the extension can stand for nothing (`Form.settings_isOk_iff`), and number
boxes hold numbers that a file can have, so nothing but storage refuses what a form gives
(`Dialog.save_isOk_iff`).
-/
import SqlDesk.Proofs.Dialog.Store
import SqlDesk.Proofs.Settings.Document

namespace SqlDesk

namespace Form

variable {form : Form}

/-! ## What a form stands for -/

/-- The value that the control of a setting stands for, if it stands for one. -/
def meant (form : Form) : Key → Option Toml.Value
  | .option .indent =>
    some (.string (String.ofList (Dialog.unescapeIndent form.options.indent.toList)))
  | .option (.count c) =>
    ((Text.integer? (form.options.count c).toList).filter fun n => 0 ≤ n).map .integer
  | .sqlExtension =>
    if Text.strip form.sqlExtension = "" then none
    else some (.string (Text.strip form.sqlExtension))
  | .dialect => some (.string (Text.strip form.dialect))
  | .hotkey => some (.string (Text.strip form.hotkey))
  | k => some (form.value k)

/-- A form can be read: each box of a count holds a whole number that is not negative, and the box of
the extension is not blank. -/
structure Readable (form : Form) : Prop where
  counts : ∀ c, ∃ n : Nat, Text.integer? (form.options.count c).toList = some (n : Int)
  sqlExtension : ∃ c ∈ form.sqlExtension.toList, Text.isBlank c = false

/-- Just the forms that can be read give settings. -/
theorem settings_isOk_iff {kept : Option String} :
    (∃ settings, form.settings kept = .ok settings) ↔ form.Readable := by
  constructor
  · rintro ⟨settings, h⟩
    obtain ⟨hoptions, -⟩ := settings_eq_ok h
    obtain ⟨-, hcounts, -⟩ := OptionControls.options_eq_ok_iff.mp hoptions
    refine ⟨fun c => ⟨_, Dialog.parseCount_eq_ok_iff.mp (hcounts c)⟩, Text.strip_ne_empty_iff.mp ?_⟩
    intro hblank
    simp only [Form.settings, hoptions, hblank, if_true, reduceCtorEq] at h
  · rintro ⟨hcounts, hextension⟩
    obtain ⟨count, hcount⟩ := Classical.axiomOfChoice hcounts
    have hoptions : form.options.options = .ok
        { indent := String.ofList (Dialog.unescapeIndent form.options.indent.toList)
          count := count
          toggle := form.options.toggle } :=
      OptionControls.options_eq_ok_iff.mpr
        ⟨rfl, fun c => Dialog.parseCount_eq_ok_iff.mpr (hcount c), rfl⟩
    have hstrip := Text.strip_ne_empty_iff.mpr hextension
    simp only [Form.settings, hoptions, if_neg hstrip, Except.ok.injEq, exists_eq']

/-- **What a form gives is what its controls stand for**, one setting after the other; the hotkey is
that of its control or the one to keep. -/
theorem meant_of_settings {kept : Option String} {settings : Settings}
    (h : form.settings kept = .ok settings) (k : Key) :
    (k = .hotkey → settings.hotkey = kept.getD (Text.strip form.hotkey)) ∧
      (k ≠ .hotkey ∨ kept = none → form.meant k = some (settings.value k)) := by
  obtain ⟨hoptions, -⟩ := settings_eq_ok h
  generalize settings.options = options at hoptions
  obtain ⟨hindent, hcounts, htoggle⟩ := OptionControls.options_eq_ok_iff.mp hoptions
  simp only [Form.settings, hoptions] at h
  split at h
  · cases h
  next hextension =>
  obtain rfl := Except.ok.inj h
  refine ⟨fun _ => rfl, fun hkey => ?_⟩
  cases k with
  | option f =>
    cases f with
    | indent => exact congrArg (some ∘ Toml.Value.string) hindent.symm
    | count c =>
      have hcount := Dialog.parseCount_eq_ok_iff.mp (hcounts c)
      simp only [meant, hcount, Option.filter_some, Int.natCast_nonneg, decide_true, if_true,
        Option.map_some]
      rfl
    | toggle t => exact congrArg (fun toggle => some (Toml.Value.boolean (toggle t))) htoggle.symm
  | sqlExtension => exact if_neg hextension
  | hotkey =>
    obtain rfl : kept = none := hkey.resolve_left fun hother => hother rfl
    rfl
  | _ => rfl

/-- Whatever hotkeys there are to keep, a form gives the same settings but for these. -/
theorem settings_congr {kept kept' : Option String} {settings settings' : Settings}
    (h : form.settings kept = .ok settings) (h' : form.settings kept' = .ok settings') :
    settings' = { settings with hotkey := kept'.getD (Text.strip form.hotkey) } := by
  refine Settings.ext_value fun k => ?_
  by_cases hkey : k = .hotkey
  · subst hkey
    exact congrArg Toml.Value.string ((meant_of_settings h' .hotkey).1 rfl)
  · have hsame := ((meant_of_settings h k).2 (.inl hkey)).symm.trans
      ((meant_of_settings h' k).2 (.inl hkey))
    rw [← Option.some.inj hsame]
    cases k with
    | hotkey => exact absurd rfl hkey
    | _ => rfl

theorem writable_of_settings {kept : Option String} {settings : Settings}
    (h : form.settings kept = .ok settings) : settings.Writable := by
  obtain ⟨hoptions, heditor⟩ := settings_eq_ok h
  obtain ⟨hsize, htab, hleft, hright⟩ := heditor ▸ form.inRange
  have hcounts := (OptionControls.typable_of_options hoptions).counts
  have hsmall : ∀ n : Nat, n ≤ 72 → Text.isWritable n = true := by
    intro n hn
    have htwo : n < Nat.pow 10 2 := Nat.lt_of_le_of_lt hn (by decide)
    exact Text.isWritable_of_lt htwo (by decide)
  intro k n hvalue
  cases k with
  | option f =>
    cases f with
    | count c =>
      have hcount := Toml.Value.integer.inj hvalue
      exact hcount ▸ hcounts c
    | indent => cases hvalue
    | toggle t => cases hvalue
  | fontSize =>
    have hnumber : settings.editor.font.size = n := Toml.Value.integer.inj hvalue
    exact hsmall n (by omega)
  | tabWidth =>
    have hnumber : settings.editor.font.tabWidth = n := Toml.Value.integer.inj hvalue
    exact hsmall n (by omega)
  | leftMargin =>
    have hnumber : settings.editor.gutter.leftMargin = n := Toml.Value.integer.inj hvalue
    exact hsmall n (by omega)
  | rightMargin =>
    have hnumber : settings.editor.gutter.rightMargin = n := Toml.Value.integer.inj hvalue
    exact hsmall n (by omega)
  | _ => cases hvalue

end Form

namespace Dialog

variable {dialog dialog' : Dialog}

/-! ## Saving -/

/-- The dialog after its user was told why the form was not stored. -/
def refused (dialog : Dialog) (message : String) : Dialog :=
  dialog.warned "Settings not saved" ("The settings could not be saved:\n" ++ message)

/-- Storage takes what the form gives, if it gives settings. -/
def Stores (dialog : Dialog) : Prop :=
  ∀ settings, dialog.form.settings dialog.keptHotkey = .ok settings →
    (dialog.store.write settings).1 = .ok ()

theorem notSaved_of_isForUser {failure : Failure} (h : failure.isForUser = true) :
    dialog.notSaved failure = (.ok false, dialog.refused failure.message) := by
  have hlines : "The settings could not be saved:" ++ "\n" = "The settings could not be saved:\n" := by
    decide
  simp only [notSaved, report, h, if_true, refused, hlines]

theorem save_of_error {e : SettingsError}
    (h : dialog.form.settings dialog.keptHotkey = .error e) :
    dialog.save = (.ok false, dialog.refused e.message) := by
  simp only [save, h]
  exact notSaved_of_isForUser rfl

theorem save_of_written {settings : Settings}
    (h : dialog.form.settings dialog.keptHotkey = .ok settings)
    (hwrite : (dialog.store.write settings).1 = .ok ()) : ∃ store,
      dialog.store.commit settings = (.ok (), store) ∧
        dialog.save = (.ok true, { dialog with store := store }) := by
  rcases hresult : dialog.store.write settings with ⟨outcome, disk⟩
  rw [hresult] at hwrite
  obtain rfl : outcome = .ok () := hwrite
  have hcommit : dialog.store.commit settings =
      (.ok (), { dialog.store with disk := disk, settings := settings }) := by
    simp only [Store.commit, hresult]
  exact ⟨_, hcommit, by simp only [save, h, hcommit]⟩

/-- Settings of a form that storage does not take are refused for a reason of the file system, and
no file is touched. -/
theorem save_of_unwritten {settings : Settings}
    (h : dialog.form.settings dialog.keptHotkey = .ok settings)
    (hwrite : (dialog.store.write settings).1 ≠ .ok ()) : ∃ cause disk,
      dialog.store.write settings = (.error (.file cause), disk) ∧
        dialog.store.disk.Grows disk ∧
        dialog.save = (.ok false,
          { dialog with store := { dialog.store with disk := disk } }.refused cause.message) := by
  have hnatural : settings.editor.Natural := (Form.settings_eq_ok h).2 ▸ dialog.form.inRange.natural
  obtain ⟨cs, hfile⟩ := Settings.toFile_isOk hnatural (Form.writable_of_settings h)
  rcases dialog.store.write_cases settings with
    ⟨e, disk, hresult, hgrows⟩ | ⟨_, _, _, hresult, -⟩
  · have hcommit : dialog.store.commit settings =
        (.error e, { dialog.store with disk := disk }) := by
      simp only [Store.commit, hresult]
    have herror : e.isFileError = true := Store.commit_refused hfile (congrArg Prod.fst hcommit)
    obtain ⟨cause, rfl⟩ : ∃ cause, e = .file cause := by
      cases e with
      | file cause => exact ⟨cause, rfl⟩
      | _ => cases herror
    refine ⟨cause, disk, hresult, hgrows, ?_⟩
    simp only [save, h, hcommit]
    exact notSaved_of_isForUser rfl
  · exact absurd (congrArg Prod.fst hresult) hwrite

/-- Saving succeeds just if the form can be read and storage takes what it gives. -/
theorem save_isOk_iff (dialog : Dialog) :
    dialog.save.1 = .ok true ↔ dialog.form.Readable ∧ dialog.Stores := by
  have hreadable : (∃ settings, dialog.form.settings dialog.keptHotkey = .ok settings) ↔
      dialog.form.Readable := Form.settings_isOk_iff
  rw [← hreadable]
  constructor
  · intro hsave
    rcases hform : dialog.form.settings dialog.keptHotkey with e | settings
    · rw [save_of_error hform] at hsave
      cases hsave
    refine ⟨⟨settings, rfl⟩, fun _ h => ?_⟩
    rw [hform] at h
    obtain rfl := Except.ok.inj h
    refine Decidable.byContradiction fun hwrite => ?_
    obtain ⟨_, _, -, -, hrefused⟩ := save_of_unwritten hform hwrite
    rw [hrefused] at hsave
    cases hsave
  · rintro ⟨⟨settings, hform⟩, hstores⟩
    obtain ⟨store, -, hsave⟩ := save_of_written hform (hstores settings hform)
    rw [hsave]

/-- **What saving does with a form**, whatever stands in it and wherever it is stored.

It succeeds just if the form can be read and storage takes what it gives. Then every setting is what
its control stands for, in memory and for a fresh start, except that the hotkey is kept if there is
no control for it; so another dialog with the same form, on whatever store, ends with the same
settings. Otherwise the user is told once, and neither the form, nor the settings in memory, nor any
file is changed. -/
theorem save_stores_form (dialog : Dialog) :
    (dialog.save.1 = .ok true ↔ dialog.form.Readable ∧ dialog.Stores) ∧
    (∀ saved, dialog.save = (.ok true, saved) →
      saved = { dialog with store := saved.store } ∧
      (∀ k, k ≠ .hotkey ∨ dialog.hasHotkey = true →
        dialog.form.meant k = some (saved.store.settings.value k)) ∧
      (dialog.hasHotkey = false →
        saved.store.settings.hotkey = dialog.store.settings.hotkey) ∧
      Store.load saved.store.disk dialog.store.folder = .ok (saved.store.settings, 0) ∧
      ∀ other other' : Dialog, other.form = dialog.form → other.hasHotkey = dialog.hasHotkey →
        other.save = (.ok true, other') →
        other'.store.settings =
          if dialog.hasHotkey then saved.store.settings
          else { saved.store.settings with hotkey := other.store.settings.hotkey }) ∧
    (dialog.save.1 ≠ .ok true → ∃ message disk,
      dialog.save = (.ok false,
        { dialog with store := { dialog.store with disk := disk } }.refused message) ∧
      ∀ p, disk.file? p = dialog.store.disk.file? p) := by
  refine ⟨dialog.save_isOk_iff, fun saved hsave => ?_, fun hsave => ?_⟩
  · obtain ⟨settings, store, hform, hcommit, rfl⟩ := save_eq_ok_true.mp hsave
    obtain rfl : store.settings = settings := Store.commit_of_ok hcommit
    have hnatural : store.settings.editor.Natural :=
      (Form.settings_eq_ok hform).2 ▸ dialog.form.inRange.natural
    refine ⟨rfl, fun k hkey => ?_, fun hnone => ?_, ?_, ?_⟩
    · refine (Form.meant_of_settings hform k).2 (hkey.imp_right fun hhotkey => ?_)
      simp only [keptHotkey, hhotkey, if_true]
    · refine ((Form.meant_of_settings hform .hotkey).1 rfl).trans ?_
      simp only [keptHotkey, hnone, Bool.false_eq_true, if_false, Option.getD_some]
    · obtain ⟨bytes, hread, hdecode⟩ := Store.read_of_commit hnatural hcommit
      exact (Store.load_of_read hread).trans hdecode
    · intro other other' hsame hhost hother
      obtain ⟨settings', store', hform', hcommit', rfl⟩ := save_eq_ok_true.mp hother
      obtain rfl : store'.settings = settings' := Store.commit_of_ok hcommit'
      rw [hsame] at hform'
      refine (Form.settings_congr hform hform').trans ?_
      have hhotkey := (Form.meant_of_settings hform .hotkey).1 rfl
      cases hcontrol : dialog.hasHotkey with
      | true =>
        simp only [keptHotkey, hcontrol, if_true, Option.getD_none] at hhotkey
        simp only [keptHotkey, hhost, hcontrol, if_true, Option.getD_none, ← hhotkey]
      | false =>
        simp only [keptHotkey, hhost, hcontrol, Bool.false_eq_true, if_false, Option.getD_some]
  · rcases hform : dialog.form.settings dialog.keptHotkey with e | settings
    · exact ⟨e.message, dialog.store.disk, save_of_error hform, fun _ => rfl⟩
    · have hwrite : (dialog.store.write settings).1 ≠ .ok () := fun hwrite => by
        obtain ⟨store, -, hdone⟩ := save_of_written hform hwrite
        rw [hdone] at hsave
        exact hsave rfl
      obtain ⟨cause, disk, -, hgrows, hrefused⟩ := save_of_unwritten hform hwrite
      exact ⟨cause.message, disk, hrefused, hgrows.files⟩

/-- A dialog without a control for the hotkey, on a store in which a hotkey was saved. -/
def enteredDialog : Dialog where
  store := Store.savedStore.meeting "a" []
  form :=
    { Form.blank with
      sqlExtension := " .psql"
      hotkey := "F9"
      options :=
        { indent := "\\t"
          count := fun c => if c = .maxLineWidth then " 1_20 " else "+2"
          toggle := fun t => t = .formatOnSave } }
  hasHotkey := false

theorem save_stores_form_enteredDialog :
    enteredDialog.form.Readable ∧ enteredDialog.Stores ∧
      ∃ saved, enteredDialog.save = (.ok true, saved) ∧
        saved.store.settings.value (.option (.count .maxLineWidth)) = .integer 120 ∧
        saved.store.settings.value .sqlExtension = .string ".psql" ∧
        saved.store.settings.hotkey = "F6" ∧
        Store.load saved.store.disk "config" = .ok (saved.store.settings, 0) := by
  have hdone : enteredDialog.save.1 = .ok true := Except.eq_ok_of_toOption (by decide +kernel)
  have hhotkey : enteredDialog.store.settings.hotkey = "F6" := by decide +kernel
  have hwidth : Text.integer? " 1_20 ".toList = some 120 := by decide +kernel
  have hextension : Text.strip enteredDialog.form.sqlExtension = ".psql" := by decide +kernel
  have hfolder : enteredDialog.store.folder = "config" := by decide +kernel
  obtain ⟨hsuccess, hsaved, -⟩ := save_stores_form enteredDialog
  obtain ⟨hreadable, hstores⟩ := hsuccess.mp hdone
  rcases hsave : enteredDialog.save with ⟨outcome, saved⟩
  rw [hsave] at hdone
  obtain rfl : outcome = .ok true := hdone
  obtain ⟨-, hmeant, hkept, hload, -⟩ := hsaved saved hsave
  rw [hfolder] at hload
  refine ⟨hreadable, hstores, saved, rfl, ?_, ?_, (hkept rfl).trans hhotkey, hload⟩
  · have hmeant := hmeant (.option (.count .maxLineWidth)) (.inl nofun)
    refine Option.some.inj (hmeant.symm.trans ?_)
    exact congrArg (fun number : Option Int => (number.filter fun n => 0 ≤ n).map Toml.Value.integer)
      hwidth
  · have hmeant := hmeant .sqlExtension (.inl nofun)
    rw [Form.meant, hextension] at hmeant
    exact (Option.some.inj hmeant).symm

end Dialog

end SqlDesk
