/-
Options go from one dialog to another through a file.

A form from which options were exported stands for them, so their indent string and their counts are
read back from the controls that show them (`OptionControls.options_showing`); and the file gives the
options to every store that reads it (`Store.importOptions_of_written`).
-/
import SqlDesk.Proofs.Dialog.Store

namespace SqlDesk.Dialog

open SqlDesk.Path (place)

/-- Exporting succeeds just if saving does and the options of the saved settings are written. -/
theorem exportTo_eq_ok_true {dialog dialog' : Dialog} {path : String} :
    dialog.exportTo path = (.ok true, dialog') ↔
      ∃ saved store, dialog.save = (.ok true, saved) ∧
        saved.store.exportOptions path (some saved.store.settings.options.value) = (.ok (), store) ∧
        dialog' = { saved with store := store } := by
  constructor
  · intro h
    unfold exportTo at h
    split at h
    · next saved hsave =>
      rw [Store.exportOptions_none] at h
      split at h
      · next store hexport =>
        cases h
        exact ⟨saved, store, hsave, hexport, rfl⟩
      · exact absurd h report_ne_true
    · next hunsaved => exact (hunsaved dialog' h).elim
  · rintro ⟨saved, store, hsave, hexport, rfl⟩
    unfold exportTo
    rw [hsave]
    dsimp only
    rw [Store.exportOptions_none, hexport]

theorem importFrom_of_ok {dialog : Dialog} {path : String} {options : Options}
    (h : dialog.store.importOptions path = .ok options) (hwritable : options.Writable) :
    dialog.importFrom path =
      (.ok true, { dialog with form := { dialog.form with options := .showing options } }) := by
  have hload := dialog.form.loadOptions_eq hwritable
  unfold importFrom
  rw [h]
  dsimp only
  rw [hload]
  rfl

/-- **What one dialog exports, every other one imports.** If a form was stored and its options were
written to a file, then a dialog on any store that has this file imports it, whatever stands in its
own form: its controls of the options stand for the same options afterwards, which are those that the
first store has, and nothing else of it has changed. If the file is not that of the first store's
settings, these are also what a fresh start finds. -/
theorem importFrom_exportTo {a a' : Dialog} {path : String}
    (hexport : a.exportTo path = (.ok true, a')) :
    ∃ options, a.form.options.options = .ok options ∧ a'.form = a.form ∧
      a'.store.settings.options = options ∧
      (place path ≠ place a.store.file →
        ∃ notices, Store.load a'.store.disk a.store.folder = .ok (a'.store.settings, notices)) ∧
      ∀ b : Dialog, b.store.disk = a'.store.disk → ∃ controls : OptionControls,
        b.importFrom path = (.ok true, { b with form := { b.form with options := controls } }) ∧
        controls.options = .ok options := by
  obtain ⟨saved, exported, hsave, hwrite, rfl⟩ := exportTo_eq_ok_true.mp hexport
  obtain ⟨settings, stored, hsettings, hcommit, rfl⟩ := save_eq_ok_true.mp hsave
  obtain ⟨hoptions, heditor⟩ := Form.settings_eq_ok hsettings
  have htypable := OptionControls.typable_of_options hoptions
  obtain rfl := Store.commit_of_ok hcommit
  -- the file of the options is written to the disk on which the settings are stored
  obtain ⟨cs, htext⟩ := Options.toFile_isOk htypable.counts
  rcases Store.exportOptions_cases htext stored path with
    ⟨cause, _, hfailed, -, -⟩ | ⟨_, hdone, hsame, hwritten⟩
  · rw [hfailed] at hwrite
    cases hwrite
  rw [hdone] at hwrite
  cases hwrite
  refine ⟨stored.settings.options, hoptions, rfl, congrArg SettingsWith.options hsame, ?_, ?_⟩
  · intro hother
    have hnatural : stored.settings.editor.Natural := heditor ▸ a.form.inRange.natural
    obtain ⟨bytes, hread, hdecode⟩ := Store.read_of_commit hnatural hcommit
    have hstill := hwritten.read_other hother.symm hread
    exact ⟨0, by rw [Store.load_of_read hstill, hdecode, hsame]⟩
  · intro b hdisk
    rw [← hdisk] at hwritten
    have himport := Store.importOptions_of_written htext hwritten
    exact ⟨.showing stored.settings.options, importFrom_of_ok himport htypable.counts,
      OptionControls.options_showing htypable⟩

/-- A dialog in which counts were typed with blanks, a sign, underscores and digits of two scripts,
and an indent string with backslashes of its own. -/
def typedDialog : Dialog where
  store := Store.exportStore
  form :=
    { Form.blank with
      sqlExtension := " .sql"
      options :=
        { indent := "\\t\\s\\\\x\\"
          count := fun c => if c = .maxLineWidth then " 1_2٣\t" else "+007"
          toggle := fun t => t = .formatOnSave } }
  hasHotkey := false

/-- What was meant by it. -/
def typedOptions : Options where
  indent := "\t \\\\x\\"
  count := fun c => if c = .maxLineWidth then 123 else 7
  toggle := fun t => t = .formatOnSave

theorem importFrom_exportTo_typedDialog :
    ∃ a', typedDialog.exportTo "out/options.toml" = (.ok true, a') ∧
        a'.store.settings.options = typedOptions ∧
        (∃ notices, Store.load a'.store.disk "config" = .ok (a'.store.settings, notices)) ∧
        ∀ b : Dialog, b.store.disk = a'.store.disk → ∃ controls : OptionControls,
          b.importFrom "out/options.toml" =
            (.ok true, { b with form := { b.form with options := controls } }) ∧
          controls.options = .ok typedOptions := by
  have hdone : (typedDialog.exportTo "out/options.toml").1 = .ok true :=
    Except.eq_ok_of_toOption (by decide +kernel)
  have hother : place "out/options.toml" ≠ place typedDialog.store.file := by decide +kernel
  have hread : typedDialog.form.options.options = .ok typedOptions :=
    Except.eq_ok_of_toOption (by decide +kernel)
  rcases hexport : typedDialog.exportTo "out/options.toml" with ⟨outcome, a'⟩
  rw [hexport] at hdone
  obtain rfl : outcome = .ok true := hdone
  obtain ⟨options, hoptions, -, hstored, hload, himport⟩ := importFrom_exportTo hexport
  rw [hoptions] at hread
  obtain rfl : options = typedOptions := Except.ok.inj hread
  exact ⟨a', rfl, hstored, hload hother, himport⟩

end SqlDesk.Dialog
