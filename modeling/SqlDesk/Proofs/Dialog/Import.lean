/-
What an import does with a form, whatever is in the file.

Options that the file offers are shown in the form, and a file that is refused leaves the form as it
is, with one warning (`importFrom_of_ok`, `importFrom_of_refused`). Besides the files that stop a
store when it imports them, one kind stops a dialog: a file that offers a count with more digits
than a numeral may have, which can be read where it is not written in decimals, but cannot be shown
(`importFrom_of_unwritable`).
-/
import SqlDesk.Proofs.Dialog.Exchange
import SqlDesk.Proofs.Settings.Import

namespace SqlDesk

/-! ## Counts that cannot be shown -/

namespace OptionControls

theorem showCounts_of_unwritable {options : Options} {c : Count} {cs : List Count} (hc : c ∈ cs)
    (h : Text.isWritable (options.count c) = false) (controls : OptionControls) :
    (showCounts options cs controls).1 = .error (.numeral none) := by
  induction cs generalizing controls with
  | nil => cases hc
  | cons d cs ih =>
    simp only [showCounts]
    split
    · next hd =>
      rcases List.mem_cons.mp hc with rfl | hrest
      · rw [h] at hd
        cases hd
      · exact ih hrest _
    · rfl

theorem load_of_unwritable {options : Options} (h : ¬ options.Writable)
    (controls : OptionControls) : (controls.load options).1 = .error (.numeral none) := by
  obtain ⟨c, hc⟩ : ∃ c, ¬ Text.isWritable (options.count c) = true :=
    Classical.not_forall.mp h
  rw [load_fst]
  exact showCounts_of_unwritable (mem_boxes c) (Bool.eq_false_iff.mpr hc) _

end OptionControls

namespace Dialog

variable {dialog : Dialog} {path : String}

/-! ## The outcomes of an import -/

/-- What is shown when a file is refused. -/
def notImported (dialog : Dialog) (cause : SettingsError) : Dialog :=
  dialog.warned "Import failed" ("Failed to import settings:\n" ++ cause.message)

theorem importFrom_of_refused {cause : SettingsError}
    (h : dialog.store.importOptions path = .error (.settings cause)) :
    dialog.importFrom path = (.ok false, dialog.notImported cause) := by
  simp only [importFrom, h, notImported]

theorem importFrom_of_halts {e : Failure} (h : Store.Halts dialog.store.disk path e) :
    dialog.importFrom path = (.error e, dialog) := by
  obtain ⟨himport, hother⟩ := Store.halts_iff.mp h
  cases e with
  | settings cause => exact absurd rfl (hother cause)
  | _ => simp only [importFrom, himport]

theorem importFrom_of_unwritable {options : Options}
    (h : dialog.store.importOptions path = .ok options) (hwritable : ¬ options.Writable) :
    ∃ controls, dialog.importFrom path =
      (.error (.numeral none), { dialog with form := { dialog.form with options := controls } }) := by
  have hload := OptionControls.load_of_unwritable hwritable dialog.form.options
  simp only [importFrom, h, Form.loadOptions]
  rcases hresult : dialog.form.options.load options with ⟨outcome, controls⟩
  rw [hresult] at hload
  obtain rfl : outcome = .error (.numeral none) := hload
  exact ⟨controls, rfl⟩

/-- The outcomes of an import in a dialog: the options are shown, the file is refused with one
warning and nothing else is changed, or the import is stopped, by the file or by a count that cannot
be shown. -/
inductive Imports (dialog : Dialog) (path : String) : Except Failure Bool × Dialog → Prop
  | shown {options : Options} (hoffers : Store.Offers dialog.store.disk path options)
      (hwritable : options.Writable) : Imports dialog path
        (.ok true, { dialog with form := { dialog.form with options := .showing options } })
  | refused (cause : SettingsError)
      (hnone : ∀ options, ¬ Store.Offers dialog.store.disk path options)
      (hgoes : ∀ e, ¬ Store.Halts dialog.store.disk path e) :
      Imports dialog path (.ok false, dialog.notImported cause)
  | halted {e : Failure} (h : Store.Halts dialog.store.disk path e) :
      Imports dialog path (.error e, dialog)
  | overlong {options : Options} {controls : OptionControls}
      (hoffers : Store.Offers dialog.store.disk path options) (hwritable : ¬ options.Writable) :
      Imports dialog path (.error (.numeral none),
        { dialog with form := { dialog.form with options := controls } })

/-- **What becomes of a file that is imported**, whatever it holds and wherever its path leads. A
store takes valid options from it just if it offers them, and refuses every other file as a settings
error unless the file stops it. A dialog shows the options, or warns once and keeps its form, or is
stopped. -/
theorem importFrom_outcome (dialog : Dialog) (path : String) :
    (∀ options, dialog.store.importOptions path = .ok options ↔
      Store.Offers dialog.store.disk path options) ∧
    (∀ options, dialog.store.importOptions path = .ok options →
      Record.check options.value = .ok options) ∧
    (∀ e, Store.Halts dialog.store.disk path e ↔
      dialog.store.importOptions path = .error e ∧ ∀ cause, e ≠ .settings cause) ∧
    Imports dialog path (dialog.importFrom path) := by
  refine ⟨fun _ => Store.importOptions_eq_ok_iff, fun options _ => Record.check_value options,
    fun _ => Store.halts_iff, ?_⟩
  cases himport : dialog.store.importOptions path with
  | ok options =>
    have hoffers := Store.importOptions_eq_ok_iff.mp himport
    by_cases hwritable : options.Writable
    · rw [importFrom_of_ok himport hwritable]
      exact .shown hoffers hwritable
    · obtain ⟨controls, hstopped⟩ := importFrom_of_unwritable himport hwritable
      rw [hstopped]
      exact .overlong hoffers hwritable
  | error e =>
    by_cases hhalts : Store.Halts dialog.store.disk path e
    · rw [importFrom_of_halts hhalts]
      exact .halted hhalts
    · obtain ⟨cause, rfl⟩ : ∃ cause, e = .settings cause := by
        refine Classical.byContradiction fun hother => hhalts (Store.halts_iff.mpr ⟨himport, ?_⟩)
        exact fun cause heq => hother ⟨cause, heq⟩
      rw [importFrom_of_refused himport]
      refine .refused cause (fun options hoffers => ?_) fun e hhalts' => ?_
      · rw [Store.importOptions_eq_ok_iff.mpr hoffers] at himport
        cases himport
      · obtain ⟨hstopped, hother⟩ := Store.halts_iff.mp hhalts'
        rw [himport] at hstopped
        exact hother cause (Except.error.inj hstopped).symm

/-- A dialog beside a file of one byte that is no text. -/
def strandedDialog : Dialog where
  store := ⟨Store.garbledDisk, "home", .factory, true⟩
  form := .blank
  hasHotkey := false

/-- **A file can stop an import**, so it is neither taken nor refused. -/
theorem importFrom_stops :
    strandedDialog.store.importOptions "config/settings.toml" =
        .error (.encoding ⟨0, 0xFF, 1, .invalidStart⟩) ∧
      strandedDialog.importFrom "config/settings.toml" =
        (.error (.encoding ⟨0, 0xFF, 1, .invalidStart⟩), strandedDialog) := by
  have hread : strandedDialog.store.disk.read (Path.normal "config/settings.toml") = .ok [0xFF] :=
    Except.eq_ok_of_toOption (by decide +kernel)
  have hhalts : Store.Halts strandedDialog.store.disk "config/settings.toml"
      (.encoding ⟨0, 0xFF, 1, .invalidStart⟩) :=
    .noText hread (Text.Utf8.encode_ne_of_decode rfl) rfl
  exact ⟨(Store.halts_iff.mp hhalts).1, importFrom_of_halts hhalts⟩

end Dialog

end SqlDesk
