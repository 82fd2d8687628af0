/-
What is shown in a form is read from it again.

Reading the controls of the options succeeds just if each box of a count can be read, and then gives
these counts, the indent string and the toggles (`options_eq_ok_iff`). So the options that a form
stands for are `Typable`, and typable options are read back from the controls that show them
(`options_showing`), whatever the controls held before (`load_eq`).
-/
import SqlDesk.Dialog.Form
import SqlDesk.Proofs.Dialog.Field
import SqlDesk.Proofs.Options.File
import SqlDesk.Proofs.Settings.File

namespace SqlDesk

/-- The options that can be typed into a form: each count can be written out, and the indent string
is plain. -/
structure Options.Typable (options : Options) : Prop where
  counts : options.Writable
  indent : Dialog.IsPlain options.indent.toList

namespace OptionControls

/-! ## Reading -/

theorem mem_boxes (c : Count) : c ∈ boxes := by
  cases c <;> decide

theorem takeCounts_of_parse {controls : OptionControls} {counts : Count → Nat} {cs : List Count}
    (h : ∀ c ∈ cs, Dialog.parseCount (label c) (controls.count c) = .ok (counts c))
    (start : Options) :
    controls.takeCounts cs start =
      .ok { start with count := fun c => if c ∈ cs then counts c else start.count c } := by
  induction cs generalizing start with
  | nil => simp [takeCounts]
  | cons c cs ih =>
    have hrest : ∀ d ∈ cs, Dialog.parseCount (label d) (controls.count d) = .ok (counts d) :=
      fun d hd => h d (List.mem_cons_of_mem _ hd)
    simp only [takeCounts, h c List.mem_cons_self, ih hrest, Options.set, Int.toNat_natCast]
    congr 2
    funext d
    by_cases hd : d = c
    · simp [hd]
    · simp [hd]

/-- Where counts were taken, each of their boxes was read as the count that was taken. -/
theorem parse_of_takeCounts {controls : OptionControls} {cs : List Count} {start options : Options}
    (h : controls.takeCounts cs start = .ok options) :
    (∀ c ∈ cs, Dialog.parseCount (label c) (controls.count c) = .ok (options.count c)) ∧
      (∀ c ∉ cs, options.count c = start.count c) ∧
      options.indent = start.indent ∧ options.toggle = start.toggle := by
  induction cs generalizing start with
  | nil =>
    cases h
    exact ⟨fun c hc => absurd hc List.not_mem_nil, fun _ _ => rfl, rfl, rfl⟩
  | cons c cs ih =>
    simp only [takeCounts] at h
    cases hparse : Dialog.parseCount (label c) (controls.count c) with
    | error e => simp [hparse] at h
    | ok n =>
      simp only [hparse] at h
      obtain ⟨hread, hkept, hindent, htoggle⟩ := ih h
      refine ⟨fun d hd => ?_, fun d hd => ?_, hindent, htoggle⟩
      · by_cases hrest : d ∈ cs
        · exact hread d hrest
        · obtain rfl : d = c := (List.mem_cons.mp hd).resolve_right hrest
          rw [hkept d hrest, hparse]
          simp [Options.set]
      · obtain ⟨hne, hrest⟩ := not_or.mp (mt List.mem_cons.mpr hd)
        rw [hkept d hrest]
        simp only [Options.set, if_neg hne]

/-- **What the controls stand for**: the indent string, the counts and the toggles that they show, if
each count can be read. -/
theorem options_eq_ok_iff {controls : OptionControls} {options : Options} :
    controls.options = .ok options ↔
      options.indent = String.ofList (Dialog.unescapeIndent controls.indent.toList) ∧
        (∀ c, Dialog.parseCount (label c) (controls.count c) = .ok (options.count c)) ∧
        options.toggle = controls.toggle := by
  constructor
  · intro h
    obtain ⟨hread, -, hindent, htoggle⟩ := parse_of_takeCounts h
    exact ⟨hindent, fun c => hread c (mem_boxes c), htoggle⟩
  · rintro ⟨hindent, hcounts, htoggle⟩
    obtain ⟨indent, count, toggle⟩ := options
    simp only at hindent hcounts htoggle
    rw [OptionControls.options, takeCounts_of_parse fun c _ => hcounts c]
    simp only [mem_boxes, if_true, hindent, htoggle]

theorem typable_of_options {controls : OptionControls} {options : Options}
    (h : controls.options = .ok options) : options.Typable := by
  obtain ⟨hindent, hcounts, -⟩ := options_eq_ok_iff.mp h
  refine ⟨fun c => Dialog.isWritable_of_parseCount (hcounts c), ?_⟩
  rw [hindent, String.toList_ofList]
  exact Dialog.isPlain_unescapeIndent _

/-! ## Showing -/

/-- The controls that show some options. -/
def showing (options : Options) : OptionControls where
  indent := String.ofList (Dialog.escapeIndent options.indent.toList)
  count c := toString (options.count c)
  toggle := options.toggle

theorem showCounts_of_writable {options : Options} {cs : List Count}
    (h : ∀ c ∈ cs, Text.isWritable (options.count c) = true) (controls : OptionControls) :
    showCounts options cs controls =
      (.ok (), { controls with
        count := fun c => if c ∈ cs then toString (options.count c) else controls.count c }) := by
  induction cs generalizing controls with
  | nil => simp [showCounts]
  | cons c cs ih =>
    have hrest : ∀ d ∈ cs, Text.isWritable (options.count d) = true := fun d hd =>
      h d (List.mem_cons_of_mem _ hd)
    simp only [showCounts, h c List.mem_cons_self, if_true, ih hrest, enter]
    congr 2
    funext d
    by_cases hd : d = c
    · simp [hd]
    · simp [hd]

theorem load_fst (controls : OptionControls) (options : Options) :
    (controls.load options).1 = (showCounts options boxes { controls with
      indent := String.ofList (Dialog.escapeIndent options.indent.toList) }).1 := by
  unfold load
  dsimp only
  split
  · next hshown => rw [hshown]
  · next hshown => rw [hshown]

theorem load_snd_count (controls : OptionControls) (options : Options) :
    (controls.load options).2.count = (showCounts options boxes { controls with
      indent := String.ofList (Dialog.escapeIndent options.indent.toList) }).2.count := by
  unfold load
  dsimp only
  split
  · next hshown => rw [hshown]
  · next hshown => rw [hshown]

theorem load_eq (controls : OptionControls) {options : Options} (h : options.Writable) :
    controls.load options = (.ok (), showing options) := by
  have hboxes : ∀ c ∈ boxes, Text.isWritable (options.count c) = true := fun c _ => h c
  have hshown := showCounts_of_writable hboxes
    { controls with indent := String.ofList (Dialog.escapeIndent options.indent.toList) }
  simp only [mem_boxes, if_true] at hshown
  unfold load
  simp only [hshown, showing]

/-- What the controls stand for that show some options: the same options, but for what is read of
their indent string. -/
theorem options_showing_of_writable {options : Options} (h : options.Writable) :
    (showing options).options = .ok { options with
      indent := String.ofList (Dialog.unescapeIndent options.indent.toList) } := by
  refine options_eq_ok_iff.mpr ⟨?_, fun c => Dialog.parseCount_toString (h c) (label c), rfl⟩
  simp only [showing, String.toList_ofList, Dialog.unescapeIndent_escapeIndent]

/-- **Options are read back** from the controls that show them. -/
theorem options_showing {options : Options} (h : options.Typable) :
    (showing options).options = .ok options := by
  rw [options_showing_of_writable h.counts, Dialog.unescapeIndent_of_isPlain h.indent,
    String.ofList_toList]

end OptionControls

/-! ## The other controls -/

theorem EditorSettings.InRange.natural {editor : EditorSettings} (h : editor.InRange) :
    editor.Natural := by
  obtain ⟨hsize, htab, hleft, hright⟩ := h
  exact ⟨by omega, by omega, hleft.1, hright.1⟩

namespace Form

theorem loadOptions_snd (form : Form) (options : Options) :
    (form.loadOptions options).2 = { form with options := (form.options.load options).2 } := by
  unfold loadOptions
  rcases form.options.load options with ⟨outcome, controls⟩
  rfl

theorem loadOptions_eq (form : Form) {options : Options} (h : options.Writable) :
    form.loadOptions options = (.ok (), { form with options := .showing options }) := by
  simp only [loadOptions, OptionControls.load_eq _ h]

/-- The form that shows some settings, with a text in the control of the hotkey. -/
def showing (settings : Settings) (hotkey : String) : Form :=
  .ofSettings { settings.withOptions (.showing settings.options) with hotkey := hotkey }

/-- Settings that can be shown are shown, and nothing else but a hotkey that has no control. -/
theorem load_eq (form : Form) {settings : Settings} (h : settings.options.Writable)
    (hasHotkey : Bool) : form.load settings hasHotkey =
      (.ok (), showing settings (if hasHotkey then settings.hotkey else form.hotkey)) := by
  unfold load
  rw [loadOptions_eq form h]
  rfl

end Form

end SqlDesk
