/-
A form that is stored as it was shown.

A form in which settings are shown stands for these settings once they went through it: numbers of
the editor are in the range of their boxes, texts have no blanks around them, and in the indent
string each backslash with a letter is a tab or a space (`Form.settings_showing`). Going through the
form again changes no more (`Settings.throughForm_throughForm`), so pressing OK without an edit
settles the stored settings at once (`Dialog.ok_unedited`).
-/
import SqlDesk.Proofs.Dialog.Save

namespace SqlDesk

/-! ## Settings that went through a form -/

namespace EditorSettings

theorem nearest_eq {least most : Int} (h : least ≤ most) (n : Int) :
    nearest least most n = max least (min n most) := by
  unfold nearest
  omega

end EditorSettings

namespace Settings

/-- The settings that a form stands for in which some were shown. The hotkey is one of them if there
is a control for it. -/
def throughForm (settings : Settings) (hasHotkey : Bool) : Settings :=
  { settings with
    sqlExtension := Text.strip settings.sqlExtension
    dialect := Text.strip settings.dialect
    hotkey := if hasHotkey then Text.strip settings.hotkey else settings.hotkey
    options.indent := String.ofList (Dialog.unmarked settings.options.indent.toList)
    editor.font.size := max 6 (min settings.editor.font.size 72)
    editor.font.tabWidth := max 1 (min settings.editor.font.tabWidth 16)
    editor.gutter.leftMargin := max 0 (min settings.editor.gutter.leftMargin 50)
    editor.gutter.rightMargin := max 0 (min settings.editor.gutter.rightMargin 50) }

variable (settings : Settings) (hasHotkey : Bool)

theorem editor_throughForm : (settings.throughForm hasHotkey).editor = settings.editor.clamped := by
  simp only [throughForm, EditorSettings.clamped,
    EditorSettings.nearest_eq (show (6 : Int) ≤ 72 by decide),
    EditorSettings.nearest_eq (show (1 : Int) ≤ 16 by decide),
    EditorSettings.nearest_eq (show (0 : Int) ≤ 50 by decide)]

/-- **Going through a form twice is going through it once.** -/
theorem throughForm_throughForm :
    (settings.throughForm hasHotkey).throughForm hasHotkey = settings.throughForm hasHotkey := by
  have hrange : ∀ {least most : Int} (n : Int), least ≤ most →
      max least (min (max least (min n most)) most) = max least (min n most) := by
    intro least most n h
    omega
  simp only [throughForm, Text.strip_strip, String.toList_ofList, Dialog.unmarked_unmarked,
    hrange _ (show (6 : Int) ≤ 72 by decide), hrange _ (show (1 : Int) ≤ 16 by decide),
    hrange _ (show (0 : Int) ≤ 50 by decide)]
  cases hasHotkey <;> simp [Text.strip_strip]

end Settings

/-! ## Forms in which settings are shown -/

namespace Form

variable {settings : Settings}

/-- **What a form stands for in which settings are shown.** -/
theorem settings_showing (h : settings.options.Writable) (hotkey : String)
    (kept : Option String) : (showing settings hotkey).settings kept =
      if Text.strip settings.sqlExtension = "" then .error .noExtension
      else .ok { settings.throughForm true with hotkey := kept.getD (Text.strip hotkey) } := by
  have hoptions : (OptionControls.showing settings.options).options =
      .ok (settings.throughForm true).options := by
    refine (OptionControls.options_showing_of_writable h).trans ?_
    rw [Dialog.unescapeIndent_eq]
    rfl
  simp only [Form.settings, showing, ofSettings, SettingsWith.withOptions, hoptions,
    ← settings.editor_throughForm true]
  rfl

end Form

namespace Dialog

variable {dialog : Dialog} {settings : Settings} {hotkey : String}

/-! ## OK -/

/-- The settings that the form of a dialog stands for, if it shows some. -/
def meantBy (dialog : Dialog) (settings : Settings) (hotkey : String) : Settings :=
  { settings.throughForm true with hotkey := dialog.keptHotkey.getD (Text.strip hotkey) }

theorem ok_of_blank (hform : dialog.form = .showing settings hotkey)
    (h : settings.options.Writable) (hblank : Text.strip settings.sqlExtension = "")
    (reply : Reply) :
    dialog.act reply .ok = (.ok (), dialog.refused SettingsError.noExtension.message) := by
  have hrefused : dialog.form.settings dialog.keptHotkey = .error .noExtension := by
    rw [hform, Form.settings_showing h, if_pos hblank]
  simp only [act, save_of_error hrefused]
  rfl

theorem ok_of_showing (hform : dialog.form = .showing settings hotkey)
    (h : settings.options.Writable) (hfilled : Text.strip settings.sqlExtension ≠ "")
    {store : Store} (hcommit : dialog.store.commit (dialog.meantBy settings hotkey) = (.ok (), store))
    (reply : Reply) :
    dialog.act reply .ok = (.ok (), { dialog with store := store, closing := some .accepted }) := by
  have hsettings : dialog.form.settings dialog.keptHotkey =
      .ok (dialog.meantBy settings hotkey) := by
    rw [hform, Form.settings_showing h, if_neg hfilled]
    rfl
  have hsave : dialog.save = (.ok true, { dialog with store := store }) :=
    save_eq_ok_true.mpr ⟨_, store, hsettings, hcommit, rfl⟩
  simp only [act, hsave]
  rfl

/-! ## OK without an edit -/

variable {store : Store}

/-- The dialog on a store, as it is opened. -/
def fresh (store : Store) (hasHotkey : Bool) (user : User) : Dialog where
  store := store
  form := .showing store.settings (if hasHotkey then store.settings.hotkey else "")
  hasHotkey := hasHotkey
  user := user

theorem opened_fresh (h : store.settings.options.Writable) (hasHotkey : Bool) (user : User) :
    opened store hasHotkey user = .ok (fresh store hasHotkey user) :=
  opened_eq_ok.mpr ⟨_, Form.load_eq .blank h hasHotkey, rfl⟩

theorem meantBy_fresh (store : Store) (hasHotkey : Bool) (user : User) :
    (fresh store hasHotkey user).meantBy store.settings
        (if hasHotkey then store.settings.hotkey else "") =
      store.settings.throughForm hasHotkey := by
  cases hasHotkey <;> rfl

/-- What OK stores in a dialog that was just opened: the stored settings, once they went through its
form. -/
theorem ok_fresh (h : store.settings.options.Writable)
    (hfilled : Text.strip store.settings.sqlExtension ≠ "") {hasHotkey : Bool} {after : Store}
    (hcommit : store.commit (store.settings.throughForm hasHotkey) = (.ok (), after)) (user : User)
    (reply : Reply) :
    (fresh store hasHotkey user).act reply .ok = (.ok (),
        { fresh store hasHotkey user with store := after, closing := some .accepted }) ∧
      store.Committed (store.settings.throughForm hasHotkey) after := by
  have hnatural : (store.settings.throughForm hasHotkey).editor.Natural := by
    rw [Settings.editor_throughForm]
    exact (EditorSettings.inRange_clamped _).natural
  refine ⟨ok_of_showing rfl h hfilled ?_ reply, Store.committed_of_commit hnatural hcommit⟩
  rw [meantBy_fresh]
  exact hcommit

/-- **OK without an edit.** If each count of the stored settings can be written out, a dialog is
opened on them. Pressing OK in it is refused and changes nothing if the extension is blank. Otherwise
it stores the settings as they are once they went through the form, if storage takes them: nothing
else is changed, in memory and for a fresh start. A dialog that is opened then and closed with OK
changes no more. -/
theorem ok_unedited (h : store.settings.options.Writable) (hasHotkey : Bool) (user : User)
    (reply : Reply) :
    ∃ dialog, opened store hasHotkey user = .ok dialog ∧ dialog.store = store ∧
      (Text.strip store.settings.sqlExtension = "" →
        dialog.act reply .ok = (.ok (), dialog.refused SettingsError.noExtension.message)) ∧
      (Text.strip store.settings.sqlExtension ≠ "" → ∀ after,
        store.commit (store.settings.throughForm hasHotkey) = (.ok (), after) →
          dialog.act reply .ok =
            (.ok (), { dialog with store := after, closing := some .accepted }) ∧
          after.settings = store.settings.throughForm hasHotkey ∧
          Store.load after.disk store.folder = .ok (after.settings, 0) ∧
          ∀ user', ∃ again, opened after hasHotkey user' = .ok again ∧
            ∀ last, after.commit after.settings = (.ok (), last) →
              again.act reply .ok =
                (.ok (), { again with store := last, closing := some .accepted }) ∧
              last.settings = after.settings ∧
              Store.load last.disk store.folder = .ok (after.settings, 0)) := by
  refine ⟨_, opened_fresh h hasHotkey user, rfl, fun hblank => ok_of_blank rfl h hblank reply,
    fun hfilled after hcommit => ?_⟩
  obtain ⟨hact, hafter⟩ := ok_fresh h hfilled hcommit user reply
  have hstored := hafter.stored
  have hagain : after.settings.throughForm hasHotkey = after.settings := by
    rw [hstored, Settings.throughForm_throughForm]
  have hcounts : after.settings.options.Writable := by
    rw [hstored]
    exact h
  have hfilled' : Text.strip after.settings.sqlExtension ≠ "" := by
    have hstrip : after.settings.sqlExtension = Text.strip store.settings.sqlExtension :=
      congrArg SettingsWith.sqlExtension hstored
    rw [hstrip, Text.strip_strip]
    exact hfilled
  refine ⟨hact, hstored, hstored.symm ▸ hafter.found, fun user' =>
    ⟨_, opened_fresh hcounts hasHotkey user', fun last hcommit' => ?_⟩⟩
  rw [← hagain] at hcommit'
  obtain ⟨hact', hlast⟩ := ok_fresh hcounts hfilled' hcommit' user' reply
  rw [hagain] at hlast
  exact ⟨hact', hlast.stored, hafter.folder ▸ hlast.found⟩

/-- Settings that a form does not show as they are. -/
def looseSettings : Settings :=
  { Settings.factory with
    sqlExtension := " .psql"
    hotkey := "F9 "
    options.indent := "\\s\\t\t"
    editor.font.size := 100
    editor.gutter.leftMargin := 51 }

/-- A store in which they were saved. -/
def looseStore : Store :=
  ((Store.savedStore.meeting "a" []).commit looseSettings).2

theorem committed_looseStore :
    (Store.savedStore.meeting "a" []).Committed looseSettings looseStore := by
  have hdone : ((Store.savedStore.meeting "a" []).commit looseSettings).1 = .ok () :=
    Except.eq_ok_of_toOption (by decide +kernel)
  have hnatural : looseSettings.editor.Natural := ⟨by decide, by decide, by decide, by decide⟩
  have hcommit : (Store.savedStore.meeting "a" []).commit looseSettings =
      (.ok (), looseStore) := by
    rw [looseStore, ← hdone]
  exact Store.committed_of_commit hnatural hcommit

/-- They are stored as the form shows them, the hotkey aside, for which there is no control. -/
theorem ok_unedited_looseStore :
    looseStore.settings.options.Writable ∧
      Text.strip looseStore.settings.sqlExtension ≠ "" ∧
      ∃ dialog after again last, opened looseStore false {} = .ok dialog ∧
        looseStore.commit (looseStore.settings.throughForm false) = (.ok (), after) ∧
        after.commit after.settings = (.ok (), last) ∧
        dialog.act (.ok "") .ok =
          (.ok (), { dialog with store := after, closing := some .accepted }) ∧
        after.settings =
          { Settings.factory with
            sqlExtension := ".psql"
            hotkey := "F9 "
            options.indent := " \t\t"
            editor.font.size := 72
            editor.gutter.leftMargin := 50 } ∧
        Store.load after.disk "config" = .ok (after.settings, 0) ∧
        opened after false {} = .ok again ∧
        again.act (.ok "") .ok =
          (.ok (), { again with store := last, closing := some .accepted }) ∧
        last.settings = after.settings := by
  have hstored := committed_looseStore.stored
  have hfolder : looseStore.folder = "config" := by
    rw [committed_looseStore.folder]
    decide +kernel
  have hcounts : looseStore.settings.options.Writable := by
    rw [hstored]
    intro c
    cases c <;> decide +kernel
  have hfilled : Text.strip looseStore.settings.sqlExtension ≠ "" := by
    rw [hstored]
    decide +kernel
  have hfirst : (looseStore.commit (looseStore.settings.throughForm false)).1 = .ok () :=
    Except.eq_ok_of_toOption (by decide +kernel)
  rcases hafter : looseStore.commit (looseStore.settings.throughForm false) with ⟨outcome, after⟩
  rw [hafter] at hfirst
  obtain rfl : outcome = .ok () := hfirst
  have hsecond : (after.commit after.settings).1 = .ok () := by
    obtain rfl : (looseStore.commit (looseStore.settings.throughForm false)).2 = after := by
      rw [hafter]
    exact Except.eq_ok_of_toOption (by decide +kernel)
  rcases hlast : after.commit after.settings with ⟨outcome, last⟩
  rw [hlast] at hsecond
  obtain rfl : outcome = .ok () := hsecond
  obtain ⟨dialog, hopen, -, -, hstores⟩ := ok_unedited hcounts false {} (.ok "")
  obtain ⟨hact, hsettings, hload, hmore⟩ := hstores hfilled after hafter
  obtain ⟨again, hagain, hmore⟩ := hmore {}
  obtain ⟨hact', hsame, -⟩ := hmore last hlast
  refine ⟨hcounts, hfilled, dialog, after, again, last, hopen, rfl, hlast, hact, ?_, ?_,
    hagain, hact', hsame⟩
  · rw [hsettings, hstored]
    decide +kernel
  · rw [← hfolder]
    exact hload

end Dialog

end SqlDesk
