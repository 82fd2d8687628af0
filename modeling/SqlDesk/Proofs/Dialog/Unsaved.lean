/-
What is done in a dialog without storing its form.

Such an action leaves the store alone, or resets it and takes that back (`act_spared`). So however
many of them are done, in any order, the stored settings are what they were when the dialog was
opened, and closing it without saving discards what was entered (`Browsed.keeps`).

A reset is taken back only if the old settings can be written again. If they cannot, though the reset
was written, they are lost (`restoreDefaults_stores`, `restoreDefaults_loses`).
-/
import SqlDesk.Proofs.Dialog.Store

namespace SqlDesk.Dialog

variable {dialog start : Dialog} {action : DialogAction} {reply : Reply}

/-! ## One action -/

/-- An action leaves the stored settings as they are: it stores nothing, the form that it would
store is refused, or it resets the store and takes that back. Of storage this asks no more than that
it writes the old settings if it has written the reset. -/
def Spares (dialog : Dialog) (reply : Reply) : DialogAction → Prop
  | .ok => dialog.Rejects
  | .apply => dialog.Rejects
  | .exportFile path => path = "" ∨ dialog.Rejects
  | .restoreDefaults => ¬ dialog.store.ResetStays (dialog.hearScope reply).1
  | _ => True

/-- What such an action does to the store: nothing, or a reset that is taken back. -/
theorem act_spared (h : dialog.Spares reply action) :
    (dialog.act reply action).2.store = dialog.store ∨
      action = .restoreDefaults ∧ (dialog.act reply action).2.store =
        (dialog.store.takenBack (dialog.hearScope reply).1).2 := by
  cases action with
  | enter control value => exact .inl rfl
  | pick control color => exact .inl rfl
  | cancel => exact .inl rfl
  | ok =>
    obtain ⟨user, hsave⟩ := save_of_rejects h
    simp only [act, hsave, true_or]
  | apply =>
    obtain ⟨user, hsave⟩ := save_of_rejects h
    simp only [act, hsave, true_or]
  | restoreDefaults =>
    obtain ⟨form, user, hrestored⟩ := dialog.restoreDefaults_eq reply
    simp only [act, hrestored, true_and, or_true]
  | importFile path =>
    simp only [act]
    split
    · exact .inl rfl
    · generalize dialog.user.shown _ = user
      obtain ⟨controls, user', himport⟩ := importFrom_eq { dialog with user := user } path
      simp only [himport, true_or]
  | exportFile path =>
    simp only [act]
    split
    · exact .inl rfl
    · next hpath =>
      generalize dialog.user.shown _ = user
      have hrejects : Rejects { dialog with user := user } := h.resolve_left hpath
      obtain ⟨user', hsave⟩ := save_of_rejects hrejects
      simp only [exportTo, hsave, true_or]

theorem settings_act (h : dialog.Spares reply action) :
    (dialog.act reply action).2.store.settings = dialog.store.settings := by
  rcases act_spared h with hstore | ⟨rfl, hstore⟩
  · rw [hstore]
  · rw [hstore]
    exact (Store.takenBack_settings _ _).2 h

theorem sound_act (hsound : dialog.store.Sound) (h : dialog.Spares reply action) :
    (dialog.act reply action).2.store.Sound ∧
      (dialog.act reply action).2.store.folder = dialog.store.folder := by
  rcases act_spared h with hstore | ⟨-, hstore⟩
  · rw [hstore]
    exact ⟨hsound, rfl⟩
  · rw [hstore]
    exact hsound.takenBack _

/-! ## Any number of actions -/

/-- Each of some actions, done one after the other, leaves the stored settings as they are. -/
def SparesAll (reply : Reply) : Dialog → List DialogAction → Prop
  | _, [] => True
  | dialog, action :: rest =>
    dialog.Spares reply action ∧ SparesAll reply (dialog.act reply action).2 rest

/-- A run of such actions leaves the stored settings as they are, also one in which something fails.
-/
theorem settings_run {actions : List DialogAction} (h : SparesAll reply dialog actions) :
    (dialog.run reply actions).2.store.settings = dialog.store.settings := by
  induction actions generalizing dialog with
  | nil => rfl
  | cons action rest ih =>
    obtain ⟨haction, hrest⟩ := h
    exact (ih hrest).trans (settings_act haction)

/-- The dialog when temporary files are named in some way and the next atomic writes meet refusals.
-/
def meeting (dialog : Dialog) (temp : TempNames) (refusals : List (Option WriteStep)) : Dialog :=
  { dialog with store := dialog.store.meeting temp refusals }

/-- The dialogs that are reached from one by actions that store nothing, whatever their outcome. Each
of them finds storage in some state, and the host replies something. -/
inductive Browsed (start : Dialog) : Dialog → Prop
  | refl : Browsed start start
  | acted {dialog : Dialog} (temp : TempNames) (refusals : List (Option WriteStep)) (reply : Reply)
      {action : DialogAction} (h : Browsed start dialog)
      (hspares : (dialog.meeting temp refusals).Spares reply action) :
      Browsed start ((dialog.meeting temp refusals).act reply action).2

/-- What such a run preserves. -/
theorem Browsed.sound (hsound : start.store.Sound) (h : Browsed start dialog) :
    dialog.store.Sound ∧ dialog.store.folder = start.store.folder ∧
      dialog.store.settings = start.store.settings := by
  induction h with
  | refl => exact ⟨hsound, rfl, rfl⟩
  | acted temp refusals reply _ hspares ih =>
    obtain ⟨hbefore, hfolder, hsettings⟩ := ih
    obtain ⟨hafter, hsame⟩ := sound_act (hbefore.meeting temp refusals) hspares
    exact ⟨hafter, hsame.trans hfolder, (settings_act hspares).trans hsettings⟩

/-- **What was not stored is discarded.** A dialog is opened on a store that was reached by requests,
and any actions are done that store nothing: controls are edited, files imported, defaults restored,
and forms refused. Then the settings in memory are what they were, a fresh start finds them, and a
dialog that is opened then shows the form that was shown at first; closing the dialog adds nothing to
that. -/
theorem Browsed.keeps {folder : String} {store : Store} (hstore : Store.Reachable folder store)
    {hasHotkey : Bool} {user : User} (hopen : Dialog.opened store hasHotkey user = .ok start)
    (h : Browsed start dialog) :
    dialog.store.settings = store.settings ∧
      (∃ fresh notices, Store.openIn dialog.store.disk folder = .ok (fresh, notices) ∧
        fresh.settings = store.settings ∧
        ∀ user', ∃ again, opened fresh hasHotkey user' = .ok again ∧ again.form = start.form) ∧
      ∀ reply, dialog.act reply .cancel = (.ok (), { dialog with closing := some .rejected }) := by
  obtain ⟨hsound, rfl⟩ := hstore.sound
  obtain ⟨form, hload, rfl⟩ := opened_eq_ok.mp hopen
  obtain ⟨hafter, hfolder, hsettings⟩ := h.sound hsound
  obtain ⟨fresh, notices, hfresh, hloaded⟩ := hafter.openIn
  rw [hfolder] at hfresh
  have hshown := hloaded.trans hsettings
  refine ⟨hsettings, ⟨fresh, notices, hfresh, hshown, fun user' => ?_⟩, fun reply => rfl⟩
  rw [← hshown] at hload
  exact ⟨_, opened_eq_ok.mpr ⟨form, hload, rfl⟩, rfl⟩

/-- A dialog on a store in which a hotkey was saved. -/
def shownDialog : Dialog where
  store := Store.savedStore
  form := .showing Store.savedStore.settings Store.savedStore.settings.hotkey
  hasHotkey := true

/-- The same dialog after the box of the extension was emptied, so that its form is refused. -/
def emptiedDialog : Dialog :=
  ((shownDialog.meeting "a" []).act (.ok "Editor") (.enter .sqlExtension (.string " "))).2

/-- The same dialog after that form was to be applied. -/
def refusedDialog : Dialog :=
  ((emptiedDialog.meeting "b" []).act (.ok "Editor") .apply).2

/-- The same dialog after the defaults were restored. -/
def restoredDialog : Dialog :=
  ((refusedDialog.meeting "c" []).act (.ok "Editor") .restoreDefaults).2

theorem Browsed.keeps_restoredDialog :
    Store.Reachable "config" Store.savedStore ∧
      Dialog.opened Store.savedStore true {} = .ok shownDialog ∧
      Browsed shownDialog restoredDialog ∧
      restoredDialog.form.hotkey = "Editor::Ctrl+K, Ctrl+F" ∧
      restoredDialog.store.settings = Store.savedStore.settings ∧
      ∃ fresh notices, Store.openIn restoredDialog.store.disk "config" = .ok (fresh, notices) ∧
        fresh.settings = Store.savedStore.settings := by
  have hwritable : Store.savedStore.settings.options.Writable := fun c => by
    cases c <;> decide +kernel
  have hopen : Dialog.opened Store.savedStore true {} = .ok shownDialog :=
    opened_eq_ok.mpr ⟨_, Form.load_eq .blank hwritable true, rfl⟩
  have hform : ((emptiedDialog.meeting "b" []).form.settings none).toOption = none := by
    decide +kernel
  have hrejects : (emptiedDialog.meeting "b" []).Rejects := Except.eq_error_of_toOption hform
  have hspares : (refusedDialog.meeting "c" []).Spares (.ok "Editor") .restoreDefaults := by
    have hscope : ((refusedDialog.meeting "c" []).hearScope (.ok "Editor")).1 = some "Editor" := by
      decide +kernel
    have hback : ((refusedDialog.meeting "c" []).store.takenBack (some "Editor")).1 = .ok () :=
      Except.eq_ok_of_toOption (by decide +kernel)
    unfold Spares
    rw [hscope]
    rintro ⟨-, e, hfailed⟩
    rw [hfailed] at hback
    cases hback
  have hemptied : Browsed shownDialog emptiedDialog :=
    .acted "a" [] (.ok "Editor") .refl trivial
  have hrefused : Browsed shownDialog refusedDialog :=
    .acted "b" [] (.ok "Editor") hemptied hrejects
  have hrestored : Browsed shownDialog restoredDialog :=
    .acted "c" [] (.ok "Editor") hrefused hspares
  obtain ⟨hsettings, ⟨fresh, notices, hfresh, hsame, -⟩, -⟩ :=
    Browsed.keeps Store.reachable_savedStore hopen hrestored
  exact ⟨Store.reachable_savedStore, hopen, hrestored, by decide +kernel, hsettings, fresh, notices,
    hfresh, hsame⟩

/-! ## Defaults -/

/-- However the two writes of Restore Defaults end, the settings in memory are those of the file. -/
theorem sound_restoreDefaults (hsound : dialog.store.Sound) (reply : Reply) :
    (dialog.restoreDefaults reply).2.store.Sound ∧
      (dialog.restoreDefaults reply).2.store.folder = dialog.store.folder := by
  obtain ⟨form, user, hrestored⟩ := dialog.restoreDefaults_eq reply
  simp only [hrestored]
  exact hsound.takenBack _

/-- **What Restore Defaults does to the stored settings**, whatever the host replies and wherever
storage refuses one of the two writes, or both. The settings are lost for what every setting is at
first just if the reset was written and the old settings are refused; in every other case they are
kept. Either way a fresh start finds what is in memory. -/
theorem restoreDefaults_stores {folder : String} {store : Store}
    (hstore : Store.Reachable folder store) {temp : TempNames} {refusals : List (Option WriteStep)}
    (hdialog : dialog.store = store.meeting temp refusals) (reply : Reply) :
    (dialog.store.ResetStays (dialog.hearScope reply).1 →
        (dialog.restoreDefaults reply).2.store.settings =
          Store.factoryFor (dialog.hearScope reply).1) ∧
      (¬ dialog.store.ResetStays (dialog.hearScope reply).1 →
        (dialog.restoreDefaults reply).2.store.settings = store.settings) ∧
      ∃ fresh notices,
        Store.openIn (dialog.restoreDefaults reply).2.store.disk folder = .ok (fresh, notices) ∧
        fresh.settings = (dialog.restoreDefaults reply).2.store.settings := by
  obtain ⟨hsound, rfl⟩ := hstore.sound
  have hmeeting : dialog.store.Sound := hdialog ▸ hsound.meeting temp refusals
  obtain ⟨hafter, hfolder⟩ := sound_restoreDefaults hmeeting reply
  obtain ⟨fresh, notices, hfresh, hloaded⟩ := hafter.openIn
  rw [hfolder, hdialog] at hfresh
  obtain ⟨form, user, hrestored⟩ := dialog.restoreDefaults_eq reply
  obtain ⟨hlost, hkept⟩ := dialog.store.takenBack_settings (dialog.hearScope reply).1
  have hsettings : dialog.store.settings = store.settings := by
    rw [hdialog, Store.meeting_settings]
  refine ⟨fun h => ?_, fun h => ?_, fresh, notices, hfresh, hloaded⟩
  · rw [hrestored, ← hlost h]
  · rw [hrestored, ← hsettings, ← hkept h]

/-- A dialog in which the reset of Restore Defaults is refused. -/
def keptDialog : Dialog :=
  { shownDialog with store := Store.savedStore.meeting "a" [some .fill, none] }

/-- A dialog in which the reset is written and the old settings are refused. -/
def lostDialog : Dialog :=
  { shownDialog with store := Store.savedStore.meeting "a" [none, some .replace] }

theorem resetStays_lostDialog : lostDialog.store.ResetStays (some "Editor") := by
  have hreset : (lostDialog.store.perform (.reset (some "Editor"))).1.toOption = some () := by
    decide +kernel
  have hback : (lostDialog.store.takenBack (some "Editor")).1.toOption = none := by
    decide +kernel
  exact ⟨Except.eq_ok_of_toOption hreset, Except.eq_error_of_toOption hback⟩

theorem restoreDefaults_stores_keptDialog :
    Store.Reachable "config" Store.savedStore ∧
      (keptDialog.restoreDefaults (.ok "Editor")).2.store.settings = Store.savedStore.settings ∧
      (∃ fresh notices,
        Store.openIn (keptDialog.restoreDefaults (.ok "Editor")).2.store.disk "config" =
          .ok (fresh, notices) ∧
        fresh.settings = (keptDialog.restoreDefaults (.ok "Editor")).2.store.settings) ∧
      (lostDialog.restoreDefaults (.ok "Editor")).2.store.settings =
        Store.factoryFor (some "Editor") := by
  have hkeptStore : keptDialog.store = Store.savedStore.meeting "a" [some .fill, none] := by
    simp only [keptDialog]
  have hlostStore : lostDialog.store = Store.savedStore.meeting "a" [none, some .replace] := by
    simp only [lostDialog]
  have hrefused : (keptDialog.store.perform (.reset (some "Editor"))).1.toOption = none := by
    decide +kernel
  have hback : ¬ keptDialog.store.ResetStays (some "Editor") := by
    rintro ⟨hreset, -⟩
    rw [hreset] at hrefused
    cases hrefused
  obtain ⟨-, hsettings, hfresh⟩ :=
    restoreDefaults_stores Store.reachable_savedStore hkeptStore (.ok "Editor")
  obtain ⟨hfactory, -, -⟩ :=
    restoreDefaults_stores Store.reachable_savedStore hlostStore (.ok "Editor")
  exact ⟨Store.reachable_savedStore, hsettings hback, hfresh, hfactory resetStays_lostDialog⟩

/-- **The settings can be lost**: they are if storage takes the reset and refuses what was there
before. -/
theorem restoreDefaults_loses :
    Store.Reachable "config" Store.savedStore ∧
      lostDialog.store = Store.savedStore.meeting "a" [none, some .replace] ∧
      (lostDialog.restoreDefaults (.ok "Editor")).2.store.settings ≠ Store.savedStore.settings ∧
      ∃ fresh notices,
        Store.openIn (lostDialog.restoreDefaults (.ok "Editor")).2.store.disk "config" =
          .ok (fresh, notices) ∧
        fresh.settings ≠ Store.savedStore.settings := by
  have hstore : lostDialog.store = Store.savedStore.meeting "a" [none, some .replace] := by
    simp only [lostDialog]
  have hchanged : (lostDialog.restoreDefaults (.ok "Editor")).2.store.settings ≠
      Store.savedStore.settings := by
    decide +kernel
  obtain ⟨hsound, hfolder⟩ := Store.reachable_savedStore.sound
  have hmeeting : lostDialog.store.Sound := hstore ▸ hsound.meeting "a" [none, some .replace]
  have hfolder' : lostDialog.store.folder = "config" := by
    rw [hstore, Store.meeting_folder, hfolder]
  obtain ⟨hafter, hsame⟩ := sound_restoreDefaults hmeeting (.ok "Editor")
  obtain ⟨fresh, notices, hfresh, hloaded⟩ := hafter.openIn
  rw [hsame, hfolder'] at hfresh
  rw [← hloaded] at hchanged
  refine ⟨Store.reachable_savedStore, hstore, ?_, fresh, notices, hfresh, hchanged⟩
  rw [← hloaded]
  exact hchanged

end SqlDesk.Dialog
