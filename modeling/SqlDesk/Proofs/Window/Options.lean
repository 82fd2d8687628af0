/-
The format command of a window and the options dialog.

The command goes on with the settings that it was configured with. `Agrees` says that these are the
stored ones, as far as it uses them. After a dialog that was accepted they are, whatever was done in
it; after one that was not, the command is as it was (`showOptions_agrees`), though Apply and Export
may have stored other settings in the meantime (`showOptions_disagrees`).
-/
import SqlDesk.Window
import SqlDesk.Proofs.Hotkey
import SqlDesk.Proofs.Dialog.Unsaved

namespace SqlDesk

namespace Store

/-- What a pull asks of the store: nothing, or to save another hotkey. -/
theorem pull_cases {σ : Type} (host : Option (BindingHost σ)) (state : σ) (store : Store) :
    (Hotkey.pull host state store).2 = store ∨
      ∃ keys, (Hotkey.pull host state store).2 = (store.perform (.save none (some keys))).2 := by
  have hpulled := Hotkey.pulled host state store
  generalize Hotkey.pull host state store = result at hpulled
  cases hpulled with
  | absent _ => exact .inl rfl
  | unread _ _ => exact .inl rfl
  | same _ _ _ => exact .inl rfl
  | stored _ _ _ hcommit => exact .inr ⟨_, (congrArg Prod.snd hcommit).symm⟩
  | unstored _ _ _ hcommit => exact .inr ⟨_, (congrArg Prod.snd hcommit).symm⟩

theorem configured_saved_hotkey (store : Store) (keys : String) (injected : Option Formatter)
    (libraries : Engine.Libraries) :
    Command.configured (store.perform (.save none (some keys))).2.settings injected libraries =
      Command.configured store.settings injected libraries := by
  simp only [perform, save, newOptions, Option.getD_some]
  rcases store.commit_settings { store.settings with hotkey := keys } with h | h
  · rw [h]
  · rw [h]
    rfl

end Store

namespace Window

variable {κ : Type}

theorem hear_eq (window : Window κ) (reply : Reply) :
    ∃ user, window.hear reply = { window with user := user } := by
  unfold hear
  split
  · exact ⟨window.user, rfl⟩
  · exact ⟨_, rfl⟩

variable [KeyNotation κ]

/-- The format command of a window is configured from the stored settings: their options, their
extension, and the engine for these options and their dialect. -/
def Agrees (window : Window κ) : Prop :=
  window.command =
    Command.configured window.store.settings window.command.injected window.command.libraries

theorem opened_agrees (store : Store) (action : Action κ) (libraries : Engine.Libraries) :
    (Window.opened store action libraries).store = store ∧
      (Window.opened store action libraries).Agrees := by
  unfold Window.opened
  rcases Hotkey.push (some Action.host) action store with ⟨reply, action⟩
  exact ⟨rfl, rfl⟩

variable {window : Window κ} {start dialog : Dialog} {actions : List DialogAction}
  {outcome : Except Failure Unit}

/-! ## The hotkey -/

theorem pullHotkey_eq (window : Window κ) : ∃ user, window.pullHotkey =
    { window with
      store := (Hotkey.pull (some Action.host) window.action window.store).2
      user := user } := by
  unfold pullHotkey
  rcases Hotkey.pull (some Action.host) window.action window.store with ⟨reply, store⟩
  exact hear_eq { window with store := store } reply

/-- Giving the action the stored hotkey changes nothing but the action and what the user has seen.
-/
theorem pushHotkey_eq (window : Window κ) : ∃ action user, window.pushHotkey =
    { window with action := action, user := user } := by
  unfold pushHotkey
  rcases Hotkey.push (some Action.host) window.action window.store with ⟨reply, action⟩
  obtain ⟨user, hhear⟩ := hear_eq { window with action := action } reply
  exact ⟨action, user, hhear⟩

theorem served_pullHotkey (window : Window κ) :
    window.store.Served window.pullHotkey.store := by
  obtain ⟨user, hpull⟩ := window.pullHotkey_eq
  rw [hpull]
  rcases Store.pull_cases (some Action.host) window.action window.store with h | ⟨keys, h⟩
  · simp only [h]
    exact .refl
  · simp only [h]
    exact .performed .refl trivial

theorem configured_pullHotkey (window : Window κ) (injected : Option Formatter)
    (libraries : Engine.Libraries) :
    Command.configured window.pullHotkey.store.settings injected libraries =
      Command.configured window.store.settings injected libraries := by
  obtain ⟨user, hpull⟩ := window.pullHotkey_eq
  rw [hpull]
  rcases Store.pull_cases (some Action.host) window.action window.store with h | ⟨keys, h⟩
  · simp only [h]
  · simp only [h, Store.configured_saved_hotkey]

/-! ## The dialog -/

/-- What becomes of a window when its dialog returns: the store is that of the dialog, and the
command is configured anew if the dialog was accepted. -/
theorem showOptions_eq
    (hopen : Dialog.opened window.pullHotkey.store true window.pullHotkey.user = .ok start)
    (hrun : start.run (Hotkey.readScope (some Action.host) window.action) actions =
      (outcome, dialog)) :
    ∃ after, window.showOptions actions = (outcome, after) ∧ after.store = dialog.store ∧
      after.command =
        if dialog.closing = some .accepted then window.command.refresh dialog.store.settings
        else window.command := by
  obtain ⟨user, hpull⟩ := window.pullHotkey_eq
  have haction : window.pullHotkey.action = window.action := by rw [hpull]
  have hcommand : window.pullHotkey.command = window.command := by rw [hpull]
  rw [← haction] at hrun
  rw [← hcommand]
  unfold showOptions
  generalize window.pullHotkey = pulled at hopen hrun ⊢
  simp only [hopen, hrun]
  split
  · obtain ⟨action, user', hpush⟩ := pushHotkey_eq
      { pulled with store := dialog.store, user := dialog.user }
    refine ⟨_, rfl, ?_, ?_⟩
    · rw [hpush]
      rfl
    · rw [hpush]
      rfl
  · exact ⟨_, rfl, rfl, rfl⟩

/-- **The format command after the options dialog.** A window that agrees with its store shows the
dialog, and the user does whatever he likes in it, whether it fails or not. If the dialog was
accepted at last, the window agrees with the store when it has returned. Otherwise its command is as
it was: the window agrees with the store if the stored settings are those that the dialog was opened
with, and they are if everything that was done spared them. A fresh start finds the settings of the
store, if it did so before and no options were exported over their file. -/
theorem showOptions_agrees (hagrees : window.Agrees)
    (hopen : Dialog.opened window.pullHotkey.store true window.pullHotkey.user = .ok start)
    (hrun : start.run (Hotkey.readScope (some Action.host) window.action) actions =
      (outcome, dialog)) :
    ∃ after, window.showOptions actions = (outcome, after) ∧ after.store = dialog.store ∧
      (dialog.closing = some .accepted → after.Agrees) ∧
      (dialog.closing ≠ some .accepted →
        after.command = window.command ∧
        (after.store.settings = start.store.settings → after.Agrees) ∧
        (Dialog.SparesAll (Hotkey.readScope (some Action.host) window.action) start actions →
          after.store.settings = start.store.settings)) ∧
      (window.store.Sound → (∀ action ∈ actions, action.Proper window.store.folder) →
        ∃ fresh notices,
          Store.openIn after.store.disk window.store.folder = .ok (fresh, notices) ∧
          fresh.settings = after.store.settings) := by
  obtain ⟨after, hshow, hstore, hcommand⟩ := showOptions_eq hopen hrun
  obtain ⟨form, -, hstart⟩ := Dialog.opened_eq_ok.mp hopen
  have hpulled : start.store = window.pullHotkey.store := by rw [hstart]
  refine ⟨after, hshow, hstore, fun haccepted => ?_, fun hrejected => ⟨?_, fun hsame => ?_, ?_⟩, ?_⟩
  · rw [if_pos haccepted] at hcommand
    rw [Agrees, hcommand, hstore]
    rfl
  · rw [hcommand, if_neg hrejected]
  · rw [if_neg hrejected] at hcommand
    rw [Agrees, hcommand, hsame, hpulled, configured_pullHotkey]
    exact hagrees
  · intro hspares
    have hsame := Dialog.settings_run hspares
    rw [hrun] at hsame
    rw [hstore]
    exact hsame
  · intro hsound hactions
    -- pulling the hotkey and the run in the dialog ask the store nothing but requests
    have hstarted : window.store.Served start.store := hpulled ▸ window.served_pullHotkey
    have hserved := Dialog.served_run hsound hactions
      (Hotkey.readScope (some Action.host) window.action) hstarted
    rw [hrun] at hserved
    obtain ⟨hafter, hfolder⟩ := hserved.sound hsound
    obtain ⟨fresh, notices, hfresh, hloaded⟩ := hafter.openIn
    rw [hfolder] at hfresh
    rw [hstore]
    exact ⟨fresh, notices, hfresh, hloaded⟩

/-- A window on a store in an empty directory. -/
def freshWindow : Window :=
  Window.opened Store.emptyStore {}

/-- Small keywords are asked for. -/
def askSmall : DialogAction :=
  .enter (.option (.toggle .uppercaseKeywords)) (.boolean false)

/-- The dialog that the window shows. -/
def freshDialog : Dialog where
  store := freshWindow.pullHotkey.store
  form :=
    .showing freshWindow.pullHotkey.store.settings freshWindow.pullHotkey.store.settings.hotkey
  hasHotkey := true
  user := freshWindow.pullHotkey.user

theorem opened_freshDialog :
    Dialog.opened freshWindow.pullHotkey.store true freshWindow.pullHotkey.user =
      .ok freshDialog := by
  have hwritable : freshWindow.pullHotkey.store.settings.options.Writable := fun c => by
    cases c <;> decide +kernel
  exact Dialog.opened_eq_ok.mpr ⟨_, Form.load_eq .blank hwritable true, rfl⟩

theorem sound_freshWindow : freshWindow.store.Sound := by
  rw [freshWindow, (opened_agrees Store.emptyStore {} .sql).1]
  exact Store.reachable_emptyStore.sound.1

/-- The form is applied, its options are exported, and the dialog is accepted. -/
def acceptedActions : List DialogAction :=
  [askSmall, .apply, .exportFile "options.toml", .ok]

theorem showOptions_agrees_freshWindow :
    freshWindow.store.Sound ∧ freshWindow.Agrees ∧
      (∀ action ∈ acceptedActions, action.Proper freshWindow.store.folder) ∧
      Dialog.opened freshWindow.pullHotkey.store true freshWindow.pullHotkey.user =
        .ok freshDialog ∧
      ∃ dialog after,
        freshDialog.run (Hotkey.readScope (some Action.host) freshWindow.action) acceptedActions =
          (.ok (), dialog) ∧
        dialog.closing = some .accepted ∧
        freshWindow.showOptions acceptedActions = (.ok (), after) ∧ after.Agrees ∧
        ∃ fresh notices,
          Store.openIn after.store.disk freshWindow.store.folder = .ok (fresh, notices) ∧
          fresh.settings = after.store.settings := by
  have hactions : ∀ action ∈ acceptedActions, action.Proper freshWindow.store.folder := by
    have hother : Path.place "options.toml" ≠
        Path.place (Store.fileIn freshWindow.store.folder) := by
      decide +kernel
    simp only [acceptedActions, askSmall, List.forall_mem_cons, List.not_mem_nil, false_implies,
      implies_true, and_true]
    exact ⟨trivial, trivial, hother, trivial⟩
  have houtcome : (freshDialog.run (Hotkey.readScope (some Action.host) freshWindow.action)
      acceptedActions).1 = .ok () :=
    Except.eq_ok_of_toOption (by decide +kernel)
  have hclosing : (freshDialog.run (Hotkey.readScope (some Action.host) freshWindow.action)
      acceptedActions).2.closing = some .accepted := by
    decide +kernel
  rcases hrun : freshDialog.run (Hotkey.readScope (some Action.host) freshWindow.action)
    acceptedActions with ⟨outcome, dialog⟩
  rw [hrun] at houtcome hclosing
  obtain rfl : outcome = .ok () := houtcome
  obtain ⟨after, hshow, -, hagrees, -, hfresh⟩ :=
    showOptions_agrees (opened_agrees _ _ _).2 opened_freshDialog hrun
  exact ⟨sound_freshWindow, (opened_agrees _ _ _).2, hactions, opened_freshDialog, dialog, after,
    rfl, hclosing, hshow, hagrees hclosing, hfresh sound_freshWindow hactions⟩

/-- The form is applied, and the dialog is cancelled. -/
def cancelledActions : List DialogAction :=
  [askSmall, .apply, .cancel]

/-- **A window can disagree with its store**: it does after other options were applied in a dialog
that was cancelled then. -/
theorem showOptions_disagrees :
    freshWindow.Agrees ∧ ∃ after, freshWindow.showOptions cancelledActions = (.ok (), after) ∧
      (freshDialog.run (Hotkey.readScope (some Action.host) freshWindow.action)
        cancelledActions).2.closing = some .rejected ∧
      after.command.options.toggle .uppercaseKeywords = true ∧
      after.store.settings.options.toggle .uppercaseKeywords = false ∧ ¬ after.Agrees := by
  have houtcome : (freshWindow.showOptions cancelledActions).1 = .ok () :=
    Except.eq_ok_of_toOption (by decide +kernel)
  have hclosing : (freshDialog.run (Hotkey.readScope (some Action.host) freshWindow.action)
      cancelledActions).2.closing = some .rejected := by
    decide +kernel
  have hcommand : (freshWindow.showOptions cancelledActions).2.command.options.toggle
      .uppercaseKeywords = true := by
    decide +kernel
  have hstored : (freshWindow.showOptions cancelledActions).2.store.settings.options.toggle
      .uppercaseKeywords = false := by
    decide +kernel
  rcases hshow : freshWindow.showOptions cancelledActions with ⟨outcome, after⟩
  rw [hshow] at houtcome hcommand hstored
  obtain rfl : outcome = .ok () := houtcome
  refine ⟨(opened_agrees _ _ _).2, after, rfl, hclosing, hcommand, hstored, fun hagrees => ?_⟩
  rw [hagrees] at hcommand
  exact absurd (hcommand.symm.trans hstored) (by decide)

end Window

end SqlDesk
