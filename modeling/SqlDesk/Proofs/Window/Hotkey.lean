/-
The stored hotkey after an options dialog that was cancelled.

A window gives the stored hotkey to its action when it opens, and stores the hotkey of the action
when the options dialog opens. So a hotkey goes to the host and back, whatever the notation of the
host is. What the host has refused comes back as nothing, though nobody has asked for that; what it has
bound comes back as it spells it, and is the same key sequence if the notation reads its own spelling.
-/
import SqlDesk.Proofs.Hotkey.Binding
import SqlDesk.Proofs.Window.Options

namespace SqlDesk

namespace KeyNotation

open Hotkey

variable {κ : Type} {keys : KeyNotation κ}

/-- A host refuses a hotkey that is not blank and whose keys are read as no sequence. -/
def Refuses (keys : KeyNotation κ) (hotkey : String) : Prop :=
  Text.strip hotkey ≠ "" ∧ keys.isEmpty (keys.denoted hotkey) = true

theorem isEmpty_of_not_refuses {hotkey : String} (h : ¬ keys.Refuses hotkey)
    (hblank : Text.strip hotkey ≠ "") : keys.isEmpty (keys.denoted hotkey) = false :=
  Bool.eq_false_iff.mpr fun hempty => h ⟨hblank, hempty⟩

variable {store : Store}

theorem push_of_refuses (h : keys.Refuses store.settings.hotkey) (action : Action κ) :
    push (some Action.host) action store =
      (.error (.bind store.settings.hotkey (.keySequence (Hotkey.keys store.settings.hotkey))),
        action) := by
  obtain ⟨hblank, hempty⟩ := h
  rw [denoted] at hempty
  rw [push_action, Action.keyHost]
  simp only [push, host, if_neg hblank, sequences, if_pos hempty]

theorem push_of_not_refuses (h : ¬ keys.Refuses store.settings.hotkey) (action : Action κ) :
    push (some Action.host) action store = (.ok store.settings.hotkey,
      { action with shortcuts := keys.settledKeys store.settings.hotkey }) := by
  rw [push_action, Action.keyHost]
  simp only [push, setBindings_accepted (isEmpty_of_not_refuses h)]

theorem bindings_nil {name : String} {bindings : List String}
    (h : (keys.host name).bindings [] = .ok bindings) : bindings = [] := by
  simp only [host] at h
  split at h
  · cases h
  · exact (Except.ok.inj h).symm

theorem ne_of_bindings {name : String} {shortcuts : List κ} {bindings : List String}
    (h : (keys.host name).bindings shortcuts = .ok bindings) : name ≠ "" := by
  intro hname
  simp only [host, if_pos hname] at h
  cases h

/-- The keys of a hotkey that came back denote what the notation reads its own spelling as. -/
theorem denoted_settledHotkey {name hotkey : String} (hproper : IsProper name)
    (hblank : Text.strip hotkey ≠ "") : keys.denoted (keys.settledHotkey name hotkey) =
      keys.read (Text.strip (keys.spell (keys.denoted hotkey))) := by
  rw [denoted, settledHotkey, if_neg hblank, keys_append hproper, denoted]

theorem keys_of_blank {hotkey : String} (h : Text.strip hotkey = "") : Hotkey.keys hotkey = "" := by
  have htrim : Text.trim hotkey.toList = [] := by
    simpa [Text.strip] using congrArg String.toList h
  unfold Hotkey.keys split
  split
  · next hcut =>
    -- a separator would be left by the trimming
    have hcolon : ':' ∈ Text.trim hotkey.toList := by
      refine Text.mem_trim (by decide) ?_
      rw [Text.eq_of_cut? hcut]
      simp [separator]
    rw [htrim] at hcolon
    cases hcolon
  · exact h

theorem denoted_settledHotkey_iff {name : String} (hproper : IsProper name) (hotkey : String) :
    keys.denoted (keys.settledHotkey name hotkey) = keys.denoted hotkey ↔
      Text.strip hotkey = "" ∨
        keys.read (Text.strip (keys.spell (keys.denoted hotkey))) = keys.denoted hotkey := by
  by_cases hblank : Text.strip hotkey = ""
  · refine iff_of_true ?_ (.inl hblank)
    rw [settledHotkey, if_pos hblank, denoted, denoted, keys_of_blank hblank]
    rfl
  · rw [denoted_settledHotkey hproper hblank, or_iff_right hblank]

theorem Lawful.denoted_settled (hlawful : keys.Lawful) {name hotkey : String}
    (hproper : IsProper name) (h : ¬ keys.Refuses hotkey) :
    keys.denoted (keys.settledHotkey name hotkey) = keys.denoted hotkey := by
  refine (denoted_settledHotkey_iff hproper hotkey).mpr ?_
  by_cases hblank : Text.strip hotkey = ""
  · exact .inl hblank
  · have hspells := hlawful.spells (isEmpty_of_not_refuses h hblank)
    exact .inr ((congrArg keys.read hspells.strip_spell).trans hspells.read_spell)

end KeyNotation

namespace Window

open Hotkey

variable {κ : Type} (keys : KeyNotation κ) (store : Store) (name : Option String)

/-- A dialog that is cancelled leaves the store as it was pulled. -/
theorem store_showOptions_cancel (window : Window κ) :
    (window.showOptions [.cancel]).2.store = window.pullHotkey.store := by
  unfold showOptions
  generalize window.pullHotkey = pulled
  cases hopen : Dialog.opened pulled.store true pulled.user with
  | error e => simp only [hopen]
  | ok dialog =>
    obtain ⟨form, -, rfl⟩ := Dialog.opened_eq_ok.mp hopen
    simp only [hopen, Dialog.run, Dialog.act, Dialog.closed]
    rfl

/-- An action without shortcuts at a host that calls the scope by some name. -/
def freshAction : Action κ :=
  { scopeName := name }

/-- The stored hotkey after a window was opened on a store and its options dialog was cancelled. -/
def hotkeyAfter : String :=
  ((opened store (freshAction name : Action κ)).showOptions [.cancel]).2.store.settings.hotkey

/-- What the window is told when it asks for the hotkey of its action. -/
def pulled : Reply :=
  (pull (some Action.host) (opened store (freshAction name : Action κ)).action store).1

/-- What the window is told when it opens. -/
def pushed : Reply :=
  (push (some Action.host) (freshAction name : Action κ) store).1

theorem action_opened (action : Action κ) :
    (opened store action).action = (push (some Action.host) action store).2 := by
  unfold Window.opened
  rcases push (some Action.host) action store with ⟨reply, action⟩
  rfl

theorem hotkeyAfter_eq : hotkeyAfter keys store name =
    (pull (some Action.host) (opened store (freshAction name : Action κ)).action
      store).2.settings.hotkey := by
  obtain ⟨user, hpull⟩ := (opened store (freshAction name : Action κ)).pullHotkey_eq
  rw [hotkeyAfter, store_showOptions_cancel, hpull, (opened_agrees store _ .sql).1]

variable {keys store name}

theorem exists_pushed_eq_error_iff :
    (∃ refusal, pushed keys store name = .error refusal) ↔ keys.Refuses store.settings.hotkey := by
  rw [pushed]
  by_cases h : keys.Refuses store.settings.hotkey
  · exact iff_of_true ⟨_, congrArg Prod.fst (KeyNotation.push_of_refuses h _)⟩ h
  · refine iff_of_false ?_ h
    rw [KeyNotation.push_of_not_refuses h]
    rintro ⟨refusal, hne⟩
    cases hne

theorem headD_of_refuses (h : keys.Refuses store.settings.hotkey) {bindings : List String}
    (hbindings : Action.host.bindings (opened store (freshAction name : Action κ)).action =
      .ok bindings) : bindings.headD "" = "" := by
  rw [action_opened, KeyNotation.push_of_refuses h] at hbindings
  rw [KeyNotation.bindings_nil hbindings, List.headD_nil]

theorem headD_of_not_refuses (h : ¬ keys.Refuses store.settings.hotkey) {bindings : List String}
    (hbindings : Action.host.bindings (opened store (freshAction name : Action κ)).action =
      .ok bindings) :
    bindings.headD "" = keys.settledHotkey (name.getD factoryScope) store.settings.hotkey := by
  rw [action_opened, KeyNotation.push_of_not_refuses h] at hbindings
  obtain ⟨others, hothers, hhead⟩ := KeyNotation.bindings_settledKeys
    (KeyNotation.ne_of_bindings hbindings) (KeyNotation.isEmpty_of_not_refuses h)
  have hsame : bindings = others := Except.ok.inj (hbindings.symm.trans hothers)
  rw [hsame]
  exact hhead

variable (keys store name)

/-- **The stored hotkey after a dialog that was cancelled.** If the bindings cannot be read or the
store cannot be written it is as before. Otherwise it is empty if the host refused it when the window
opened. If the host bound it, it is empty if it was blank, and else the sequence as the host spells it,
in the scope of the host. If that scope is proper, its keys denote the same sequence as before just if
it was blank or the notation reads the sequence again from its spelling, as a lawful notation does. -/
theorem hotkeyAfter_cases :
    ((∃ refusal, pushed keys store name = .error refusal) ↔ keys.Refuses store.settings.hotkey) ∧
    (∀ refusal, pulled keys store name = .error refusal →
      hotkeyAfter keys store name = store.settings.hotkey) ∧
    ∀ reply, pulled keys store name = .ok reply →
      (keys.Refuses store.settings.hotkey → hotkeyAfter keys store name = "") ∧
      (¬ keys.Refuses store.settings.hotkey →
        hotkeyAfter keys store name =
          keys.settledHotkey (name.getD factoryScope) store.settings.hotkey ∧
        (IsProper (name.getD factoryScope) →
          (keys.denoted (hotkeyAfter keys store name) = keys.denoted store.settings.hotkey ↔
            Text.strip store.settings.hotkey = "" ∨
              keys.read (Text.strip (keys.spell (keys.denoted store.settings.hotkey))) =
                keys.denoted store.settings.hotkey) ∧
          (keys.Lawful → keys.denoted (hotkeyAfter keys store name) =
            keys.denoted store.settings.hotkey))) := by
  rw [hotkeyAfter_eq]
  rcases hpull : pull (some Action.host) (opened store (freshAction name : Action κ)).action store
    with ⟨outcome, after⟩
  obtain ⟨hrefused, hanswered⟩ := pull_hotkey hpull
  simp only [pulled, hpull]
  refine ⟨exists_pushed_eq_error_iff, hrefused, fun reply hreply => ?_⟩
  obtain ⟨hstored, bindings, hbindings, rfl⟩ := hanswered reply hreply
  rw [hstored]
  refine ⟨fun h => headD_of_refuses h hbindings, fun h => ?_⟩
  rw [headD_of_not_refuses h hbindings]
  exact ⟨rfl, fun hproper => ⟨KeyNotation.denoted_settledHotkey_iff hproper _,
    fun hlawful => hlawful.denoted_settled hproper h⟩⟩

/-- A store in an empty directory, with a hotkey. -/
def hotkeyStore (hotkey : String) : Store :=
  { Store.emptyStore with settings.hotkey := hotkey }

/-- A notation that takes every text that it does not know for one unknown sequence, which is not
empty and spelt as nothing. -/
@[reducible] def tolerant : KeyNotation (Option String) where
  read text :=
    if text = "" then some ""
    else if KeySequence.ofText text = "" then none
    else some text
  spell sequence := sequence.getD ""
  isEmpty sequence := sequence = some ""

/-- **A dialog that is cancelled can lose the keys.** A hotkey that the host refused when the window
opened is emptied. A host that takes it for an unknown sequence binds it, and gives back a hotkey
without keys. -/
theorem hotkeyAfter_loses :
    ((∃ refusal, pushed KeyNotation.verbatim (hotkeyStore "Text Editor::Ctrl+Bogus") none =
        .error refusal) ∧
      Hotkey.keys "Text Editor::Ctrl+Bogus" = "Ctrl+Bogus" ∧
      hotkeyAfter KeyNotation.verbatim (hotkeyStore "Text Editor::Ctrl+Bogus") none = "" ∧
      Hotkey.keys "" = "") ∧
    pushed tolerant (hotkeyStore "Text Editor::Ctrl+Bogus") none = .ok "Text Editor::Ctrl+Bogus" ∧
      hotkeyAfter tolerant (hotkeyStore "Text Editor::Ctrl+Bogus") none = "Text Editor::" ∧
      tolerant.denoted "Text Editor::Ctrl+Bogus" = none ∧
      tolerant.denoted "Text Editor::" = some "" := by
  refine ⟨⟨⟨_, rfl⟩, ?_⟩, ?_⟩
  · decide +kernel
  · refine ⟨Except.eq_ok_of_toOption (by decide +kernel), ?_⟩
    decide +kernel

end Window

end SqlDesk
