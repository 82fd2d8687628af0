/-
Default settings that are stored through a form.

Restore Defaults resets the store, puts the old settings back and shows in the form what the reset
has given (`Dialog.restoreDefaults_of_commit`). What every setting is at first goes through the form
as it is, blanks around a name of the scope aside (`Store.throughForm_factoryFor`). So with OK the
store gets what a reset gives it (`Dialog.restoreDefaults_ok`).
-/
import SqlDesk.Proofs.Dialog.Unedited

namespace SqlDesk

namespace Store

/-- A store takes some settings, one after the other: each of them is written. -/
def Takes : Store → List Settings → Prop
  | _, [] => True
  | store, settings :: rest => ∃ after, store.commit settings = (.ok (), after) ∧ after.Takes rest

variable {store : Store} {scope : Option String}

theorem takes_cons {settings : Settings} {rest : List Settings}
    (h : (store.commit settings).1 = .ok ()) (hrest : (store.commit settings).2.Takes rest) :
    store.Takes (settings :: rest) :=
  ⟨(store.commit settings).2, by rw [← h], hrest⟩

/-! ## What every setting is at first -/

theorem writable_factoryFor (scope : Option String) : (factoryFor scope).options.Writable := by
  have hfactory : Settings.factory.options.Writable := fun c => by
    cases c <;> decide +kernel
  exact hfactory

/-- What every setting is at first goes through a form as it is, but for blanks around the hotkey. -/
theorem throughForm_factoryFor (scope : Option String) : (factoryFor scope).throughForm true =
    { factoryFor scope with hotkey := Text.strip (factoryFor scope).hotkey } := by
  have hfactory : Settings.factory.throughForm false = Settings.factory := by decide +kernel
  have hother : (factoryFor scope).throughForm true =
      { Settings.factory.throughForm false with
        hotkey := Text.strip (factoryFor scope).hotkey } := rfl
  rw [hother, hfactory]
  rfl

theorem localize_factoryHotkey {name : String} (h : name ≠ "") :
    Hotkey.localize factoryHotkey (some name) = name ++ "::Ctrl+K, Ctrl+F" := by
  have hreplace : Text.replaceAll factoryScope.toList name.toList factoryHotkey.toList =
      name.toList ++ "::Ctrl+K, Ctrl+F".toList := rfl
  rw [Hotkey.localize, if_neg h, Text.replace, hreplace, ← String.toList_append,
    String.ofList_toList]

theorem factoryFor_filter (scope : Option String) :
    factoryFor (scope.filter (· ≠ "")) = factoryFor scope := by
  cases scope with
  | none => rfl
  | some name =>
    by_cases h : name = ""
    · subst h
      rfl
    · rw [Option.filter_some, if_pos (decide_eq_true h)]

theorem strip_hotkey_factoryFor (h : ∀ name, scope = some name → Text.strip name = name) :
    Text.strip (factoryFor scope).hotkey = (factoryFor scope).hotkey := by
  have hfactory : Text.strip factoryHotkey = factoryHotkey := by decide +kernel
  cases scope with
  | none => exact hfactory
  | some name =>
    by_cases hname : name = ""
    · subst hname
      exact hfactory
    · have hkeys : Text.strip "::Ctrl+K, Ctrl+F" = "::Ctrl+K, Ctrl+F" := by decide +kernel
      have hhotkey : (factoryFor (some name)).hotkey = name ++ "::Ctrl+K, Ctrl+F" :=
        localize_factoryHotkey hname
      rw [hhotkey]
      exact Text.strip_append (h name rfl) hkeys

theorem reset_of_commit {after : Store} (h : store.commit (factoryFor scope) = (.ok (), after)) :
    store.reset scope = (.ok (factoryFor scope), after) := by
  simp only [reset, h]

theorem settings_of_reset {settings : Settings} {after : Store}
    (h : store.reset scope = (.ok settings, after)) : settings = factoryFor scope := by
  simp only [reset] at h
  split at h
  · cases h
    rfl
  · cases h

end Store

namespace Dialog

variable {dialog : Dialog} {reply : Reply} {reset restored : Store}

/-! ## Restore Defaults -/

theorem hearScope_fst (dialog : Dialog) (reply : Reply) :
    (dialog.hearScope reply).1 = if dialog.hasHotkey then reply.toOption else none := by
  unfold hearScope
  split
  · cases reply <;> rfl
  · rfl

theorem defaultsOf_of_commit {store : Store} {scope : Option String}
    (hreset : store.commit (Store.factoryFor scope) = (.ok (), reset))
    (hrestored : reset.commit store.settings = (.ok (), restored)) :
    defaultsOf store scope = (.ok (Store.factoryFor scope), restored) := by
  have hback : reset.restore store.snapshot = (.ok (), restored) :=
    (reset.apply_toDraft store.settings).trans hrestored
  simp only [defaultsOf, Store.reset_of_commit hreset, hback]

/-- The text in the control of the hotkey after the defaults were restored. -/
def firstHotkey (dialog : Dialog) (reply : Reply) : String :=
  if dialog.hasHotkey then (Store.factoryFor (dialog.hearScope reply).1).hotkey
  else dialog.form.hotkey

/-- The dialog that shows what every setting is at first, on some store. -/
def showingFirst (dialog : Dialog) (reply : Reply) (store : Store) (user : User) : Dialog :=
  { dialog with
    store := store
    form := .showing (Store.factoryFor (dialog.hearScope reply).1) (dialog.firstHotkey reply)
    user := user }

/-- If both writes succeed, Restore Defaults shows what every setting is at first. -/
theorem restoreDefaults_of_commit
    (hreset : dialog.store.commit (Store.factoryFor (dialog.hearScope reply).1) = (.ok (), reset))
    (hrestored : reset.commit dialog.store.settings = (.ok (), restored)) :
    ∃ user, dialog.restoreDefaults reply =
      (.ok true, dialog.showingFirst reply restored user) := by
  obtain ⟨user, hheard⟩ := dialog.hearScope_eq reply
  refine ⟨user, ?_⟩
  have hdefaults := defaultsOf_of_commit hreset hrestored
  unfold restoreDefaults showingFirst firstHotkey
  generalize dialog.hearScope reply = heard at *
  obtain ⟨scope, heard⟩ := heard
  obtain rfl : heard = { dialog with user := user } := hheard
  simp only [hdefaults, Form.load_eq dialog.form (Store.writable_factoryFor scope)]
  rfl

/-! ## Restore Defaults and OK -/

/-- What OK stores after the defaults were restored. -/
def firstSettings (dialog : Dialog) (reply : Reply) : Settings :=
  { Store.factoryFor (dialog.hearScope reply).1 with
    hotkey := dialog.keptHotkey.getD
      (Text.strip (Store.factoryFor (dialog.hearScope reply).1).hotkey) }

theorem natural_firstSettings (dialog : Dialog) (reply : Reply) :
    (dialog.firstSettings reply).editor.Natural := by
  rw [firstSettings]
  exact Store.natural_factoryFor none

theorem firstSettings_of_hasHotkey (h : dialog.hasHotkey = true)
    (hname : ∀ name, reply = .ok name → Text.strip name = name) :
    dialog.firstSettings reply = Store.factoryFor reply.toOption := by
  have hheard : ∀ name, reply.toOption = some name → Text.strip name = name := by
    intro name heard
    exact hname name (Except.eq_ok_of_toOption heard)
  have hkept : dialog.keptHotkey = none := if_pos h
  rw [firstSettings, hkept, Option.getD_none, hearScope_fst, if_pos h,
    Store.strip_hotkey_factoryFor hheard]

theorem firstSettings_of_not_hasHotkey (h : dialog.hasHotkey = false) :
    dialog.firstSettings reply =
      { Store.factoryFor none with hotkey := dialog.store.settings.hotkey } := by
  have hnone : ¬ dialog.hasHotkey = true := Bool.eq_false_iff.mp h
  have hkept : dialog.keptHotkey = some dialog.store.settings.hotkey := if_neg hnone
  rw [firstSettings, hkept, Option.getD_some, hearScope_fst, if_neg hnone]

theorem meantBy_showingFirst (h : restored.settings = dialog.store.settings) (user : User) :
    (dialog.showingFirst reply restored user).meantBy
        (Store.factoryFor (dialog.hearScope reply).1) (dialog.firstHotkey reply) =
      dialog.firstSettings reply := by
  rw [meantBy, Store.throughForm_factoryFor, firstSettings]
  cases hhost : dialog.hasHotkey with
  | true => simp only [showingFirst, keptHotkey, firstHotkey, hhost, if_true, Option.getD_none]
  | false =>
    simp only [showingFirst, keptHotkey, hhost, h, Bool.false_eq_true, if_false, Option.getD_some]

theorem run_of_commit {last : Store}
    (hreset : dialog.store.commit (Store.factoryFor (dialog.hearScope reply).1) = (.ok (), reset))
    (hrestored : reset.commit dialog.store.settings = (.ok (), restored))
    (hlast : restored.commit (dialog.firstSettings reply) = (.ok (), last)) :
    ∃ after, dialog.run reply [.restoreDefaults, .ok] = (.ok (), after) ∧
      after.store = last ∧ after.closing = some .accepted := by
  obtain ⟨user, hshown⟩ := restoreDefaults_of_commit hreset hrestored
  have hrestore : dialog.act reply .restoreDefaults =
      (.ok (), dialog.showingFirst reply restored user) := by
    simp only [act, hshown]
    rfl
  have hfilled : Text.strip (Store.factoryFor (dialog.hearScope reply).1).sqlExtension ≠ "" := by
    have hfactory : Text.strip Settings.factory.sqlExtension ≠ "" := by decide +kernel
    exact hfactory
  rw [← meantBy_showingFirst (Store.commit_of_ok hrestored) user] at hlast
  have hok : (dialog.showingFirst reply restored user).act reply .ok =
      (.ok (), { dialog.showingFirst reply restored user with
        store := last, closing := some .accepted }) :=
    ok_of_showing rfl (Store.writable_factoryFor _) hfilled hlast reply
  refine ⟨{ dialog.showingFirst reply restored user with
    store := last, closing := some .accepted }, ?_, rfl, rfl⟩
  simp only [run, hrestore, hok]
  rfl

/-- **Restore Defaults and OK are a reset**, if storage takes the three writes that they need: after
them a store has what a reset gives it, in memory and for a fresh start. Without a control for the
hotkey it keeps its hotkey. A host that fails to reply a name counts like one that replies none. A
name with blanks around it is left out here: the form takes them away, and a reset does not. -/
theorem restoreDefaults_ok (dialog : Dialog) (reply : Reply)
    (htakes : dialog.store.Takes
      [Store.factoryFor (dialog.hearScope reply).1, dialog.store.settings,
        dialog.firstSettings reply]) :
    ∃ after, dialog.run reply [.restoreDefaults, .ok] = (.ok (), after) ∧
      after.closing = some .accepted ∧
      Store.load after.store.disk dialog.store.folder = .ok (after.store.settings, 0) ∧
      (dialog.hasHotkey = true → (∀ name, reply = .ok name → Text.strip name = name) →
        ∃ reset, dialog.store.reset (reply.toOption.filter (· ≠ "")) =
            (.ok after.store.settings, reset) ∧
          reset.settings = after.store.settings ∧
          Store.load reset.disk dialog.store.folder = .ok (after.store.settings, 0)) ∧
      (dialog.hasHotkey = false → ∃ defaults reset,
        dialog.store.reset none = (.ok defaults, reset) ∧ reset.settings = defaults ∧
          after.store.settings = { defaults with hotkey := dialog.store.settings.hotkey }) := by
  obtain ⟨reset, hreset, restored, hrestored, last, hlast, -⟩ := htakes
  obtain ⟨after, hrun, rfl, hclosing⟩ := run_of_commit hreset hrestored hlast
  have hfolder := Store.folder_of_commit hreset
  have hfolder' := Store.folder_of_commit hrestored
  have hafter := Store.committed_of_commit (dialog.natural_firstSettings reply) hlast
  have hanew := Store.committed_of_commit (Store.natural_factoryFor _) hreset
  have hstored := hafter.stored
  refine ⟨after, hrun, hclosing, ?_, fun hhost hname => ⟨reset, ?_⟩, fun hhost => ?_⟩
  · rw [hstored, ← hfolder, ← hfolder']
    exact hafter.found
  · rw [firstSettings_of_hasHotkey hhost hname] at hstored
    rw [hearScope_fst, if_pos hhost] at hreset hanew
    rw [hstored, Store.reset, Store.factoryFor_filter, hreset]
    exact ⟨rfl, hanew.stored, hanew.found⟩
  · rw [firstSettings_of_not_hasHotkey hhost] at hstored
    rw [hearScope_fst, if_neg (Bool.eq_false_iff.mp hhost)] at hreset hanew
    exact ⟨_, reset, Store.reset_of_commit hreset, hanew.stored, hstored⟩

/-- A dialog on a store in which a hotkey was saved, with everything taken out of its form. -/
def strayDialog : Dialog where
  store := Store.savedStore.meeting "a" []
  form := .blank
  hasHotkey := true

/-- The same dialog without a control for the hotkey. -/
def hostlessDialog : Dialog :=
  { strayDialog with hasHotkey := false }

theorem restoreDefaults_ok_strayDialog :
    strayDialog.store.Takes
        [Store.factoryFor (some "Éditeur"), strayDialog.store.settings,
          strayDialog.firstSettings (.ok "Éditeur")] ∧
      hostlessDialog.store.Takes
        [Store.factoryFor none, hostlessDialog.store.settings,
          hostlessDialog.firstSettings (.error .unsupported)] ∧
      (∃ after, strayDialog.run (.ok "Éditeur") [.restoreDefaults, .ok] = (.ok (), after) ∧
        after.store.settings =
          { Settings.factory with hotkey := "Éditeur::Ctrl+K, Ctrl+F" } ∧
        Store.load after.store.disk "config" = .ok (after.store.settings, 0)) ∧
      ∃ after, hostlessDialog.run (.error .unsupported) [.restoreDefaults, .ok] = (.ok (), after) ∧
        after.store.settings = { Settings.factory with hotkey := "F6" } := by
  have hfolder : strayDialog.store.folder = "config" := by decide +kernel
  have hhotkey : hostlessDialog.store.settings.hotkey = "F6" := by decide +kernel
  have htakes : strayDialog.store.Takes
      [Store.factoryFor (some "Éditeur"), strayDialog.store.settings,
        strayDialog.firstSettings (.ok "Éditeur")] :=
    Store.takes_cons (Except.eq_ok_of_toOption (by decide +kernel))
      (Store.takes_cons (Except.eq_ok_of_toOption (by decide +kernel))
        (Store.takes_cons (Except.eq_ok_of_toOption (by decide +kernel)) trivial))
  have htakes' : hostlessDialog.store.Takes
      [Store.factoryFor none, hostlessDialog.store.settings,
        hostlessDialog.firstSettings (.error .unsupported)] :=
    Store.takes_cons (Except.eq_ok_of_toOption (by decide +kernel))
      (Store.takes_cons (Except.eq_ok_of_toOption (by decide +kernel))
        (Store.takes_cons (Except.eq_ok_of_toOption (by decide +kernel)) trivial))
  have hname : ∀ name, (Except.ok "Éditeur" : Reply) = .ok name → Text.strip name = name := by
    rintro _ ⟨⟩
    decide +kernel
  obtain ⟨after, hrun, -, hload, hreset, -⟩ :=
    restoreDefaults_ok strayDialog (.ok "Éditeur") htakes
  obtain ⟨reset, hreset, -⟩ := hreset rfl hname
  obtain ⟨after', hrun', -, -, -, hkept⟩ :=
    restoreDefaults_ok hostlessDialog (.error .unsupported) htakes'
  obtain ⟨defaults, reset', hreset', -, hsettings'⟩ := hkept rfl
  have hsettings : after.store.settings = Store.factoryFor (some "Éditeur") :=
    (Store.settings_of_reset hreset).trans (Store.factoryFor_filter (some "Éditeur"))
  have hdefaults : defaults = Store.factoryFor none := Store.settings_of_reset hreset'
  rw [hfolder] at hload
  refine ⟨htakes, htakes', ⟨after, hrun, ?_, hload⟩, after', hrun', ?_⟩
  · rw [hsettings]
    decide +kernel
  · rw [hsettings', hdefaults, hhotkey]
    rfl

end Dialog

end SqlDesk
