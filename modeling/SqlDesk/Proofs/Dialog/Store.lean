/-
What is done in a dialog, seen from its store.

Saving commits what the form stands for, or is refused by the form (`save_cases`). Restoring defaults
resets the store and takes that back (`restoreDefaults_eq`), and importing leaves it alone
(`importFrom_eq`). So the store is asked nothing but requests, whatever is done, and all that requests
keep is kept (`served_run`).
-/
import SqlDesk.Dialog
import SqlDesk.Proofs.Dialog.Form
import SqlDesk.Proofs.Settings.Session

namespace SqlDesk

/-- The settings that a form stands for have the options of its controls and its settings of the
editor. -/
theorem Form.settings_eq_ok {form : Form} {kept : Option String} {settings : Settings}
    (h : form.settings kept = .ok settings) :
    form.options.options = .ok settings.options ∧ settings.editor = form.editor := by
  unfold Form.settings at h
  split at h
  · cases h
  · next hoptions =>
    dsimp only at h
    split at h
    · cases h
    · cases h
      exact ⟨hoptions, rfl⟩

/-- What is done keeps to what callers promise of requests: options are exported to another file than
that of the settings. -/
def DialogAction.Proper (folder : String) : DialogAction → Prop
  | .exportFile path => Store.Request.Admissible folder (.exportOptions path none)
  | _ => True

namespace Dialog

variable {dialog dialog' : Dialog}

/-! ## Opening -/

theorem opened_eq_ok {store : Store} {hasHotkey : Bool} {user : User} :
    opened store hasHotkey user = .ok dialog ↔
      ∃ form, Form.blank.load store.settings hasHotkey = (.ok (), form) ∧
        dialog = { store := store, form := form, hasHotkey := hasHotkey, user := user } := by
  unfold opened
  rcases Form.blank.load store.settings hasHotkey with ⟨e | u, form⟩
  · simp
  · simp only [Except.ok.injEq, Prod.mk.injEq, true_and, exists_eq_left', eq_comm]

/-! ## Saving -/

theorem report_eq (dialog : Dialog) (title introduction : String) (failure : Failure) :
    ∃ user, (dialog.report title introduction failure).2 = { dialog with user := user } := by
  unfold report
  split
  · exact ⟨_, rfl⟩
  · exact ⟨dialog.user, rfl⟩

theorem report_ne_true {title introduction : String} {failure : Failure} :
    dialog.report title introduction failure ≠ (.ok true, dialog') := by
  unfold report
  split <;> simp

/-- The form cannot be stored. -/
def Rejects (dialog : Dialog) : Prop :=
  ∃ e, dialog.form.settings dialog.keptHotkey = .error e

/-- What saving does, in two cases: the form is refused and the user told why, or what it stands for
is committed. -/
theorem save_cases (dialog : Dialog) :
    (∃ user, dialog.Rejects ∧ dialog.save = (.ok false, { dialog with user := user })) ∨
      ∃ settings user, dialog.form.settings dialog.keptHotkey = .ok settings ∧
        dialog.save.2 =
          { dialog with store := (dialog.store.commit settings).2, user := user } := by
  unfold save
  split
  · next e hform => exact .inl ⟨_, ⟨e, hform⟩, rfl⟩
  · next settings hform =>
    refine .inr ⟨settings, ?_⟩
    rcases dialog.store.commit settings with ⟨e | u, store⟩
    · obtain ⟨user, hreport⟩ := report_eq { dialog with store := store } "Settings not saved"
        "The settings could not be saved:" e
      exact ⟨user, hform, hreport⟩
    · exact ⟨dialog.user, hform, rfl⟩

theorem save_of_rejects (h : dialog.Rejects) :
    ∃ user, dialog.save = (.ok false, { dialog with user := user }) := by
  obtain ⟨e, he⟩ := h
  rcases dialog.save_cases with ⟨user, -, hsave⟩ | ⟨settings, user, hform, -⟩
  · exact ⟨user, hsave⟩
  · rw [he] at hform
    cases hform

theorem save_eq_ok_true : dialog.save = (.ok true, dialog') ↔
    ∃ settings store, dialog.form.settings dialog.keptHotkey = .ok settings ∧
      dialog.store.commit settings = (.ok (), store) ∧ dialog' = { dialog with store := store } := by
  constructor
  · intro h
    unfold save at h
    split at h
    · exact absurd h report_ne_true
    · next settings hsettings =>
      split at h
      · next store hcommit =>
        cases h
        exact ⟨settings, store, hsettings, hcommit, rfl⟩
      · exact absurd h report_ne_true
  · rintro ⟨settings, store, hsettings, hcommit, rfl⟩
    simp only [save, hsettings, hcommit]

/-! ## The other actions -/

theorem hearScope_eq (dialog : Dialog) (reply : Reply) :
    ∃ user, (dialog.hearScope reply).2 = { dialog with user := user } := by
  unfold hearScope
  split
  · split
    · exact ⟨dialog.user, rfl⟩
    · exact ⟨_, rfl⟩
  · exact ⟨dialog.user, rfl⟩

theorem defaultsOf_store (store : Store) (scope : Option String) :
    (defaultsOf store scope).2 = (store.takenBack scope).2 := by
  have hchanged : (store.perform (.reset scope)).2 = (store.reset scope).2 := rfl
  have hback : ∀ changed : Store, changed.perform (.restore store.snapshot) =
      changed.restore store.snapshot := fun _ => rfl
  unfold defaultsOf Store.takenBack
  rw [hback, hchanged]
  rcases store.reset scope with ⟨outcome, changed⟩
  dsimp only
  split
  · next hrestore => rw [hrestore]
  · next hrestore => rw [hrestore]

/-- Restoring defaults resets the store and takes that back; the form may show other settings. -/
theorem restoreDefaults_eq (dialog : Dialog) (reply : Reply) :
    ∃ form user, (dialog.restoreDefaults reply).2 =
      { dialog with
        store := (dialog.store.takenBack (dialog.hearScope reply).1).2
        form := form
        user := user } := by
  obtain ⟨user, hheard⟩ := dialog.hearScope_eq reply
  rw [← defaultsOf_store]
  unfold restoreDefaults
  rcases hreply : dialog.hearScope reply with ⟨scope, heard⟩
  rw [hreply] at hheard
  obtain rfl : heard = { dialog with user := user } := hheard
  dsimp only
  rcases defaultsOf dialog.store scope with ⟨e | defaults, store⟩
  · obtain ⟨user', hreport⟩ := report_eq { dialog with store := store, user := user }
      "Restore Defaults" "The default settings could not be restored:" e
    exact ⟨dialog.form, user', hreport⟩
  · dsimp only
    rcases dialog.form.load defaults dialog.hasHotkey with ⟨outcome, form⟩
    exact ⟨form, user, rfl⟩

theorem importFrom_eq (dialog : Dialog) (path : String) : ∃ controls user,
    (dialog.importFrom path).2 =
      { dialog with form := { dialog.form with options := controls }, user := user } := by
  unfold importFrom
  rcases dialog.store.importOptions path with e | options
  · cases e with
    | settings cause => exact ⟨dialog.form.options, _, rfl⟩
    | _ => exact ⟨dialog.form.options, dialog.user, rfl⟩
  · have hform := dialog.form.loadOptions_snd options
    dsimp only
    rcases hload : dialog.form.loadOptions options with ⟨outcome, form⟩
    rw [hload] at hform
    obtain rfl : form = _ := hform
    exact ⟨_, dialog.user, rfl⟩

/-! ## A run in a dialog -/

variable {start : Store} {action : DialogAction}

theorem served_save (h : start.Served dialog.store) : start.Served dialog.save.2.store := by
  rcases dialog.save_cases with ⟨user, -, hsave⟩ | ⟨settings, user, hform, hsave⟩
  · rw [hsave]
    exact h
  · have hnatural : settings.editor.Natural := by
      rw [(Form.settings_eq_ok hform).2]
      exact dialog.form.inRange.natural
    rw [hsave]
    exact h.commit hnatural

theorem served_exportTo (h : start.Served dialog.store) {path : String}
    (hpath : Store.Request.Admissible start.folder (.exportOptions path none)) :
    start.Served (dialog.exportTo path).2.store := by
  have hsaved := served_save h
  unfold exportTo
  rcases hsave : dialog.save with ⟨outcome, saved⟩
  rw [hsave] at hsaved
  split
  · next heq =>
    cases heq
    have hexported := hsaved.performed hpath
    simp only [Store.perform] at hexported
    rcases hexport : saved.store.exportOptions path none with ⟨e | u, store⟩
    all_goals rw [hexport] at hexported
    · obtain ⟨user, hreport⟩ := report_eq { saved with store := store } "Export failed"
        "Failed to export settings:" e
      simp only [hreport]
      exact hexported
    · exact hexported
  · exact hsaved

/-- One action asks the store nothing but requests. -/
theorem served_act (hstart : start.Sound) (h : start.Served dialog.store)
    (haction : action.Proper start.folder) (reply : Reply) :
    start.Served (dialog.act reply action).2.store := by
  have hsaved := served_save h
  cases action with
  | enter control value => exact h
  | pick control color => exact h
  | cancel => exact h
  | ok =>
    simp only [act]
    rcases hsave : dialog.save with ⟨outcome, saved⟩
    rw [hsave] at hsaved
    split
    all_goals
      next heq =>
      cases heq
      exact hsaved
  | apply => exact hsaved
  | restoreDefaults =>
    obtain ⟨form, user, hrestored⟩ := dialog.restoreDefaults_eq reply
    simp only [act, hrestored]
    exact h.takenBack hstart (dialog.hearScope reply).1
  | importFile path =>
    simp only [act]
    split
    · exact h
    · generalize dialog.user.shown _ = user
      obtain ⟨controls, user', himport⟩ := importFrom_eq { dialog with user := user } path
      simp only [himport]
      exact h
  | exportFile path =>
    simp only [act]
    split
    · exact h
    · generalize dialog.user.shown _ = user
      have hshown : start.Served { dialog with user := user }.store := h
      exact served_exportTo hshown haction

/-- So does a whole run, also one in which something fails. -/
theorem served_run (hstart : start.Sound) {actions : List DialogAction}
    (hactions : ∀ action ∈ actions, action.Proper start.folder) (reply : Reply)
    (h : start.Served dialog.store) : start.Served (dialog.run reply actions).2.store := by
  induction actions generalizing dialog with
  | nil => exact h
  | cons action rest ih =>
    obtain ⟨haction, hrest⟩ := List.forall_mem_cons.mp hactions
    exact ih hrest (served_act hstart h haction reply)

end Dialog

end SqlDesk
