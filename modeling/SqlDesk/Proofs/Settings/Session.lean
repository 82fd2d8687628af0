/-
Runs of requests on one disk.

A whole run of requests keeps the settings in memory and in their file the same (`Served.sound`).

Two commits in a row put the old settings back, if the second one is written whenever the first one
was (`takenBack_settings`).
-/
import SqlDesk.Proofs.Settings.Exchange

namespace Except

variable {ε α : Type} {x : Except ε α}

/-- What a computation ends with can be decided where its failures cannot. -/
theorem eq_ok_of_toOption {a : α} (h : x.toOption = some a) : x = .ok a := by
  cases x with
  | error e => cases h
  | ok b =>
    cases h
    rfl

theorem eq_error_of_toOption (h : x.toOption = none) : ∃ e, x = .error e := by
  cases x with
  | error e => exact ⟨e, rfl⟩
  | ok a => cases h

end Except

namespace SqlDesk.Store

open SqlDesk.Path (place)

variable {store store' : Store} {settings : Settings}

/-! ## Commits -/

theorem apply_toDraft (store : Store) (settings : Settings) :
    store.apply settings.toDraft = store.commit settings := by
  have hcheck : settings.toDraft.check = .ok settings := by
    simp only [Draft.check, Settings.toDraft, SettingsWith.withOptions, Record.check_value]
    rfl
  simp only [apply, hcheck]

theorem perform_apply (store : Store) (settings : Settings) :
    store.perform (.apply settings.toDraft) = store.commit settings :=
  store.apply_toDraft settings

theorem perform_restore (store : Store) (settings : Settings) :
    store.perform (.restore settings.toDraft) = store.commit settings :=
  store.apply_toDraft settings

theorem commit_of_ok (h : store.commit settings = (.ok (), store')) :
    store'.settings = settings := by
  simp only [commit] at h
  split at h
  · cases h
    rfl
  · cases h

theorem commit_of_error {e : Failure} (h : store.commit settings = (.error e, store')) :
    store'.settings = store.settings := by
  simp only [commit] at h
  split at h
  · cases h
  · cases h
    rfl

@[simp] theorem commit_folder (store : Store) (settings : Settings) :
    (store.commit settings).2.folder = store.folder := by
  simp only [commit]
  split <;> rfl

theorem folder_of_commit {outcome : Except Failure Unit}
    (h : store.commit settings = (outcome, store')) : store'.folder = store.folder := by
  have hfolder := store.commit_folder settings
  rwa [h] at hfolder

/-- Settings that have a file are refused by nothing but storage. -/
theorem commit_refused {cs : List Char} (hfile : settings.toFile = .ok cs) {e : Failure}
    (h : (store.commit settings).1 = .error e) : e.isFileError = true := by
  simp only [commit, write, hfile] at h
  cases hmade : store.disk.makeDirectories store.folder with
  | error cause =>
    rw [hmade] at h
    cases h
    rfl
  | ok grown =>
    rw [hmade] at h
    rcases hwrite : grown.writeAtomically store.file (Text.Utf8.encode cs) with ⟨cause | u, disk⟩
    all_goals
      simp only [hwrite] at h
      cases h
    rfl

theorem exportOptions_none (store : Store) (path : String) :
    store.exportOptions path none =
      store.exportOptions path (some store.settings.options.value) := by
  simp only [exportOptions, Option.getD_none, Option.getD_some]

/-- **What was committed is read** from the file of the settings. -/
theorem read_of_commit (hnatural : settings.editor.Natural)
    (h : store.commit settings = (.ok (), store')) :
    ∃ bytes, store'.disk.read store.file = .ok bytes ∧ decode bytes = .ok (settings, 0) := by
  simp only [commit] at h
  rcases store.write_cases settings with
    ⟨e, disk, hwrite, -⟩ | ⟨disk, grown, cs, hwrite, htext, -, hwritten⟩
  · rw [hwrite] at h
    cases h
  · rw [hwrite] at h
    cases h
    exact ⟨Text.Utf8.encode cs, hwritten.read, decode_toFile hnatural htext⟩

/-- Settings were committed in a store: they are in memory and found by a fresh start. -/
structure Committed (start : Store) (settings : Settings) (store : Store) : Prop where
  stored : store.settings = settings
  folder : store.folder = start.folder
  found : load store.disk start.folder = .ok (settings, 0)

theorem committed_of_commit (hnatural : settings.editor.Natural)
    (h : store.commit settings = (.ok (), store')) : store.Committed settings store' := by
  obtain ⟨bytes, hread, hdecode⟩ := read_of_commit hnatural h
  exact ⟨commit_of_ok h, folder_of_commit h, (load_of_read hread).trans hdecode⟩

theorem Sound.commit (h : store.Sound) (hnatural : settings.editor.Natural) :
    (store.commit settings).2.Sound ∧ (store.commit settings).2.folder = store.folder := by
  have hrequest : Request.Admissible store.folder (.apply settings.toDraft) := hnatural
  have hperform := h.perform hrequest
  rw [perform_apply] at hperform
  exact hperform

theorem Sound.openIn (h : store.Sound) : ∃ fresh notices,
    openIn store.disk store.folder = .ok (fresh, notices) ∧ fresh.settings = store.settings := by
  obtain ⟨notices, hload⟩ := h.load
  refine ⟨⟨store.disk, store.folder, store.settings, !store.disk.exists? (fileIn store.folder)⟩,
    notices, ?_, rfl⟩
  unfold Store.openIn
  rw [hload]

/-- The store when temporary files are named in some way and the next atomic writes meet refusals.
-/
def meeting (store : Store) (temp : TempNames) (refusals : List (Option WriteStep)) : Store :=
  { store with disk := { store.disk with tempName := temp, refusals := refusals } }

@[simp] theorem meeting_folder (store : Store) (temp : TempNames)
    (refusals : List (Option WriteStep)) : (store.meeting temp refusals).folder = store.folder := rfl

@[simp] theorem meeting_settings (store : Store) (temp : TempNames)
    (refusals : List (Option WriteStep)) :
    (store.meeting temp refusals).settings = store.settings := rfl

theorem Sound.meeting (h : store.Sound) (temp : TempNames) (refusals : List (Option WriteStep)) :
    (store.meeting temp refusals).Sound :=
  h.of_grows rfl rfl (.of_entries fun _ => rfl)

/-! ## Runs -/

/-- The stores that are reached from one by requests, all on its disk. -/
inductive Served (store : Store) : Store → Prop
  | refl : Served store store
  | performed {store' : Store} {request : Request} (h : Served store store')
      (hrequest : request.Admissible store.folder) : Served store (store'.perform request).2

/-- **What a run of requests keeps.** -/
theorem Served.sound (hsound : store.Sound) (h : Served store store') :
    store'.Sound ∧ store'.folder = store.folder := by
  induction h with
  | refl => exact ⟨hsound, rfl⟩
  | @performed store' request _ hrequest ih =>
    obtain ⟨hbefore, hfolder⟩ := ih
    rw [← hfolder] at hrequest
    obtain ⟨hafter, hsame⟩ := hbefore.perform hrequest
    exact ⟨hafter, hsame.trans hfolder⟩

theorem Served.commit (hnatural : settings.editor.Natural) (h : Served store store') :
    Served store (store'.commit settings).2 := by
  rw [← perform_apply]
  exact .performed h hnatural

/-! ## Taking back a reset -/

/-- The store after a reset and the restoring of what was there before. -/
def takenBack (store : Store) (scope : Option String) : Except Failure Unit × Store :=
  (store.perform (.reset scope)).2.perform (.restore store.snapshot)

theorem natural_factoryFor (scope : Option String) : (factoryFor scope).editor.Natural :=
  Settings.natural_factory

/-- The reset is written, and the settings before it are not written back. -/
def ResetStays (store : Store) (scope : Option String) : Prop :=
  (store.perform (.reset scope)).1 = .ok () ∧ ∃ e, (store.takenBack scope).1 = .error e

theorem takenBack_eq (store : Store) (scope : Option String) :
    store.takenBack scope = (store.commit (factoryFor scope)).2.commit store.settings := by
  rw [takenBack, perform_reset, snapshot, perform_restore]

/-- **A reset is taken back**, unless it was written and the old settings are refused. -/
theorem takenBack_settings (store : Store) (scope : Option String) :
    (store.ResetStays scope → (store.takenBack scope).2.settings = factoryFor scope) ∧
      (¬ store.ResetStays scope → (store.takenBack scope).2.settings = store.settings) := by
  rw [ResetStays, takenBack_eq, perform_reset]
  rcases hreset : store.commit (factoryFor scope) with ⟨e | u, changed⟩
  · rcases hrestore : changed.commit store.settings with ⟨e' | u', restored⟩
    · have hsettings := (commit_of_error hrestore).trans (commit_of_error hreset)
      exact ⟨fun h => (nomatch h.1), fun _ => hsettings⟩
    · exact ⟨fun h => (nomatch h.1), fun _ => commit_of_ok hrestore⟩
  · rcases hrestore : changed.commit store.settings with ⟨e' | u', restored⟩
    · have hsettings := (commit_of_error hrestore).trans (commit_of_ok hreset)
      exact ⟨fun _ => hsettings, fun h => absurd ⟨rfl, e', rfl⟩ h⟩
    · exact ⟨fun ⟨_, _, h⟩ => (nomatch h), fun _ => commit_of_ok hrestore⟩

/-- However the reset and the restoring end, the settings in memory are those of the file. -/
theorem Sound.takenBack (h : store.Sound) (scope : Option String) :
    (store.takenBack scope).2.Sound ∧ (store.takenBack scope).2.folder = store.folder := by
  obtain ⟨hchanged, hfolder⟩ := h.commit (natural_factoryFor scope)
  rw [takenBack_eq]
  obtain ⟨hafter, hfolder'⟩ := hchanged.commit h.natural
  exact ⟨hafter, hfolder'.trans hfolder⟩

/-- Resetting and taking that back are two requests, however they end. -/
theorem Served.takenBack (hsound : store.Sound) (h : Served store store')
    (scope : Option String) : Served store (store'.takenBack scope).2 := by
  have hsettings := (h.sound hsound).1.natural
  rw [takenBack_eq]
  exact (h.commit (natural_factoryFor scope)).commit hsettings

/-! ## Two stores -/

/-- A store in an empty directory. -/
def emptyStore : Store := ⟨{}, "config", .factory, true⟩

theorem reachable_emptyStore : Reachable "config" emptyStore := by
  have hfolder : Path.components "config" = ["config"] :=
    Path.components_eq_singleton ⟨by decide, by decide, by decide⟩
  have hplain : ".." ∉ Path.components "config" := by
    rw [hfolder]
    decide
  have hnested : Disk.Nested {} := fun here part rest entry hentry => by
    simp [Disk.entry?] at hentry
  have habsent : Disk.exists? {} (fileIn "config") = false := by decide +kernel
  have hopen : Store.openIn {} "config" = .ok (emptyStore, 0) := by
    unfold Store.openIn Store.load
    simp only [habsent]
    rfl
  exact .of_nested hnested hplain hopen

/-- The same store after a hotkey was saved. -/
def savedStore : Store :=
  ((emptyStore.facing "tmp" none).perform (.save none (some "F6"))).2

theorem reachable_savedStore : Reachable "config" savedStore :=
  .performed "tmp" none reachable_emptyStore trivial

end SqlDesk.Store
