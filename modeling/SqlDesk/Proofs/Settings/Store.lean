/-
What a store promises, whatever is asked of it.

A request either leaves the settings and every file as they are, or takes over new settings together
with their file, or writes some other file (`perform_effect`). From this a request that fails changes
nothing (`perform_failed`), and after any run of requests a fresh start finds the settings that are
in memory (`Reachable.reload`).
-/
import SqlDesk.Settings.Store
import SqlDesk.Proofs.Disk
import SqlDesk.Proofs.Settings.File
import SqlDesk.Proofs.Text.Utf8

namespace SqlDesk.Store

open SqlDesk.Path (place)

/-! ## Requests -/

/-- What can be asked of a store. -/
inductive Request where
  | save (options : Option Record) (hotkey : Option String)
  | apply (draft : Draft)
  | restore (snapshot : Draft)
  | reset (scope : Option String)
  | complete
  | importOptions (path : String)
  | exportOptions (path : String) (record : Option Record)

/-- Runs a request; whether it succeeds, and the store afterwards. -/
def perform (store : Store) : Request → Except Failure Unit × Store
  | .save options hotkey => store.save options hotkey
  | .apply draft => store.apply draft
  | .restore snapshot => store.restore snapshot
  | .reset scope => ((store.reset scope).1.map fun _ => (), (store.reset scope).2)
  | .complete => store.ensureComplete
  | .importOptions path => ((store.importOptions path).map fun _ => (), store)
  | .exportOptions path record => store.exportOptions path record

theorem perform_reset (store : Store) (scope : Option String) :
    store.perform (.reset scope) = store.commit (factoryFor scope) := by
  simp only [perform, reset]
  rcases store.commit (factoryFor scope) with ⟨outcome, store'⟩
  cases outcome <;> rfl

/-- The file that a request writes, if it writes one. -/
def Request.target (folder : String) : Request → String
  | .exportOptions path _ => path
  | _ => fileIn folder

/-! ## What a request does -/

/-- The effect of a request: nothing but new directories, new settings in memory and in their file,
or another file. -/
inductive Effect (store : Store) (request : Request) : Except Failure Unit × Store → Prop
  | kept {outcome : Except Failure Unit} {store' : Store} (hfolder : store'.folder = store.folder)
      (hsettings : store'.settings = store.settings) (hdisk : store.disk.Grows store'.disk) :
      Effect store request (outcome, store')
  | wrote {store' : Store} {grown : Disk} {cs : List Char} (hfolder : store'.folder = store.folder)
      (htext : store'.settings.toFile = .ok cs) (hgrown : store.disk.Grows grown)
      (hdisk : grown.Written store'.disk store.file (Text.Utf8.encode cs)) :
      Effect store request (.ok (), store')
  | exported {store' : Store} {path : String} {record : Option Record} {bytes : List UInt8}
      (hrequest : request = .exportOptions path record) (hfolder : store'.folder = store.folder)
      (hsettings : store'.settings = store.settings)
      (hdisk : store.disk.Written store'.disk path bytes) : Effect store request (.ok (), store')

/-- What writing settings does, in two cases. -/
theorem write_cases (store : Store) (settings : Settings) :
    (∃ e disk, store.write settings = (.error e, disk) ∧ store.disk.Grows disk) ∨
      ∃ disk grown cs, store.write settings = (.ok (), disk) ∧ settings.toFile = .ok cs ∧
        store.disk.Grows grown ∧ grown.Written disk store.file (Text.Utf8.encode cs) := by
  simp only [write]
  cases hmade : store.disk.makeDirectories store.folder with
  | error e => exact .inl ⟨_, _, rfl, .refl _⟩
  | ok grown =>
    have hgrown := Disk.makeDirectories_grows hmade
    cases htext : settings.toFile with
    | error e => exact .inl ⟨_, _, rfl, hgrown⟩
    | ok cs =>
      rcases grown.writeAtomically_cases store.file (Text.Utf8.encode cs) with
        ⟨e, disk, hwrite, hsame⟩ | ⟨disk, hwrite, hwritten⟩
      · refine .inl ⟨.file e, disk, ?_, hgrown.trans (.of_entries hsame)⟩
        simp only [hwrite]
        rfl
      · refine .inr ⟨disk, grown, cs, ?_, rfl, hgrown, hwritten⟩
        simp only [hwrite]
        rfl

theorem commit_effect (store : Store) (request : Request) (settings : Settings) :
    Effect store request (store.commit settings) := by
  simp only [commit]
  rcases store.write_cases settings with
    ⟨e, disk, hwrite, hgrows⟩ | ⟨disk, grown, cs, hwrite, htext, hgrows, hwritten⟩
  · rw [hwrite]
    exact .kept rfl rfl hgrows
  · rw [hwrite]
    exact .wrote rfl htext hgrows hwritten

theorem apply_effect (store : Store) (request : Request) (draft : Draft) :
    Effect store request (store.apply draft) := by
  simp only [apply]
  split
  · exact .kept rfl rfl (.refl _)
  · exact store.commit_effect _ _

/-- **The effect of every request.** -/
theorem perform_effect (store : Store) (request : Request) :
    Effect store request (store.perform request) := by
  cases request with
  | save options hotkey =>
    simp only [perform, save]
    split
    · exact .kept rfl rfl (.refl _)
    · exact store.commit_effect _ _
  | apply draft => exact store.apply_effect _ draft
  | restore snapshot => exact store.apply_effect _ snapshot
  | reset scope =>
    rw [perform_reset]
    exact store.commit_effect _ _
  | complete =>
    simp only [perform, ensureComplete]
    split
    · rcases store.write_cases store.settings with
        ⟨e, disk, hwrite, hgrows⟩ | ⟨disk, grown, cs, hwrite, htext, hgrows, hwritten⟩
      · rw [hwrite]
        exact .kept rfl rfl hgrows
      · rw [hwrite]
        exact .wrote rfl htext hgrows hwritten
    · exact .kept rfl rfl (.refl _)
  | importOptions path => exact .kept rfl rfl (.refl _)
  | exportOptions path record =>
    simp only [perform, exportOptions]
    split
    · exact .kept rfl rfl (.refl _)
    · next cs _ =>
      rcases store.disk.writeAtomically_cases path (Text.Utf8.encode cs) with
        ⟨e, disk, hwrite, hsame⟩ | ⟨disk, hwrite, hwritten⟩
      · rw [hwrite]
        exact .kept rfl rfl (.of_entries hsame)
      · rw [hwrite]
        exact .exported rfl rfl rfl hwritten

/-! ## Requests that fail -/

theorem save_invalid {record : Record} {e : SettingsError} (h : record.check = .error e)
    (store : Store) (hotkey : Option String) :
    store.save (some record) hotkey = (.error (.settings e), store) := by
  simp only [save, newOptions, h]

/-- **A request that fails changes nothing.** Whatever is asked and for whatever reason it fails, the
settings in memory are what they were, every file holds what it held, and no temporary file is left,
also if directories were made before it got its name; and with invalid options a new hotkey is not
taken over either. -/
theorem perform_failed (store : Store) (request : Request) :
    (∀ e store', store.perform request = (.error e, store') →
      store'.settings = store.settings ∧
      (∀ p, store'.disk.file? p = store.disk.file? p) ∧
      ∀ grown, store.disk.Grows grown →
        store'.disk.file? (place (grown.tempFor (request.target store.folder))) = none) ∧
    ∀ (record : Record) (e : SettingsError) (hotkey : String), record.check = .error e →
      store.save (some record) (some hotkey) = (.error (.settings e), store) := by
  refine ⟨fun e store' hfailed => ?_, fun record e hotkey h => save_invalid h store (some hotkey)⟩
  have heffect := store.perform_effect request
  rw [hfailed] at heffect
  cases heffect with
  | kept _ hsettings hdisk =>
    refine ⟨hsettings, hdisk.files, fun grown hgrown => ?_⟩
    rw [hdisk.files, ← hgrown.files, Disk.file?, grown.entry?_tempFor]

/-- A store whose file holds an empty line, and whose next write is refused at its last step. -/
def refusedStore : Store where
  disk :=
    { entries := [(["config"], .directory), (["config", "settings.toml"], .file [10])]
      refusals := [some .replace] }
  folder := "config"
  settings := .factory
  incomplete := false

theorem perform_failed_refusedStore :
    ∃ e store', refusedStore.perform (.save none (some "F5")) = (.error e, store') ∧
      store'.settings = refusedStore.settings ∧
      store'.disk.file? ["config", "settings.toml"] = some [10] ∧
      store'.disk.file? ["config", "tmp"] = none := by
  have hrefused : (refusedStore.perform (.save none (some "F5"))).1.toOption = none := by
    decide +kernel
  have hfile : refusedStore.disk.file? ["config", "settings.toml"] = some [10] := by
    decide +kernel
  have hplace : place (refusedStore.disk.tempFor refusedStore.file) = ["config", "tmp"] := by
    decide +kernel
  rcases hresult : refusedStore.perform (.save none (some "F5")) with ⟨e | u, store'⟩
  · obtain ⟨hsettings, hfiles, hleft⟩ :=
      (perform_failed refusedStore (.save none (some "F5"))).1 e store' hresult
    refine ⟨e, store', rfl, hsettings, (hfiles _).trans hfile, ?_⟩
    rw [← hplace]
    exact hleft _ (.refl _)
  · rw [hresult] at hrefused
    cases hrefused

/-! ## Runs -/

/-- The request keeps to what callers promise: a draft has no negative numbers of the editor, and
options are exported to another file than that of the settings. -/
def Request.Admissible (folder : String) : Request → Prop
  | .apply draft => draft.editor.Natural
  | .restore snapshot => snapshot.editor.Natural
  | .exportOptions path _ => place path ≠ place (fileIn folder)
  | _ => True

/-- The store when temporary files are named in some way and the next atomic write meets a refusal,
or none. -/
def facing (store : Store) (temp : TempNames) (refused : Option WriteStep) : Store :=
  { store with disk := { store.disk with tempName := temp, refusals := [refused] } }

theorem facing_grows (store : Store) (temp : TempNames) (refused : Option WriteStep) :
    store.disk.Grows (store.facing temp refused).disk :=
  .of_entries fun _ => rfl

/-- The stores that are reached from opening one in a directory, by any run of requests. When the
store is opened, the path of its file leads to the file if there is one. -/
inductive Reachable (folder : String) : Store → Prop
  | opened {disk : Disk} {store : Store} {notices : Nat}
      (hleads : ∀ bytes, disk.file? (place (fileIn folder)) = some bytes →
        disk.read (fileIn folder) = .ok bytes)
      (hopen : openIn disk folder = .ok (store, notices)) : Reachable folder store
  | performed {store : Store} (temp : TempNames) (refused : Option WriteStep) {request : Request}
      (h : Reachable folder store) (hrequest : request.Admissible folder) :
      Reachable folder ((store.facing temp refused).perform request).2

/-- On a disk in order, a store can be opened in every directory that is named without double dots.
-/
theorem Reachable.of_nested {folder : String} {disk : Disk} {store : Store} {notices : Nat}
    (hnested : disk.Nested) (hplain : ".." ∉ Path.components folder)
    (hopen : openIn disk folder = .ok (store, notices)) : Reachable folder store := by
  have hname : Path.IsComponent "settings.toml" := ⟨by decide, by decide, by decide⟩
  refine .opened (fun bytes hfile => hnested.read ?_ hfile) hopen
  rw [fileIn, Path.components_inside hname, List.mem_append, not_or]
  exact ⟨hplain, by decide⟩

/-- The settings in memory are those of the file; without a file they are what they are at first. -/
structure Sound (store : Store) : Prop where
  natural : store.settings.editor.Natural
  absent : store.disk.file? (place store.file) = none → store.settings = .factory
  present : ∀ bytes, store.disk.file? (place store.file) = some bytes →
    store.disk.read store.file = .ok bytes ∧ ∃ notices, decode bytes = .ok (store.settings, notices)

theorem natural_decode {bytes : List UInt8} {settings : Settings} {notices : Nat}
    (h : decode bytes = .ok (settings, notices)) : settings.editor.Natural := by
  simp only [decode] at h
  split at h
  · cases h
  · split at h
    · cases h
      exact Settings.natural_factory
    · cases h
    · cases h
      exact Settings.natural_ofDocument _

/-- **What was written is read**: the bytes of settings give the settings, without a notice. -/
theorem decode_toFile {settings : Settings} (h : settings.editor.Natural) {cs : List Char}
    (htext : settings.toFile = .ok cs) : decode (Text.Utf8.encode cs) = .ok (settings, 0) := by
  simp only [decode, Text.Utf8.decode_encode, Settings.read_toFile h htext,
    Settings.ofDocument_toDocument h, List.length_nil]

/-! ## Opening -/

theorem load_of_read {disk : Disk} {folder : String} {bytes : List UInt8}
    (h : disk.read (fileIn folder) = .ok bytes) : load disk folder = decode bytes := by
  simp only [load, Disk.exists?_of_read h, if_true, h]

theorem load_of_absent {disk : Disk} {folder : String}
    (h : disk.file? (place (fileIn folder)) = none) :
    ∃ notices, load disk folder = .ok (.factory, notices) := by
  simp only [load]
  split
  · split
    · exact ⟨1, rfl⟩
    · next bytes hread =>
      rw [(Disk.read_eq_ok.mp hread).2] at h
      cases h
  · exact ⟨0, rfl⟩

theorem Sound.load {store : Store} (h : Sound store) :
    ∃ notices, load store.disk store.folder = .ok (store.settings, notices) := by
  cases hfile : store.disk.file? (place store.file) with
  | some bytes =>
    obtain ⟨hread, notices, hdecode⟩ := h.present bytes hfile
    exact ⟨notices, (load_of_read hread).trans hdecode⟩
  | none =>
    rw [h.absent hfile]
    exact load_of_absent hfile

theorem sound_opened {disk : Disk} {folder : String} {store : Store} {notices : Nat}
    (hleads : ∀ bytes, disk.file? (place (fileIn folder)) = some bytes →
      disk.read (fileIn folder) = .ok bytes)
    (hopen : openIn disk folder = .ok (store, notices)) : Sound store ∧ store.folder = folder := by
  unfold openIn at hopen
  split at hopen
  · cases hopen
  next settings notices' hload =>
  cases hopen
  refine ⟨⟨?_, fun hnone => ?_, fun bytes hfile => ?_⟩, rfl⟩
  · cases hfile : disk.file? (place (fileIn folder)) with
    | some bytes =>
      rw [load_of_read (hleads bytes hfile)] at hload
      exact natural_decode hload
    | none =>
      obtain ⟨_, hfactory⟩ := load_of_absent hfile
      rw [hload] at hfactory
      cases hfactory
      exact Settings.natural_factory
  · obtain ⟨_, hfactory⟩ := load_of_absent hnone
    rw [hload] at hfactory
    cases hfactory
    rfl
  · have hread := hleads bytes hfile
    exact ⟨hread, notices, (load_of_read hread).symm.trans hload⟩

/-! ## The invariant of a run -/

theorem Sound.of_same {store store' : Store} (h : Sound store)
    (hfolder : store'.folder = store.folder) (hsettings : store'.settings = store.settings)
    (hfile : store'.disk.file? (place store.file) = store.disk.file? (place store.file))
    (hread : ∀ bytes, store.disk.read store.file = .ok bytes →
      store'.disk.read store.file = .ok bytes) : Sound store' := by
  have hpath : store'.file = store.file := by rw [file, hfolder, file]
  refine ⟨hsettings ▸ h.natural, fun hnone => ?_, fun bytes hsome => ?_⟩
  · rw [hpath, hfile] at hnone
    rw [hsettings, h.absent hnone]
  · rw [hpath, hfile] at hsome
    obtain ⟨hheld, hdecode⟩ := h.present bytes hsome
    rw [hpath, hsettings]
    exact ⟨hread bytes hheld, hdecode⟩

theorem Sound.of_grows {store store' : Store} (h : Sound store)
    (hfolder : store'.folder = store.folder) (hsettings : store'.settings = store.settings)
    (hdisk : store.disk.Grows store'.disk) : Sound store' :=
  h.of_same hfolder hsettings (hdisk.files _) fun _ => hdisk.read

theorem commit_settings (store : Store) (settings : Settings) :
    (store.commit settings).2.settings = store.settings ∨
      (store.commit settings).2.settings = settings := by
  simp only [commit]
  split
  · exact .inr rfl
  · exact .inl rfl

/-- No request brings in negative numbers of the editor. -/
theorem perform_natural {store : Store} (h : store.settings.editor.Natural) {request : Request}
    (hrequest : request.Admissible store.folder) :
    (store.perform request).2.settings.editor.Natural := by
  have hcommit : ∀ settings : Settings, settings.editor.Natural →
      (store.commit settings).2.settings.editor.Natural := by
    intro settings hnew
    rcases store.commit_settings settings with hsame | hsame
    · rw [hsame]
      exact h
    · rw [hsame]
      exact hnew
  have happly : ∀ draft : Draft, draft.editor.Natural →
      (store.apply draft).2.settings.editor.Natural := by
    intro draft hdraft
    simp only [apply, Draft.check]
    cases Record.check draft.options with
    | error e => exact h
    | ok options => exact hcommit _ hdraft
  cases request with
  | save options hotkey =>
    simp only [perform, save]
    split
    · exact h
    · exact hcommit _ h
  | apply draft => exact happly draft hrequest
  | restore snapshot => exact happly snapshot hrequest
  | reset scope =>
    rw [perform_reset]
    exact hcommit _ Settings.natural_factory
  | complete =>
    simp only [perform, ensureComplete]
    split
    · split <;> exact h
    · exact h
  | importOptions path => exact h
  | exportOptions path record =>
    simp only [perform, exportOptions]
    split <;> exact h

/-- What one request preserves. -/
theorem Sound.perform {store : Store} (h : Sound store) {request : Request}
    (hrequest : request.Admissible store.folder) :
    Sound (store.perform request).2 ∧ (store.perform request).2.folder = store.folder := by
  have hnatural := perform_natural h.natural hrequest
  have heffect := store.perform_effect request
  rcases hresult : store.perform request with ⟨outcome, store'⟩
  rw [hresult] at hnatural heffect
  cases heffect with
  | kept hfolder hsettings hdisk => exact ⟨h.of_grows hfolder hsettings hdisk, hfolder⟩
  | wrote hfolder htext hgrown hdisk =>
    have hfile : store'.file = store.file := by rw [file, hfolder, file]
    refine ⟨⟨hnatural, fun hnone => ?_, fun bytes hsome => ?_⟩, hfolder⟩
    · rw [hfile, hdisk.files, if_pos rfl] at hnone
      cases hnone
    · rw [hfile, hdisk.files, if_pos rfl] at hsome
      cases hsome
      rw [hfile]
      exact ⟨hdisk.read, 0, decode_toFile hnatural htext⟩
  | exported hexport hfolder hsettings hdisk =>
    subst hexport
    have hother : place store.file ≠ place _ := Ne.symm hrequest
    refine ⟨h.of_same hfolder hsettings ?_ fun bytes => hdisk.read_other hother, hfolder⟩
    rw [hdisk.files, if_neg hother]

/-- What a whole run preserves. -/
theorem Reachable.sound {folder : String} {store : Store} (h : Reachable folder store) :
    Sound store ∧ store.folder = folder := by
  induction h with
  | opened hleads hopen => exact sound_opened hleads hopen
  | @performed store temp refused request _ hrequest ih =>
    obtain ⟨hsound, hfolder⟩ := ih
    have hfacing : Sound (store.facing temp refused) :=
      hsound.of_grows rfl rfl (store.facing_grows temp refused)
    subst hfolder
    exact hfacing.perform hrequest

/-- **A fresh start finds the settings in memory**, after any run of requests, some of which may have
failed; and the options in memory are valid. -/
theorem Reachable.reload {folder : String} {store : Store} (h : Reachable folder store) :
    Record.check store.settings.options.value = .ok store.settings.options ∧
      ∃ fresh notices, openIn store.disk folder = .ok (fresh, notices) ∧
        fresh.settings = store.settings := by
  obtain ⟨hsound, rfl⟩ := h.sound
  obtain ⟨notices, hload⟩ := hsound.load
  refine ⟨Record.check_value _, ⟨store.disk, store.folder, store.settings,
    !store.disk.exists? (fileIn store.folder)⟩, notices, ?_, rfl⟩
  unfold openIn
  rw [hload]

/-- A run in an empty directory: the first write of the settings is refused, the second is not. -/
def retriedStore : Store :=
  let opened : Store := ⟨{}, "config", .factory, true⟩
  let failed := ((opened.facing "tmp1" (some .fill)).perform (.save none (some "F5"))).2
  ((failed.facing "tmp2" none).perform (.save none (some "F6"))).2

theorem Reachable.reload_retriedStore :
    Reachable "config" retriedStore ∧ retriedStore.settings.hotkey = "F6" ∧
      ∃ fresh notices, openIn retriedStore.disk "config" = .ok (fresh, notices) ∧
        fresh.settings = retriedStore.settings := by
  have hfolder : Path.components "config" = ["config"] :=
    Path.components_eq_singleton ⟨by decide, by decide, by decide⟩
  have hfile : Path.components (fileIn "config") = ["config", "settings.toml"] := by
    rw [fileIn, Path.components_inside ⟨by decide, by decide, by decide⟩, hfolder]
    rfl
  have habsent : Disk.exists? {} (fileIn "config") = false := by
    simp [Disk.exists?, Disk.lookup, Disk.locate, hfile, Disk.walk, Disk.entry?]
  have hnested : Disk.Nested {} := fun here part rest entry hentry => by
    simp [Disk.entry?] at hentry
  have hplain : ".." ∉ Path.components "config" := by
    rw [hfolder]
    decide
  have hopen : openIn {} "config" = .ok (⟨{}, "config", .factory, true⟩, 0) := by
    unfold openIn load
    simp only [habsent]
    rfl
  have hreachable : Reachable "config" retriedStore := by
    have hopened := Reachable.of_nested hnested hplain hopen
    exact .performed "tmp2" none (.performed "tmp1" (some .fill) hopened trivial) trivial
  exact ⟨hreachable, by decide +kernel, (Reachable.reload hreachable).2⟩

end SqlDesk.Store
