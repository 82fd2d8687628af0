/-
Options are imported from the file that they were exported to.

An export writes the file of the options as a whole or fails without a trace (`exportOptions_cases`).
Where it was written, every store reads the same options again (`importOptions_of_written`), whatever
its own settings are: the bytes decode to the text, and no line end of the text changes when it is
read.
-/
import SqlDesk.Proofs.Options.File
import SqlDesk.Proofs.Settings.Store

namespace SqlDesk.Store

/-- **Options are imported** from every disk on which their file was written. -/
theorem importOptions_of_written {options : Options} {cs : List Char}
    (hfile : Record.toFile options.value = .ok cs) {store : Store} {disk : Disk} {path : String}
    (h : disk.Written store.disk path (Text.Utf8.encode cs)) :
    store.importOptions path = .ok options := by
  have hlines := Text.unifyNewlines_eq (Options.not_mem_toFile hfile)
  simp only [importOptions, Disk.read_normal_iff.mpr h.read, Text.Utf8.decode_encode, hlines,
    Options.ofFile_toFile hfile]

/-- What an export of writable options does, in two cases: storage refuses it and nothing changes,
or their file is written. -/
theorem exportOptions_cases {options : Options} {cs : List Char}
    (hfile : Record.toFile options.value = .ok cs) (store : Store) (path : String) :
    (∃ cause store',
        store.exportOptions path (some options.value) = (.error (.file cause), store') ∧
        store'.settings = store.settings ∧ ∀ p, store'.disk.entry? p = store.disk.entry? p) ∨
      ∃ store', store.exportOptions path (some options.value) = (.ok (), store') ∧
        store'.settings = store.settings ∧
        store.disk.Written store'.disk path (Text.Utf8.encode cs) := by
  simp only [exportOptions, Option.getD_some, hfile]
  rcases store.disk.writeAtomically_cases path (Text.Utf8.encode cs) with
    ⟨cause, disk, hwrite, hsame⟩ | ⟨disk, hwrite, hwritten⟩
  · rw [hwrite]
    exact .inl ⟨cause, { store with disk := disk }, rfl, rfl, hsame⟩
  · rw [hwrite]
    exact .inr ⟨{ store with disk := disk }, rfl, rfl, hwritten⟩

theorem exportOptions_of_accepts {options : Options} {cs : List Char}
    (hfile : Record.toFile options.value = .ok cs) {store : Store} {path : String}
    (haccepts : store.disk.Accepts path) :
    (store.exportOptions path (some options.value)).1 = .ok () := by
  have hwrite := Disk.writeAtomically_of_accepts haccepts (Text.Utf8.encode cs)
  simp only [exportOptions, Option.getD_some, hfile, hwrite]
  rfl

/-- **Options survive the way through a file.** A valid record whose numbers can be written has a
file, from which just that record is read. It can be exported wherever storage takes a file, and is
refused by nothing but storage; and once it was exported, every store with that disk imports it,
whatever its settings are, and is what it was. -/
theorem importOptions_exportOptions {record : Record} {options : Options}
    (hvalid : record.check = .ok options) (hwritable : options.Writable) :
    options.value = record ∧
      (∃ cs, record.toFile = .ok cs ∧ Options.ofFile cs = .ok options) ∧
      ∀ (store : Store) (path : String),
        (store.disk.Accepts path → (store.exportOptions path (some record)).1 = .ok ()) ∧
        (∀ e store', store.exportOptions path (some record) = (.error e, store') →
          e.isFileError = true) ∧
        ∀ store', store.exportOptions path (some record) = (.ok (), store') →
          store'.settings = store.settings ∧
          ∀ importer : Store, importer.disk = store'.disk →
            importer.importOptions path = .ok options ∧
            importer.perform (.importOptions path) = (.ok (), importer) := by
  obtain rfl := Record.check_eq_ok_iff.mp hvalid
  obtain ⟨cs, hfile⟩ := Options.toFile_isOk hwritable
  refine ⟨rfl, ⟨cs, hfile, Options.ofFile_toFile hfile⟩, fun store path => ?_⟩
  refine ⟨exportOptions_of_accepts hfile, fun e store' hfailed => ?_,
    fun store' hexported => ?_⟩
  · rcases exportOptions_cases hfile store path with ⟨cause, _, hresult, _, _⟩ | ⟨_, hresult, _, _⟩
    · rw [hresult] at hfailed
      cases hfailed
      rfl
    · rw [hresult] at hfailed
      cases hfailed
  · rcases exportOptions_cases hfile store path with
      ⟨cause, _, hresult, _, _⟩ | ⟨_, hresult, hsettings, hwritten⟩
    · rw [hresult] at hexported
      cases hexported
    · rw [hresult] at hexported
      cases hexported
      refine ⟨hsettings, fun importer hdisk => ?_⟩
      rw [← hdisk] at hwritten
      have himport := importOptions_of_written hfile hwritten
      exact ⟨himport, by simp only [perform, himport, Except.map]⟩

/-- Options whose indent is made of quotes, a backslash, controls and a character of two units. -/
def quotedOptions : Options where
  indent := "\"'\\t\t\r\n\x00\x7f😀"
  count := fun _ => 12345678901234567890

/-- A store beside a directory for exported files. -/
def exportStore : Store where
  disk := { entries := [(["out"], .directory)] }
  folder := "config"
  settings := .factory
  incomplete := true

theorem importOptions_exportOptions_quotedOptions :
    Record.check quotedOptions.value = .ok quotedOptions ∧ quotedOptions.Writable ∧
      exportStore.disk.Accepts "out/options.toml" ∧
      ∃ store', exportStore.exportOptions "out/options.toml" (some quotedOptions.value) =
          (.ok (), store') ∧
        store'.importOptions "out/options.toml" = .ok quotedOptions := by
  have hvalid := Record.check_value quotedOptions
  have hwritable : quotedOptions.Writable := fun c => by cases c <;> decide +kernel
  have hparent : Path.components (Path.parent "out/options.toml") = ["out"] := by decide +kernel
  have hfolder : exportStore.disk.locate (Path.parent "out/options.toml") =
      .ok (Path.place (Path.parent "out/options.toml")) := by
    simp [Disk.locate, Path.place, hparent, Path.climb, Disk.walk, Disk.entry?]
  have haccepts : exportStore.disk.Accepts "out/options.toml" :=
    ⟨⟨⟨by decide +kernel, by decide +kernel, by decide +kernel⟩, by decide +kernel⟩, hfolder,
      by decide +kernel, by decide +kernel, rfl⟩
  obtain ⟨-, -, hstore⟩ := importOptions_exportOptions hvalid hwritable
  obtain ⟨hsucceeds, -, himport⟩ := hstore exportStore "out/options.toml"
  have houtcome := hsucceeds haccepts
  rcases hresult : exportStore.exportOptions "out/options.toml" (some quotedOptions.value) with
    ⟨outcome, store'⟩
  rw [hresult] at houtcome
  obtain rfl : outcome = .ok () := houtcome
  exact ⟨hvalid, hwritable, haccepts, store', rfl, ((himport store' hresult).2 store' rfl).1⟩

end SqlDesk.Store
