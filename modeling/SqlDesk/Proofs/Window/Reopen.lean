/-
A file that is opened and saved at once.

Reading unifies the line ends of a file and writing leaves them as they are. So the file afterwards
is its text with line feeds, whatever line ends it had (`exists_rewrites`); where there were none
with a carriage return, its bytes are the same, and from the second time on nothing changes. A path
with detours in it is read where it leads and written to where it leads without them, which is the
same place.
-/
import SqlDesk.Proofs.Window.Session
import SqlDesk.Proofs.Text.Newline

namespace SqlDesk.Window

open Text

/-! ## Saves that only write -/

/-- Saving only writes: nothing is formatted on saving, and storage refuses no write. -/
structure OnlyWrites (window : Window) : Prop where
  unformatted : window.command.options.toggle .formatOnSave = false
  granted : ∀ refused ∈ window.store.disk.writeRefusals, refused = false

variable {guarded : Guarded Window} {path : String}

theorem onSaved_of_unformatted
    (h : guarded.state.command.options.toggle .formatOnSave = false) :
    onSaved () guarded = (.ok (), guarded) := by
  have hskip : SaveGuard.onSaved saveHooks () guarded = (.ok (), guarded) := by
    rw [SaveGuard.onSaved_eq, SaveGuard.handle]
    refine if_pos ?_
    rw [show saveHooks.enabled guarded.state = false from h]
    simp
  rw [onSaved, hskip]

/-- A file that can be read can be saved, and then it holds the text of the document. -/
theorem exists_saveNow {old : List UInt8} (h : OnlyWrites guarded.state)
    (hread : guarded.state.store.disk.read guarded.state.document.path = .ok old) :
    ∃ after, saveNow guarded = (true, after) ∧ OnlyWrites after.state ∧
      guarded.state.store.disk.Written after.state.store.disk guarded.state.document.path
        (Utf8.encode guarded.state.document.text) := by
  obtain ⟨disk, hwrite, hwritten, hgranted⟩ := Disk.write_of_read hread h.granted
    (Utf8.encode guarded.state.document.text)
  obtain ⟨after, hafter⟩ : ∃ after, after = { guarded.state with store.disk := disk }.written :=
    ⟨_, rfl⟩
  have hattempt : guarded.state.attempted = (.ok (), after) := by
    simp only [attempted, hwrite, hafter]
  have honly : OnlyWrites after := hafter ▸ ⟨h.unformatted, hgranted⟩
  have hquiet : onSaved () ⟨after, guarded.inProgress⟩ = (.ok (), ⟨after, guarded.inProgress⟩) :=
    onSaved_of_unformatted honly.unformatted
  refine ⟨⟨after, guarded.inProgress⟩, ?_, honly, hafter ▸ hwritten⟩
  simp only [saveNow, write_of_ok hattempt, Saving.run, hquiet]

/-! ## Opening and saving -/

/-- The window after a file was opened in it. -/
def opening (guarded : Guarded Window) (path : String) : Guarded Window :=
  { guarded with state := (guarded.state.load path).2 }

/-- A file is opened, with some text in the document, and saved at once, with this text in the file.
-/
structure Rewrites (guarded : Guarded Window) (path : String) (text : List Char)
    (after : Guarded Window) : Prop where
  opened : (guarded.state.load path).1 = true
  document : (opening guarded path).state.document = ⟨{ text := text }, Path.resolve path⟩
  saved : ∀ chosen, save (opening guarded path) chosen = (true, after)
  held : after.state.store.disk.read path = .ok (Utf8.encode text)

theorem readText_of_read {disk : Disk} {bytes : List UInt8} {cs : List Char}
    (hread : disk.read path = .ok bytes) (hdecode : Utf8.decode bytes = .ok cs) :
    readText disk path = .ok (withLineFeeds cs) := by
  simp only [readText, Disk.read_normal_iff.mpr hread, hdecode, unifyNewlines_eq_withLineFeeds]

/-- **A file of UTF-8 text can be opened and saved**, and it is its text with line feeds then. -/
theorem exists_rewrites {bytes : List UInt8} {cs : List Char} (h : OnlyWrites guarded.state)
    (hread : guarded.state.store.disk.read path = .ok bytes) (hdecode : Utf8.decode bytes = .ok cs) :
    ∃ after, Rewrites guarded path (withLineFeeds cs) after ∧ OnlyWrites after.state := by
  have hload := load_of_ok (readText_of_read hread hdecode)
  have hopening : opening guarded path = { guarded with state :=
      (guarded.state.holding (withLineFeeds cs) (Path.resolve path)).noted ("Opened: " ++ path) } := by
    rw [opening, hload]
  have honly : OnlyWrites (opening guarded path).state := by
    rw [hopening]
    exact ⟨h.unformatted, h.granted⟩
  have hdisk : (opening guarded path).state.store.disk = guarded.state.store.disk := by
    rw [hopening]
    rfl
  have hdocument : (opening guarded path).state.document =
      ⟨{ text := withLineFeeds cs }, Path.resolve path⟩ := by
    rw [hopening]
    rfl
  have hplace : (opening guarded path).state.store.disk.read
      (opening guarded path).state.document.path = .ok bytes := by
    rw [hdisk, hdocument]
    exact Disk.read_resolve hread
  obtain ⟨after, hsave, hafter, hwritten⟩ := exists_saveNow honly hplace
  rw [hdisk, hdocument] at hwritten
  refine ⟨after, ⟨by rw [hload], hdocument, fun chosen => ?_, ?_⟩, hafter⟩
  · have hpath : (opening guarded path).state.document.path ≠ "" := by
      rw [hdocument]
      exact Path.resolve_ne_empty path
    rw [save, if_neg hpath]
    exact hsave
  · exact hwritten.read_same (Path.place_resolve path).symm hread

/-- **Opening and saving a file unifies its line ends** and does nothing else. Where saving only
writes, a file of UTF-8 text is its text with line feeds after it was opened and saved. Its bytes are
the same just if there was no carriage return in it. Opened and saved once more, they are the same,
and the document is opened as it was before. -/
theorem load_save_rewrites {bytes : List UInt8} {cs : List Char} (h : OnlyWrites guarded.state)
    (hread : guarded.state.store.disk.read path = .ok bytes) (hdecode : Utf8.decode bytes = .ok cs) :
    ∃ first second, Rewrites guarded path (withLineFeeds cs) first ∧
      Rewrites first path (withLineFeeds cs) second ∧
      (first.state.store.disk.read path = .ok bytes ↔ '\r' ∉ cs) ∧
      second.state.store.disk.read path = first.state.store.disk.read path ∧
      (opening first path).state.document = (opening guarded path).state.document := by
  obtain ⟨first, hfirst, hafter⟩ := exists_rewrites h hread hdecode
  obtain ⟨second, hsecond, -⟩ := exists_rewrites hafter hfirst.held (Utf8.decode_encode _)
  have hagain : withLineFeeds (withLineFeeds cs) = withLineFeeds cs := by
    simp only [← unifyNewlines_eq_withLineFeeds, unifyNewlines_unifyNewlines]
  rw [hagain] at hsecond
  refine ⟨first, second, hfirst, hsecond, ?_, ?_, ?_⟩
  · have hencode : Utf8.encode (withLineFeeds cs) = Utf8.encode cs ↔ withLineFeeds cs = cs := by
      refine ⟨fun heq => ?_, congrArg _⟩
      have hdecoded := congrArg Utf8.decode heq
      rwa [Utf8.decode_encode, Utf8.decode_encode, Except.ok.injEq] at hdecoded
    rw [hfirst.held, ← Utf8.encode_decode hdecode, Except.ok.injEq, hencode,
      ← unifyNewlines_eq_withLineFeeds, unifyNewlines_eq_self_iff]
  · rw [hsecond.held, hfirst.held]
  · rw [hsecond.document, hfirst.document]

/-- A window on a disk with a file of mixed line ends. -/
def mixedWindow : Window :=
  Window.opened ⟨{ entries := [(["old"], .directory),
    (["q.sql"], .file (Utf8.encode "select '😀'\r\r\n\r".toList))] }, "config", .factory, false⟩ {}

theorem load_save_rewrites_mixedWindow :
    OnlyWrites mixedWindow ∧
      ∃ first second, Rewrites ⟨mixedWindow, false⟩ "old/../q.sql" "select '😀'\n\n\n".toList first ∧
        Rewrites first "old/../q.sql" "select '😀'\n\n\n".toList second := by
  have honly : OnlyWrites mixedWindow := ⟨by decide +kernel, by decide +kernel⟩
  have hread : mixedWindow.store.disk.read "old/../q.sql" =
      .ok (Utf8.encode "select '😀'\r\r\n\r".toList) := by
    decide +kernel
  obtain ⟨first, second, hfirst, hsecond, -⟩ :=
    @load_save_rewrites ⟨mixedWindow, false⟩ _ _ _ honly hread (Utf8.decode_encode _)
  have htext : withLineFeeds "select '😀'\r\r\n\r".toList = "select '😀'\n\n\n".toList := by decide
  rw [htext] at hfirst hsecond
  exact ⟨honly, first, second, hfirst, hsecond⟩

end SqlDesk.Window
