/-
What a start makes of the file of the settings.

The file may be missing, be a directory, or hold any bytes. Settings that are found are valid in every
part, and a text that is no document gives what every setting is at first. Two kinds of bytes stop
the start instead: those that are no text, and a text with a number too long to be read (`Stops`).
-/
import SqlDesk.Proofs.Text.Utf8
import SqlDesk.Proofs.Toml.Flaw
import SqlDesk.Proofs.Settings.Session

namespace SqlDesk

/-- Every setting has a value of its kind, numbers are not negative, and the options pass their own
check. -/
structure Settings.Valid (settings : Settings) : Prop where
  accepts : ∀ k : Key, k.accepts (settings.value k) = true
  options : Record.check settings.options.value = .ok settings.options

theorem Settings.valid_of_natural {settings : Settings} (h : settings.editor.Natural) :
    settings.Valid :=
  ⟨accepts_value h, Record.check_value _⟩

namespace Store

/-- The bytes of a file that stop a start, and how: they are no text, or the text has a decimal number
with more digits than a numeral may have. -/
inductive Stops (bytes : List UInt8) : Failure → Prop
  | noText {flaw : Text.Utf8.Malformed} (h : ∀ cs, Text.Utf8.encode cs ≠ bytes)
      (hflaw : Text.Utf8.decode bytes = .error flaw) : Stops bytes (.encoding flaw)
  | oversized {cs : List Char} {digits : Nat} (htext : Text.Utf8.encode cs = bytes)
      (h : Toml.read cs = .error (.oversized digits)) (hdigits : Text.maxDigits < digits) :
      Stops bytes (.numeral (some digits))

/-- A file that is no document: it is missing, cannot be read, or holds a text that breaks the rules
of the format. -/
inductive NoDocument (disk : Disk) (folder : String) : Prop
  | absent (h : disk.exists? (fileIn folder) = false)
  | unread {e : FileError} (h : disk.read (fileIn folder) = .error e)
  | malformed {cs : List Char} (hread : disk.read (fileIn folder) = .ok (Text.Utf8.encode cs))
      (h : Toml.read cs = .error .malformed)

theorem decode_encode_eq (cs : List Char) : decode (Text.Utf8.encode cs) =
    match Toml.read cs with
    | .error .malformed => .ok (.factory, 1)
    | .error (.oversized digits) => .error (.numeral (some digits))
    | .ok document =>
      .ok ((Settings.ofDocument document).1, (Settings.ofDocument document).2.length) := by
  cases hread : Toml.read cs with
  | error flaw => cases flaw <;> simp only [decode, Text.Utf8.decode_encode, hread]
  | ok document => simp only [decode, Text.Utf8.decode_encode, hread]

theorem decode_eq_error {bytes : List UInt8} {e : Failure} :
    decode bytes = .error e ↔ Stops bytes e := by
  constructor
  · intro h
    cases hdecode : Text.Utf8.decode bytes with
    | error flaw =>
      simp only [decode, hdecode] at h
      obtain rfl := Except.error.inj h
      exact .noText (Text.Utf8.encode_ne_of_decode hdecode) hdecode
    | ok cs =>
      obtain rfl := Text.Utf8.encode_decode hdecode
      rw [decode_encode_eq] at h
      split at h
      · cases h
      · next hread =>
        obtain rfl := Except.error.inj h
        exact .oversized rfl hread (Toml.lt_of_oversized hread)
      · cases h
  · intro h
    cases h with
    | noText h hflaw => simp only [decode, hflaw]
    | oversized htext h => rw [← htext, decode_encode_eq, h]

theorem load_of_unread {disk : Disk} {folder : String} {e : FileError}
    (h : disk.read (fileIn folder) = .error e) :
    ∃ notices, load disk folder = .ok (.factory, notices) := by
  simp only [load, h]
  split
  · exact ⟨1, rfl⟩
  · exact ⟨0, rfl⟩

/-- The settings that are loaded are valid. -/
theorem valid_load {disk : Disk} {folder : String} {settings : Settings} {notices : Nat}
    (h : load disk folder = .ok (settings, notices)) : settings.Valid := by
  refine Settings.valid_of_natural ?_
  cases hread : disk.read (fileIn folder) with
  | error e =>
    obtain ⟨notices', hload⟩ := load_of_unread hread
    rw [h] at hload
    cases hload
    exact Settings.natural_factory
  | ok bytes =>
    rw [load_of_read hread] at h
    exact natural_decode h

theorem load_of_noDocument {disk : Disk} {folder : String} (h : NoDocument disk folder) :
    ∃ notices, load disk folder = .ok (.factory, notices) := by
  cases h with
  | absent h => exact ⟨0, by simp [load, h]⟩
  | unread h => exact load_of_unread h
  | malformed hread h => exact ⟨1, by rw [load_of_read hread, decode_encode_eq, h]⟩

theorem load_eq_error {disk : Disk} {folder : String} {e : Failure} :
    load disk folder = .error e ↔
      ∃ bytes, disk.read (fileIn folder) = .ok bytes ∧ Stops bytes e := by
  cases hread : disk.read (fileIn folder) with
  | error e' =>
    obtain ⟨notices, hload⟩ := load_of_unread hread
    simp [hload]
  | ok bytes =>
    rw [load_of_read hread, decode_eq_error]
    simp

theorem openIn_eq_error {disk : Disk} {folder : String} {e : Failure} :
    openIn disk folder = .error e ↔
      ∃ bytes, disk.read (fileIn folder) = .ok bytes ∧ Stops bytes e := by
  refine Iff.trans ?_ load_eq_error
  unfold openIn
  cases load disk folder with
  | error e' => simp
  | ok loaded => simp

/-- **What a start finds.** A store that is opened has valid settings. Without a document it has what
every setting is at first. The opening fails just if there is a file whose bytes are no text, or a
text with an oversized number. -/
theorem openIn_start (disk : Disk) (folder : String) :
    (∀ store notices, openIn disk folder = .ok (store, notices) → store.settings.Valid) ∧
    (NoDocument disk folder → ∃ store notices,
      openIn disk folder = .ok (store, notices) ∧ store.settings = .factory) ∧
    ∀ e, openIn disk folder = .error e ↔
      ∃ bytes, disk.read (fileIn folder) = .ok bytes ∧ Stops bytes e := by
  refine ⟨fun store notices hopen => ?_, fun hnone => ?_, fun e => openIn_eq_error⟩
  · unfold openIn at hopen
    split at hopen
    · cases hopen
    · next hload =>
      cases hopen
      exact valid_load hload
  · obtain ⟨notices, hload⟩ := load_of_noDocument hnone
    refine ⟨⟨disk, folder, .factory, !disk.exists? (fileIn folder)⟩, notices, ?_, rfl⟩
    unfold openIn
    rw [hload]

/-- A disk whose settings are one byte that is no text. -/
def garbledDisk : Disk where
  entries := [(["config"], .directory), (["config", "settings.toml"], .file [0xFF])]

/-- **A file can stop the start.** -/
theorem openIn_stops :
    garbledDisk.read (fileIn "config") = .ok [0xFF] ∧
      openIn garbledDisk "config" = .error (.encoding ⟨0, 0xFF, 1, .invalidStart⟩) := by
  have hread : garbledDisk.read (fileIn "config") = .ok [0xFF] :=
    Except.eq_ok_of_toOption (by decide +kernel)
  refine ⟨hread, openIn_eq_error.mpr ⟨_, hread, .noText (fun cs heq => ?_) rfl⟩⟩
  have hdecode := Text.Utf8.decode_encode cs
  rw [heq] at hdecode
  cases hdecode

end Store

end SqlDesk
