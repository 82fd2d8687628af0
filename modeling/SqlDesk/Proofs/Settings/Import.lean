/-
What an import makes of a file.

The file of a path may be missing, be a directory, or hold any bytes. It gives options just if it
offers them (`Offers`): it holds a document with a table in which every key is known and every value
is of its kind. Of all other files two kinds stop the import (`Halts`): those whose bytes are no text,
and those with a number too long to be read. The rest is refused as a settings error
(`importOptions_eq_ok_iff`, `halts_iff`).
-/
import SqlDesk.Proofs.Options.Order
import SqlDesk.Proofs.Settings.Start

namespace SqlDesk

/-! ## A table that is read strictly -/

/-- The table gives the options: every key is known, every value is of its kind, and what is not in
the table is as it is at first. -/
structure Options.FromTable (table : Toml.Table) (options : Options) : Prop where
  known : Options.AllKnown table
  valid : Options.AllValid table
  value : ∀ f : Field, options.value f = (table.get? f.name).getD (Options.value {} f)

/-- **Strict reading takes what the table gives**, and nothing else. -/
theorem Options.ofTable_strict_iff {table : Toml.Table} {options : Options} {ignored : List Field} :
    ofTable true table = .ok (options, ignored) ↔ FromTable table options ∧ ignored = [] := by
  have horder := isOrder_filter table
  obtain ⟨found, htake, hvalue⟩ := takeFields_order horder
  -- with valid values, what is found is what stands in the table
  have hfound : AllValid table →
      ∀ f, found.value f = (table.get? f.name).getD (Options.value {} f) := by
    intro hvalid f
    have hsubtable : Toml.Table.subtable [(SettingsError.optionsTable, .table table)]
        SettingsError.optionsTable = table := by
      simp [Toml.Table.subtable, Toml.Table.get?]
    rw [hvalue, Key.readFrom, find?_option, hsubtable]
    cases hget : table.get? f.name with
    | none => rfl
    | some v => simp only [Key.accepts_iff.mpr (hvalid f v hget), if_true, Option.getD_some]
  have hstrict : AllKnown table → AllValid table → ofTable true table = .ok (found, []) := by
    intro hknown hvalid
    rw [ofTable_eq_readIn]
    simp [readIn, visit_eq, unknownKeys_eq_nil_iff.mpr hknown,
      (invalidFields_eq_nil_iff horder).mpr hvalid,
      takeFields_of_valid ((invalidFields_eq_nil_iff horder).mpr hvalid), htake, Except.map]
  constructor
  · intro h
    obtain ⟨hknown, hvalid⟩ := (readIn_strict horder).2.mp ⟨_, (ofTable_eq_readIn _ _).symm.trans h⟩
    rw [hstrict hknown hvalid] at h
    obtain ⟨rfl, rfl⟩ := Prod.mk.inj (Except.ok.inj h)
    exact ⟨⟨hknown, hvalid, hfound hvalid⟩, rfl⟩
  · rintro ⟨⟨hknown, hvalid, hsame⟩, rfl⟩
    obtain rfl : options = found :=
      value_injective (funext fun f => (hsame f).trans (hfound hvalid f).symm)
    exact hstrict hknown hvalid

/-- The text of a file gives options just if it is a document with a table that gives them. -/
theorem Options.ofFile_eq_ok_iff {cs : List Char} {options : Options} :
    ofFile cs = .ok options ↔ ∃ document table, Toml.read cs = .ok document ∧
      document.get? SettingsError.optionsTable = some (.table table) ∧ FromTable table options := by
  constructor
  · intro h
    unfold ofFile at h
    split at h
    · cases h
    · cases h
    next document hread =>
    split at h
    · cases h
    next value hvalue =>
    split at h
    · cases h
    next ignored htaken =>
    obtain rfl := Except.ok.inj h
    cases value with
    | table table => exact ⟨document, table, hread, hvalue, (ofTable_strict_iff.mp htaken).1⟩
    | _ => cases htaken
  · rintro ⟨document, table, hread, hvalue, hgives⟩
    simp only [ofFile, hread, hvalue, ofValue, ofTable_strict_iff.mpr ⟨hgives, rfl⟩]

/-- A text that gives none is refused as a settings error, unless a number in it is oversized. -/
theorem Options.ofFile_eq_error {cs : List Char} {e : Failure} (h : ofFile cs = .error e) :
    (∃ cause, e = .settings cause) ∨
      ∃ digits, e = .numeral (some digits) ∧ Toml.read cs = .error (.oversized digits) := by
  unfold ofFile at h
  split at h
  · exact .inl ⟨_, (Except.error.inj h).symm⟩
  · next digits hread => exact .inr ⟨digits, (Except.error.inj h).symm, hread⟩
  · split at h
    · exact .inl ⟨_, (Except.error.inj h).symm⟩
    · split at h
      · exact .inl ⟨_, (Except.error.inj h).symm⟩
      · cases h

namespace Store

variable {store : Store} {path : String}

/-! ## The text of a file -/

/-- The file of a path is a text with a document in it. Every line end of the text counts as a line
feed. -/
inductive HoldsDocument (disk : Disk) (path : String) (document : Toml.Table) : Prop
  | text {cs : List Char} (hread : disk.read (Path.normal path) = .ok (Text.Utf8.encode cs))
      (hdocument : Toml.read (Text.unifyNewlines cs) = .ok document)

/-- The file of a path offers options: it holds a document with the table that gives them. -/
inductive Offers (disk : Disk) (path : String) (options : Options) : Prop
  | table {document table : Toml.Table} (hholds : HoldsDocument disk path document)
      (htable : document.get? SettingsError.optionsTable = some (.table table))
      (hgives : options.FromTable table)

/-- The file of a path stops an import, and how: its bytes are no text, or the text has a decimal
number with more digits than a numeral may have. -/
inductive Halts (disk : Disk) (path : String) : Failure → Prop
  | noText {bytes : List UInt8} {flaw : Text.Utf8.Malformed}
      (hread : disk.read (Path.normal path) = .ok bytes) (h : ∀ cs, Text.Utf8.encode cs ≠ bytes)
      (hflaw : Text.Utf8.decode bytes = .error flaw) : Halts disk path (.encoding flaw)
  | oversized {cs : List Char} {digits : Nat}
      (hread : disk.read (Path.normal path) = .ok (Text.Utf8.encode cs))
      (h : Toml.read (Text.unifyNewlines cs) = .error (.oversized digits))
      (hdigits : Text.maxDigits < digits) : Halts disk path (.numeral (some digits))

/-! ## The outcome -/

theorem importOptions_of_text {cs : List Char}
    (h : store.disk.read (Path.normal path) = .ok (Text.Utf8.encode cs)) :
    store.importOptions path = Options.ofFile (Text.unifyNewlines cs) := by
  simp only [importOptions, h, Text.Utf8.decode_encode]

/-- **Options are imported just if the file offers them.** -/
theorem importOptions_eq_ok_iff {options : Options} :
    store.importOptions path = .ok options ↔ Offers store.disk path options := by
  constructor
  · intro h
    cases hread : store.disk.read (Path.normal path) with
    | error cause => simp [importOptions, hread] at h
    | ok bytes =>
      cases hdecode : Text.Utf8.decode bytes with
      | error flaw => simp [importOptions, hread, hdecode] at h
      | ok cs =>
        obtain rfl := Text.Utf8.encode_decode hdecode
        rw [importOptions_of_text hread] at h
        obtain ⟨document, table, hdocument, htable, hgives⟩ := Options.ofFile_eq_ok_iff.mp h
        exact .table (.text hread hdocument) htable hgives
  · rintro ⟨⟨hread, hdocument⟩, htable, hgives⟩
    rw [importOptions_of_text hread]
    exact Options.ofFile_eq_ok_iff.mpr ⟨_, _, hdocument, htable, hgives⟩

/-- **What stops an import** is what is no settings error. -/
theorem halts_iff {e : Failure} : Halts store.disk path e ↔
    store.importOptions path = .error e ∧ ∀ cause, e ≠ .settings cause := by
  constructor
  · intro h
    cases h with
    | noText hread h hflaw =>
      refine ⟨by simp only [importOptions, hread, hflaw], ?_⟩
      rintro _ ⟨⟩
    | oversized hread h =>
      refine ⟨by rw [importOptions_of_text hread, Options.ofFile, h], ?_⟩
      rintro _ ⟨⟩
  · rintro ⟨h, hother⟩
    cases hread : store.disk.read (Path.normal path) with
    | error cause =>
      simp only [importOptions, hread] at h
      exact absurd (Except.error.inj h).symm (hother _)
    | ok bytes =>
      cases hdecode : Text.Utf8.decode bytes with
      | error flaw =>
        simp only [importOptions, hread, hdecode] at h
        obtain rfl := Except.error.inj h
        exact .noText hread (Text.Utf8.encode_ne_of_decode hdecode) hdecode
      | ok cs =>
        obtain rfl := Text.Utf8.encode_decode hdecode
        rw [importOptions_of_text hread] at h
        rcases Options.ofFile_eq_error h with ⟨cause, hcause⟩ | ⟨digits, rfl, hread'⟩
        · exact absurd hcause (hother cause)
        · exact .oversized hread hread' (Toml.lt_of_oversized hread')

end Store

end SqlDesk
