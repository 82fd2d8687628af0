/-
Options are read back from the file that is written for them.

The file of options is the section of their table (`toFile_eq`), which the reader takes as a whole
(`ofFile_toFile`). No carriage return is in it (`not_mem_toFile`), so unifying the line ends of the
file changes nothing. Only a number with more digits than a numeral may have keeps options from being
written (`toFile_isOk`).
-/
import SqlDesk.Proofs.Options.Table
import SqlDesk.Proofs.Toml.File
import SqlDesk.Proofs.Text.Newline

namespace SqlDesk

namespace Options

/-- The numbers among some options have at most as many digits as a numeral may have. -/
def Writable (options : Options) : Prop :=
  ∀ c, Text.isWritable (options.count c) = true

/-! ## The entries -/

theorem isPlain_value (options : Options) (f : Field) : (options.value f).IsPlain := by
  cases f with
  | indent => exact .string _
  | count c => exact .natural _
  | toggle t => exact .boolean _

theorem isPlain_toTable (options : Options) : ∀ e ∈ Record.toTable options.value, e.2.IsPlain := by
  simp only [Record.toTable, List.mem_map]
  rintro _ ⟨f, _, rfl⟩
  exact isPlain_value options f

theorem toTable_ne_nil (record : Record) : record.toTable ≠ [] := by
  simp [Record.toTable, Field.all]

/-- The names of the options are distinct, so their entries make a table. -/
theorem addAll_toTable (record : Record) :
    Toml.Table.addAll record.toTable [] = .ok record.toTable := by
  have hnames : record.toTable.map (·.1) = Field.all.map Field.name := by
    simp [Record.toTable]
  have hnodup : (record.toTable.map (·.1)).Nodup := by
    rw [hnames]
    decide
  exact Toml.Table.addAll_eq hnodup

theorem valueText_isOk {options : Options} (h : options.Writable) (f : Field) :
    ∃ text, Toml.valueText 0 (options.value f) = .ok text := by
  cases f with
  | indent => exact ⟨Toml.escape options.indent.toList, by simp only [value, Toml.valueText]⟩
  | count c =>
    exact ⟨Toml.integerText (options.count c), by simp only [value, Toml.valueText, h c, if_true]⟩
  | toggle t =>
    simp only [value]
    cases options.toggle t with
    | false => exact ⟨"false".toList, by simp only [Toml.valueText]⟩
    | true => exact ⟨"true".toList, by simp only [Toml.valueText]⟩

theorem entryLines_isOk {options : Options} (h : options.Writable) :
    ∃ lines, Toml.entryLines (Record.toTable options.value) = .ok lines := by
  refine Toml.entryLines_isOk ?_
  simp only [Record.toTable, List.mem_map]
  rintro _ ⟨f, _, rfl⟩
  exact valueText_isOk h f

/-! ## The file -/

/-- The file of options is the section of their table. -/
theorem toFile_eq (options : Options) : Record.toFile options.value =
    (Toml.entryLines (Record.toTable options.value)).map
      (Toml.sectionOf [SettingsError.optionsTable]) := by
  have hplain := isPlain_toTable options
  have hne := toTable_ne_nil options.value
  have hsection := Toml.sectionTexts_plain (List.cons_ne_nil SettingsError.optionsTable []) hne hplain
  rw [Record.toFile, Toml.write, Toml.sectionTexts_sections [] (by simp) (by simp [Toml.isSection]),
    Toml.belowTexts_cons [] _ rfl, Toml.sectionName_nil, hsection]
  cases Toml.entryLines (Record.toTable options.value) with
  | error e => rfl
  | ok lines => simp [Except.map, Except.bind, Toml.belowTexts, Toml.spaced]

theorem takes_options {options : Options} {lines : List Char}
    (hlines : Toml.entryLines (Record.toTable options.value) = .ok lines) :
    Toml.Takes (Toml.sectionOf [SettingsError.optionsTable] lines) (.having [] [])
      (.having [(SettingsError.optionsTable, .table (Record.toTable options.value))]
        [[SettingsError.optionsTable]]) := by
  have hadd : Toml.Table.update true (Toml.Table.addAll (Record.toTable options.value))
      [SettingsError.optionsTable] [] =
        .ok [(SettingsError.optionsTable, .table (Record.toTable options.value))] := by
    rw [Toml.Table.update_new rfl, Toml.Table.update, addAll_toTable]
    rfl
  exact Toml.takes_section List.not_mem_nil (toTable_ne_nil _) (isPlain_toTable options) hlines hadd

theorem toFile_isOk {options : Options} (h : options.Writable) :
    ∃ cs, Record.toFile options.value = .ok cs := by
  obtain ⟨lines, hlines⟩ := entryLines_isOk h
  exact ⟨_, by rw [toFile_eq, hlines, Except.map]⟩

theorem not_mem_toFile {options : Options} {cs : List Char}
    (hfile : Record.toFile options.value = .ok cs) : '\r' ∉ cs := by
  rw [toFile_eq] at hfile
  obtain ⟨lines, hlines, rfl⟩ := Toml.Table.map_eq_ok hfile
  exact (takes_options hlines).noReturn

/-- **Options are read back** from their file. -/
theorem ofFile_toFile {options : Options} {cs : List Char}
    (hfile : Record.toFile options.value = .ok cs) : ofFile cs = .ok options := by
  rw [toFile_eq] at hfile
  obtain ⟨lines, hlines, rfl⟩ := Toml.Table.map_eq_ok hfile
  have hread := Toml.read_of_takes (takes_options hlines)
  have hget : Toml.Table.get? [(SettingsError.optionsTable,
      Toml.Value.table (Record.toTable options.value))] SettingsError.optionsTable =
        some (.table (Record.toTable options.value)) := by
    simp [Toml.Table.get?]
  simp only [ofFile, hread, Toml.State.having, hget, ofValue, ofTable_toTable]

end Options

end SqlDesk
