/-
Settings are read back from the file that is written for them.

The document of settings has each of them under its own path (`find?_toDocument`), so reading the
document gives the settings again (`ofDocument_toDocument`); and the text of the document is read
back as the document (`read_toFile`). Numbers of the editor have to be natural for both, which is all
that reading ever gives (`natural_ofDocument`).
-/
import SqlDesk.Settings.File
import SqlDesk.Proofs.Options.Table
import SqlDesk.Proofs.Toml.File

namespace SqlDesk

/-- No number of the editor is negative. -/
structure EditorSettings.Natural (editor : EditorSettings) : Prop where
  size : 0 ≤ editor.font.size
  tabWidth : 0 ≤ editor.font.tabWidth
  leftMargin : 0 ≤ editor.gutter.leftMargin
  rightMargin : 0 ≤ editor.gutter.rightMargin

namespace Settings

/-! ## Values -/

theorem accepts_value {settings : Settings} (h : settings.editor.Natural) (k : Key) :
    k.accepts (settings.value k) = true := by
  cases k with
  | option f =>
    cases f with
    | count c => exact decide_eq_true (Int.natCast_nonneg (settings.options.count c))
    | _ => rfl
  | fontSize => exact decide_eq_true h.size
  | tabWidth => exact decide_eq_true h.tabWidth
  | leftMargin => exact decide_eq_true h.leftMargin
  | rightMargin => exact decide_eq_true h.rightMargin
  | _ => rfl

theorem isPlain_value {settings : Settings} (h : settings.editor.Natural) (k : Key) :
    (settings.value k).IsPlain := by
  have haccepts := accepts_value h k
  simp only [Key.accepts] at haccepts
  split at haccepts
  · next hvalue => exact hvalue ▸ .string _
  · next n _ hvalue =>
    obtain ⟨m, rfl⟩ := Int.eq_ofNat_of_zero_le (of_decide_eq_true haccepts)
    exact hvalue ▸ .natural m
  · next hvalue => exact hvalue ▸ .boolean _
  · cases haccepts

/-! ## Reading a document -/

theorem subtable_toDocument (settings : Settings) :
    settings.toDocument.subtable SettingsError.optionsTable =
      Record.toTable settings.options.value := rfl

/-- The document has every setting, under its own path. -/
theorem find?_toDocument (settings : Settings) (k : Key) :
    k.find? settings.toDocument = some (settings.value k) := by
  cases k with
  | option f =>
    have hget := Record.get?_toTable settings.options.value f
    rw [← subtable_toDocument] at hget
    exact hget
  | _ => rfl

theorem foldl_set_plain (settings : Settings) (draft : Draft) :
    Key.plain.foldl (fun d k => Draft.set d k (settings.value k)) draft =
      settings.withOptions draft.options := by
  simp only [Key.plain, List.foldl_cons, List.foldl_nil, value, Draft.value, Draft.set, toDraft,
    SettingsWith.withOptions]

/-- **Settings are read back** from their document, with nothing left out. -/
theorem ofDocument_toDocument {settings : Settings} (h : settings.editor.Natural) :
    ofDocument settings.toDocument = (settings, []) := by
  have hoptions := Options.ofTable_toTable false settings.options
  rw [← subtable_toDocument] at hoptions
  have htake : ∀ (ks : List Key) (draft : Draft), ks.foldl (Draft.take settings.toDocument) draft =
      ks.foldl (fun d k => Draft.set d k (settings.value k)) draft := by
    intro ks
    induction ks with
    | nil => exact fun _ => rfl
    | cons k ks ih =>
      intro draft
      rw [List.foldl_cons, List.foldl_cons, ih]
      simp only [Draft.take, find?_toDocument, accepts_value h, if_true]
  have hvalid : Key.plain.filter (·.isInvalid settings.toDocument) = [] := by
    rw [List.filter_eq_nil_iff]
    intro k _
    simp [Key.isInvalid, find?_toDocument, accepts_value h]
  simp only [ofDocument, hoptions, htake, foldl_set_plain, hvalid, List.map_nil, List.append_nil]
  rfl

/-! ## Numbers of the editor -/

theorem natural_factory : factory.editor.Natural :=
  ⟨by decide, by decide, by decide, by decide⟩

theorem natural_set {draft : Draft} (h : draft.editor.Natural) {k : Key} {v : Toml.Value}
    (haccepts : k.accepts v = true) : (Draft.set draft k v).editor.Natural := by
  obtain ⟨hsize, htab, hleft, hright⟩ := h
  cases k with
  | fontSize =>
    cases v with
    | integer n => exact ⟨of_decide_eq_true haccepts, htab, hleft, hright⟩
    | _ => exact ⟨hsize, htab, hleft, hright⟩
  | tabWidth =>
    cases v with
    | integer n => exact ⟨hsize, of_decide_eq_true haccepts, hleft, hright⟩
    | _ => exact ⟨hsize, htab, hleft, hright⟩
  | leftMargin =>
    cases v with
    | integer n => exact ⟨hsize, htab, of_decide_eq_true haccepts, hright⟩
    | _ => exact ⟨hsize, htab, hleft, hright⟩
  | rightMargin =>
    cases v with
    | integer n => exact ⟨hsize, htab, hleft, of_decide_eq_true haccepts⟩
    | _ => exact ⟨hsize, htab, hleft, hright⟩
  | _ => cases v <;> exact ⟨hsize, htab, hleft, hright⟩

theorem natural_ofDocument (document : Toml.Table) : (ofDocument document).1.editor.Natural := by
  have htake : ∀ (ks : List Key) (draft : Draft), draft.editor.Natural →
      (ks.foldl (Draft.take document) draft).editor.Natural := by
    intro ks
    induction ks with
    | nil => exact fun _ h => h
    | cons k ks ih =>
      intro draft h
      refine ih _ ?_
      simp only [Draft.take]
      split
      · split
        · next haccepts => exact natural_set h haccepts
        · exact h
      · exact h
  exact htake _ _ natural_factory

/-! ## The text of the document -/

/-- The entries of a table of the document. -/
def entries (settings : Settings) (keys : List Key) : Toml.Table :=
  keys.map fun k => (k.path.2, settings.value k)

theorem isPlain_entries {settings : Settings} (h : settings.editor.Natural) (keys : List Key) :
    ∀ e ∈ settings.entries keys, e.2.IsPlain := by
  simp only [entries, List.mem_map]
  rintro _ ⟨k, _, rfl⟩
  exact isPlain_value h k

theorem entries_ne_nil (settings : Settings) {keys : List Key} (h : keys ≠ []) :
    settings.entries keys ≠ [] := by
  simpa [entries] using h

theorem addAll_entries (settings : Settings) {keys : List Key}
    (h : (keys.map (·.path.2)).Nodup) :
    Toml.Table.addAll (settings.entries keys) [] = .ok (settings.entries keys) := by
  have hkeys : (settings.entries keys).map (·.1) = keys.map (·.path.2) := by
    simp [entries]
  rw [← hkeys] at h
  exact Toml.Table.addAll_eq h

theorem update_entries (settings : Settings) {keys : List Key} (h : (keys.map (·.path.2)).Nodup)
    {table : Toml.Table} {key : String} (hnew : table.has key = false) :
    table.update true (Toml.Table.addAll (settings.entries keys)) [key] =
      .ok (table ++ [(key, .table (settings.entries keys))]) := by
  rw [Toml.Table.update_new hnew, Toml.Table.update, addAll_entries settings h]
  rfl

/-- The settings of the general table. -/
def generalKeys : List Key := [.sqlExtension, .dialect, .hotkey]

/-- The settings of the table of options. -/
def optionKeys : List Key := Field.all.map .option

/-- The settings of the three tables of the editor. -/
def fontKeys : List Key := [.fontFamily, .fontSize, .tabWidth]

def gutterKeys : List Key := [.leftMargin, .rightMargin]

def colorKeys : List Key :=
  [.keywordColor, .keywordBold, .stringColor, .numberColor, .commentColor]

/-- The tables of the editor, in order. -/
def editorTable (settings : Settings) : Toml.Table :=
  [("font", .table (settings.entries fontKeys)),
    ("line_numbers", .table (settings.entries gutterKeys)),
    ("syntax", .table (settings.entries colorKeys))]

theorem toDocument_eq (settings : Settings) : settings.toDocument =
    [("general", .table (settings.entries generalKeys)),
      (SettingsError.optionsTable, .table (settings.entries optionKeys)),
      ("editor", .table settings.editorTable)] := rfl

theorem takes_editor {settings : Settings} (h : settings.editor.Natural)
    {font gutter colors : List Char}
    (hfont : Toml.entryLines (settings.entries fontKeys) = .ok font)
    (hgutter : Toml.entryLines (settings.entries gutterKeys) = .ok gutter)
    (hcolors : Toml.entryLines (settings.entries colorKeys) = .ok colors) (table : Toml.Table)
    (hnew : table.has "editor" = false) (places : List (List String))
    (hplaces : ∀ next, ["editor", next] ∉ places) :
    ∃ places', Toml.Takes
      (Toml.spaced [Toml.sectionOf ["editor", "font"] font,
        Toml.sectionOf ["editor", "line_numbers"] gutter,
        Toml.sectionOf ["editor", "syntax"] colors])
      (.having table places)
      (.having (table ++ [("editor", .table settings.editorTable)]) places') := by
  have hne : ∀ keys : List Key, keys ≠ [] → settings.entries keys ≠ [] := fun _ =>
    settings.entries_ne_nil
  have hplain := isPlain_entries h
  let font' : String × Toml.Value := ("font", .table (settings.entries fontKeys))
  let gutter' : String × Toml.Value := ("line_numbers", .table (settings.entries gutterKeys))
  have haddFont : table.update true (Toml.Table.addAll (settings.entries fontKeys))
      ["editor", "font"] = .ok (table ++ [("editor", .table [font'])]) := by
    rw [Toml.Table.update_new hnew, settings.update_entries (by decide) rfl]
    rfl
  have haddGutter : Toml.Table.update true (Toml.Table.addAll (settings.entries gutterKeys))
      ["editor", "line_numbers"] (table ++ [("editor", .table [font'])]) =
        .ok (table ++ [("editor", .table [font', gutter'])]) := by
    rw [Toml.Table.update_last hnew, settings.update_entries (by decide) rfl]
    rfl
  have haddColors : Toml.Table.update true (Toml.Table.addAll (settings.entries colorKeys))
      ["editor", "syntax"] (table ++ [("editor", .table [font', gutter'])]) =
        .ok (table ++ [("editor", .table settings.editorTable)]) := by
    rw [Toml.Table.update_last hnew, settings.update_entries (by decide) rfl]
    rfl
  have hheld := Toml.sectionOf_ne_nil
  exact ⟨_,
    .spaced_cons (hheld _ _)
      (Toml.takes_section (hplaces _) (hne _ (by decide)) (hplain _) hfont haddFont) <|
    .spaced_cons (hheld _ _)
      (Toml.takes_section (by simp [hplaces]) (hne _ (by decide)) (hplain _) hgutter haddGutter) <|
    .spaced_singleton (hheld _ _)
      (Toml.takes_section (by simp [hplaces]) (hne _ (by decide)) (hplain _) hcolors haddColors)⟩

/-- **The file of settings is read back** as their document. -/
theorem read_toFile {settings : Settings} (h : settings.editor.Natural) {cs : List Char}
    (hfile : settings.toFile = .ok cs) : Toml.read cs = .ok settings.toDocument := by
  have hplain := isPlain_entries h
  have hne : ∀ keys : List Key, keys ≠ [] → settings.entries keys ≠ [] := fun _ =>
    settings.entries_ne_nil
  rw [toFile, toDocument_eq] at hfile
  obtain ⟨texts, htexts, rfl⟩ := Toml.write_eq_ok (by simp) (by simp [Toml.isSection]) hfile
  -- the sections of the text, in order
  obtain ⟨general, _, hgeneral, hrest, rfl⟩ := Toml.belowTexts_plain_eq_ok
    (Toml.sectionName_nil _) (by simp) (hne _ (by decide)) (hplain generalKeys) htexts
  obtain ⟨options, _, hoptions, heditor, rfl⟩ := Toml.belowTexts_plain_eq_ok
    (Toml.sectionName_nil _) (by simp) (hne _ (by decide)) (hplain optionKeys) hrest
  obtain ⟨below, _, hbelow, hend, rfl⟩ := Toml.belowTexts_sections_eq_ok
    (by simp [editorTable]) (by simp [editorTable, Toml.isSection]) heditor
  obtain rfl := Except.ok.inj hend
  rw [Toml.sectionName_nil] at hbelow
  obtain ⟨font, _, hfont, hbelow₁, rfl⟩ := Toml.belowTexts_plain_eq_ok
    (Toml.sectionName_dotted _ _) (by simp) (hne _ (by decide)) (hplain fontKeys) hbelow
  obtain ⟨gutter, _, hgutter, hbelow₂, rfl⟩ := Toml.belowTexts_plain_eq_ok
    (Toml.sectionName_dotted _ _) (by simp) (hne _ (by decide)) (hplain gutterKeys) hbelow₁
  obtain ⟨colors, _, hcolors, hbelow₃, rfl⟩ := Toml.belowTexts_plain_eq_ok
    (Toml.sectionName_dotted _ _) (by simp) (hne _ (by decide)) (hplain colorKeys) hbelow₂
  obtain rfl := Except.ok.inj hbelow₃
  -- each of them adds its tables to those before
  have haddGeneral : Toml.Table.update true (Toml.Table.addAll (settings.entries generalKeys))
      ["general"] [] = .ok [("general", .table (settings.entries generalKeys))] :=
    settings.update_entries (by decide) rfl
  have haddOptions : Toml.Table.update true (Toml.Table.addAll (settings.entries optionKeys))
      [SettingsError.optionsTable] [("general", .table (settings.entries generalKeys))] =
        .ok [("general", .table (settings.entries generalKeys)),
          (SettingsError.optionsTable, .table (settings.entries optionKeys))] :=
    settings.update_entries (by decide) rfl
  obtain ⟨places, htakes⟩ := takes_editor h hfont hgutter hcolors
    [("general", .table (settings.entries generalKeys)),
      (SettingsError.optionsTable, .table (settings.entries optionKeys))] rfl
    [[SettingsError.optionsTable], ["general"]] (by simp)
  have hheld := Toml.sectionOf_ne_nil
  rw [toDocument_eq]
  exact Toml.read_of_takes <|
    .spaced_cons (hheld _ _)
      (Toml.takes_section (by simp) (hne _ (by decide)) (hplain _) hgeneral haddGeneral) <|
    .spaced_cons (hheld _ _)
      (Toml.takes_section (by decide) (hne _ (by decide)) (hplain _) hoptions haddOptions) <|
    .spaced_singleton (Toml.spaced_ne_nil (hheld _ _) _) htakes

/-- Every number among some settings has at most as many digits as a numeral may have. -/
def Writable (settings : Settings) : Prop :=
  ∀ (k : Key) (n : Nat), settings.value k = .integer n → Text.isWritable n = true

/-- **Writable settings have a file.** -/
theorem toFile_isOk {settings : Settings} (h : settings.editor.Natural)
    (hwritable : settings.Writable) : ∃ cs, settings.toFile = .ok cs := by
  have hvalue : ∀ k, ∃ text, Toml.valueText 0 (settings.value k) = .ok text := by
    intro k
    generalize hk : settings.value k = value
    have hplain := isPlain_value h k
    rw [hk] at hplain
    cases hplain with
    | string text => exact ⟨Toml.escape text.toList, by simp only [Toml.valueText]⟩
    | natural n =>
      exact ⟨Toml.integerText n, by simp only [Toml.valueText, hwritable k n hk, if_true]⟩
    | boolean truth =>
      cases truth with
      | false => exact ⟨"false".toList, by simp only [Toml.valueText]⟩
      | true => exact ⟨"true".toList, by simp only [Toml.valueText]⟩
  have hlines : ∀ keys, ∃ lines, Toml.entryLines (settings.entries keys) = .ok lines := by
    refine fun keys => Toml.entryLines_isOk ?_
    simp only [entries, List.mem_map]
    rintro _ ⟨k, _, rfl⟩
    exact hvalue k
  have hsection : ∀ name keys, ∃ texts,
      Toml.sectionTexts name false (.table (settings.entries keys)) = .ok texts := fun name keys =>
    Toml.sectionTexts_isOk (hlines keys) ⟨_, Toml.belowTexts_plain _ (isPlain_entries h keys)⟩
  have hsections : ∀ e ∈ settings.editorTable, Toml.isSection e.2 = true := by
    simp [editorTable, Toml.isSection]
  have heditor : ∃ texts, Toml.sectionTexts (Toml.sectionName [] "editor") false
      (.table settings.editorTable) = .ok texts := by
    refine Toml.sectionTexts_isOk ⟨_, Toml.entryLines_sections hsections⟩
      (Toml.belowTexts_isOk hsections ?_)
    simp only [editorTable, List.forall_mem_cons, List.not_mem_nil, false_imp_iff, implies_true,
      and_true]
    exact ⟨hsection _ _, hsection _ _, hsection _ _⟩
  have hroot : ∀ e ∈ settings.toDocument, Toml.isSection e.2 = true := by
    simp [toDocument_eq, Toml.isSection]
  obtain ⟨texts, htexts⟩ : ∃ texts,
      Toml.sectionTexts [] false (.table settings.toDocument) = .ok texts := by
    refine Toml.sectionTexts_isOk ⟨_, Toml.entryLines_sections hroot⟩
      (Toml.belowTexts_isOk hroot ?_)
    simp only [toDocument_eq, List.forall_mem_cons, List.not_mem_nil, false_imp_iff, implies_true,
      and_true]
    exact ⟨hsection _ _, hsection _ _, heditor⟩
  exact ⟨texts.flatten, by simp only [toFile, Toml.write, htexts]; rfl⟩

end Settings

end SqlDesk
