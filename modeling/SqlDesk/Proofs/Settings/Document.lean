/-
What a document gives for each setting.

A setting has a place in the document: the tables on the way and its key. A value of its kind that
stands there is taken, and anything else gives what the setting is at first (`value_ofDocument`). So
nothing that is done to a document elsewhere changes the setting, and the settings of which a notice
is given are just those with another value at their place (`ofDocument_snd`).
-/
import SqlDesk.Proofs.Settings.File
import SqlDesk.Proofs.Toml.Edit

namespace SqlDesk

/-! ## Values of a kind -/

/-- The values of a kind: the texts, the natural numbers, the truth values. -/
inductive Kind.Has : Kind → Toml.Value → Prop
  | text (text : String) : Has .text (.string text)
  | number (number : Nat) : Has .number (.integer number)
  | truth (truth : Bool) : Has .truth (.boolean truth)

namespace Key

theorem accepts_iff {k : Key} {value : Toml.Value} :
    k.accepts value = true ↔ k.kind.Has value := by
  constructor
  · intro h
    simp only [accepts] at h
    split at h
    · next hkind => exact hkind ▸ .text _
    · next n hkind =>
      obtain ⟨m, rfl⟩ := Int.eq_ofNat_of_zero_le (of_decide_eq_true h)
      exact hkind ▸ .number m
    · next hkind => exact hkind ▸ .truth _
    · cases h
  · intro h
    generalize hkind : k.kind = kind at h
    cases h with
    | number n => simp [accepts, hkind]
    | _ => simp only [accepts, hkind]

/-- What a document gives for a setting that is otherwise as it is at first. -/
def readFrom (k : Key) (document : Toml.Table) (atFirst : Toml.Value) : Toml.Value :=
  match k.find? document with
  | some value => if k.accepts value then value else atFirst
  | none => atFirst

end Key

/-! ## The settings beside the options -/

namespace Draft

/-- A value of its kind that is set at a setting is found there, and nowhere else. -/
theorem value_set {k : Key} {value : Toml.Value} (h : k.accepts value = true) (draft : Draft)
    (j : Key) : (Draft.set draft k value).value j = if j = k then value else draft.value j := by
  cases k with
  | option f =>
    cases j with
    | option g =>
      simp only [Draft.set, Draft.value, Record.set, Key.option.injEq]
    | _ => rfl
  | _ =>
    cases Key.accepts_iff.mp h
    cases j <;> rfl

theorem value_take (document : Toml.Table) (draft : Draft) (k j : Key) :
    (Draft.take document draft k).value j =
      if j = k then j.readFrom document (draft.value j) else draft.value j := by
  cases hfind : k.find? document with
  | none =>
    simp only [take, hfind]
    split
    · next hjk => simp only [hjk, Key.readFrom, hfind]
    · rfl
  | some value =>
    by_cases haccepts : k.accepts value = true
    · simp only [take, hfind, if_pos haccepts, value_set haccepts]
      split
      · next hjk => simp only [hjk, Key.readFrom, hfind, if_pos haccepts]
      · rfl
    · simp only [take, hfind, if_neg haccepts]
      split
      · next hjk => simp only [hjk, Key.readFrom, hfind, if_neg haccepts]
      · rfl

/-- Settings that are taken one after the other do not disturb each other. -/
theorem value_foldl_take (document : Toml.Table) {ks : List Key} (hks : ks.Nodup) (draft : Draft)
    (j : Key) : (ks.foldl (Draft.take document) draft).value j =
      if j ∈ ks then j.readFrom document (draft.value j) else draft.value j := by
  induction ks generalizing draft with
  | nil => simp
  | cons k ks ih =>
    obtain ⟨hk, hks⟩ := List.nodup_cons.mp hks
    rw [List.foldl_cons, ih hks, value_take]
    by_cases hjk : j = k
    · subst hjk
      simp [hk]
    · simp [hjk]

end Draft

/-! ## The options -/

namespace Field

theorem check_eq_ok_iff {f : Field} {value : Toml.Value} :
    f.check value = .ok () ↔ (Key.option f).accepts value = true := by
  cases f <;> cases value <;> simp [check, Key.accepts, Key.kind]

theorem not_accepts_of_check {f : Field} {value : Toml.Value} {e : SettingsError}
    (h : f.check value = .error e) : (Key.option f).accepts value = false := by
  rw [← Bool.not_eq_true, ← check_eq_ok_iff, h]
  exact nofun

end Field

namespace Options

theorem value_set_of_check {f : Field} {value : Toml.Value} (h : f.check value = .ok ())
    (options : Options) (g : Field) :
    (options.set f value).value g = if g = f then value else options.value g := by
  have hhas := Key.accepts_iff.mp (Field.check_eq_ok_iff.mp h)
  -- options that have the value at the field already
  obtain ⟨there, rfl⟩ : ∃ there : Options, there.value f = value := by
    cases f with
    | indent => cases hhas with | text s => exact ⟨{ options with indent := s }, rfl⟩
    | count c => cases hhas with | number n => exact ⟨{ options with count := fun _ => n }, rfl⟩
    | toggle t => cases hhas with | truth b => exact ⟨{ options with toggle := fun _ => b }, rfl⟩
  rw [value_set]
  split
  · next hgf => rw [hgf]
  · rfl

/-- Valid options with another value at one field are valid as a whole if the value is, and refused
as it is if it is not. -/
theorem check_set (options : Options) (f : Field) (value : Toml.Value) :
    Record.check (Record.set options.value f value) =
      (f.check value).map fun _ => options.set f value := by
  cases hcheck : f.check value with
  | ok _ =>
    have hset : Record.set options.value f value = (options.set f value).value :=
      funext fun g => (value_set_of_check hcheck options g).symm
    rw [hset, Record.check_value]
    rfl
  | error e =>
    have hfields : ∀ fs, Record.checkFields (Record.set options.value f value) fs =
        if f ∈ fs then .error e else .ok () := by
      intro fs
      induction fs with
      | nil => rfl
      | cons g fs ih =>
        simp only [Record.checkFields, Record.set]
        by_cases hgf : g = f
        · subst hgf
          simp [hcheck]
        · simp only [if_neg hgf, check_value]
          rw [ih]
          simp [Ne.symm hgf]
    rw [Record.check, hfields, if_pos (Field.mem_all f)]
    rfl

theorem find?_option (f : Field) (document : Toml.Table) :
    (Key.option f).find? document =
      (document.subtable SettingsError.optionsTable).get? f.name := rfl

theorem takeFields_cons (document : Toml.Table) (f : Field) (fs : List Field) (start : Options) :
    ∃ next : Options,
      takeFields false (document.subtable SettingsError.optionsTable) (f :: fs) start =
        takeFields false (document.subtable SettingsError.optionsTable) fs next ∧
      ∀ g, next.value g =
        if g = f then (Key.option g).readFrom document (start.value g) else start.value g := by
  cases hfind : (document.subtable SettingsError.optionsTable).get? f.name with
  | none =>
    refine ⟨start, by simp only [takeFields, hfind], fun g => ?_⟩
    split
    · next hgf => simp only [hgf, Key.readFrom, find?_option, hfind]
    · rfl
  | some value =>
    cases hcheck : f.check value with
    | ok _ =>
      refine ⟨start.set f value, by simp only [takeFields, hfind, hcheck], fun g => ?_⟩
      rw [value_set_of_check hcheck]
      split
      · next hgf =>
        simp only [hgf, Key.readFrom, find?_option, hfind, Field.check_eq_ok_iff.mp hcheck, if_true]
      · rfl
    | error e =>
      have hrefused := Field.not_accepts_of_check hcheck
      refine ⟨start, by simp [takeFields, hfind, hcheck], fun g => ?_⟩
      split
      · next hgf => simp [hgf, Key.readFrom, find?_option, hfind, hrefused]
      · rfl

/-- Lenient reading never fails, and options that are taken one after the other do not disturb each
other. -/
theorem takeFields_lenient (document : Toml.Table) {fs : List Field} (hfs : fs.Nodup)
    (start : Options) : ∃ options,
      takeFields false (document.subtable SettingsError.optionsTable) fs start = .ok options ∧
      ∀ g, options.value g = if g ∈ fs then (Key.option g).readFrom document (start.value g)
        else start.value g := by
  induction fs generalizing start with
  | nil => exact ⟨start, rfl, fun g => by simp⟩
  | cons f fs ih =>
    obtain ⟨hf, hfs⟩ := List.nodup_cons.mp hfs
    obtain ⟨next, htake, hnext⟩ := takeFields_cons document f fs start
    obtain ⟨options, hoptions, hvalue⟩ := ih hfs next
    refine ⟨options, htake.trans hoptions, fun g => ?_⟩
    rw [hvalue, hnext]
    by_cases hgf : g = f
    · subst hgf
      simp [hf]
    · simp [hgf]

end Options

/-! ## The whole document -/

namespace Key

theorem nodup_plain : plain.Nodup := by decide

theorem nodup_all : all.Nodup := by decide +kernel

theorem isInvalid_iff {k : Key} {document : Toml.Table} :
    k.isInvalid document = true ↔ ∃ value, k.find? document = some value ∧ ¬ k.kind.Has value := by
  unfold isInvalid
  cases k.find? document with
  | none => simp
  | some value => simp [← accepts_iff]

/-- Where a setting stands in a document. -/
def place (k : Key) : List String :=
  k.path.1 ++ [k.path.2]

/-- No two settings stand in each other's way. -/
theorem apart_place {k j : Key} (h : k ≠ j) : Toml.Table.Apart k.place j.place := by
  have hall : ∀ k ∈ all, ∀ j ∈ all, k.place <+: j.place → k = j := by decide +kernel
  exact ⟨fun hprefix => h (hall k (mem_all k) j (mem_all j) hprefix),
    fun hprefix => h (hall j (mem_all j) k (mem_all k) hprefix).symm⟩

end Key

namespace Settings

theorem ext_value {a b : Settings} (h : ∀ k : Key, a.value k = b.value k) : a = b := by
  have hoptions : a.options = b.options :=
    Options.value_injective (funext fun f => h (.option f))
  obtain ⟨_, _, _, _, ⟨_, _, _⟩, ⟨_, _⟩, ⟨_, _, _, _, _⟩⟩ := a
  obtain ⟨_, _, _, _, ⟨_, _, _⟩, ⟨_, _⟩, ⟨_, _, _, _, _⟩⟩ := b
  obtain rfl := hoptions
  obtain rfl := Toml.Value.string.inj (h .sqlExtension)
  obtain rfl := Toml.Value.string.inj (h .dialect)
  obtain rfl := Toml.Value.string.inj (h .hotkey)
  obtain rfl := Toml.Value.string.inj (h .fontFamily)
  obtain rfl := Toml.Value.integer.inj (h .fontSize)
  obtain rfl := Toml.Value.integer.inj (h .tabWidth)
  obtain rfl := Toml.Value.integer.inj (h .leftMargin)
  obtain rfl := Toml.Value.integer.inj (h .rightMargin)
  obtain rfl := Toml.Value.string.inj (h .keywordColor)
  obtain rfl := Toml.Value.boolean.inj (h .keywordBold)
  obtain rfl := Toml.Value.string.inj (h .stringColor)
  obtain rfl := Toml.Value.string.inj (h .numberColor)
  obtain rfl := Toml.Value.string.inj (h .commentColor)
  rfl

/-- The settings of a document are those beside the options, with the options that lenient reading
takes. -/
theorem ofDocument_eq (document : Toml.Table) : ∃ options,
    (∀ f, options.value f = (Key.option f).readFrom document (factory.options.value f)) ∧
      (ofDocument document).1 =
        (Key.plain.foldl (Draft.take document) factory.toDraft).withOptions options ∧
      (ofDocument document).2 = Key.plain.filter (·.isInvalid document) ++
        (Options.invalidFields (document.subtable SettingsError.optionsTable) Field.all).map
          .option := by
  have hnodup : Field.all.Nodup := by decide
  obtain ⟨options, htake, hvalue⟩ := Options.takeFields_lenient document hnodup {}
  have hread : Options.ofTable false (document.subtable SettingsError.optionsTable) =
      .ok (options,
        Options.invalidFields (document.subtable SettingsError.optionsTable) Field.all) := by
    simp only [Options.ofTable, htake]
    rfl
  refine ⟨options, fun f => ?_, ?_, ?_⟩
  · rw [hvalue, if_pos (Field.mem_all f)]
    rfl
  · simp only [ofDocument, hread]
  · simp only [ofDocument, hread]

theorem value_withOptions {k : Key} (h : k ∈ Key.plain) (draft : Draft) (options : Options) :
    value (draft.withOptions options) k = draft.value k := by
  cases k with
  | option f => simp [Key.plain] at h
  | _ => rfl

/-- **Each setting is read from its own place.** -/
theorem value_ofDocument (document : Toml.Table) (k : Key) :
    (ofDocument document).1.value k = k.readFrom document (factory.value k) := by
  obtain ⟨options, hvalue, hsettings, -⟩ := ofDocument_eq document
  rw [hsettings]
  cases k with
  | option f => exact hvalue f
  | _ =>
    rw [value_withOptions (by decide), Draft.value_foldl_take document Key.nodup_plain,
      if_pos (by decide)]
    rfl

/-- **A notice is given of each setting with a value that it cannot have.** -/
theorem ofDocument_snd (document : Toml.Table) :
    (ofDocument document).2 = Key.all.filter (·.isInvalid document) := by
  obtain ⟨options, -, -, hnotices⟩ := ofDocument_eq document
  rw [hnotices, Key.all, List.filter_append, List.filter_map]
  refine congrArg (_ ++ List.map _ ·) (List.filter_congr fun f _ => ?_)
  simp only [Function.comp, Key.isInvalid, Options.find?_option]
  cases (document.subtable SettingsError.optionsTable).get? f.name with
  | none => rfl
  | some value =>
    cases hcheck : f.check value with
    | ok _ => simp [hcheck, Field.check_eq_ok_iff.mp hcheck]
    | error e => simp [hcheck, Field.not_accepts_of_check hcheck]

/-- **Every setting has its own place in a document.** A value of its kind at this place is what the
setting is, and without one it is as at first. Whatever is changed, added or removed apart from the
place, the places of the other settings among it, is no matter for the setting; and a document with
the same values at all places gives the same. A notice is given once for each setting at whose place
there is a value of another kind, and for nothing else. -/
theorem ofDocument_places (document : Toml.Table) :
    (∀ k : Key,
      (∀ value, k.find? document = some value → k.kind.Has value →
        (ofDocument document).1.value k = value) ∧
      ((∀ value, k.find? document = some value → ¬ k.kind.Has value) →
        (ofDocument document).1.value k = factory.value k)) ∧
    (∀ (k : Key) (edits : List (List String × Option Toml.Value)),
      (∀ e ∈ edits, Toml.Table.Apart e.1 k.place) →
        (ofDocument (Toml.Table.editAll edits document)).1.value k =
          (ofDocument document).1.value k) ∧
    (∀ k j : Key, k ≠ j → Toml.Table.Apart k.place j.place) ∧
    (∀ other : Toml.Table, (∀ k : Key, k.find? other = k.find? document) →
      ofDocument other = ofDocument document) ∧
    (ofDocument document).2.Nodup ∧
    ∀ k, k ∈ (ofDocument document).2 ↔
      ∃ value, k.find? document = some value ∧ ¬ k.kind.Has value := by
  refine ⟨fun k => ⟨fun value hfind hhas => ?_, fun hnone => ?_⟩, fun k edits hapart => ?_,
    fun k j => Key.apart_place, fun other hsame => ?_, ?_, fun k => ?_⟩
  · simp only [value_ofDocument, Key.readFrom, hfind, Key.accepts_iff.mpr hhas, if_true]
  · rw [value_ofDocument, Key.readFrom]
    split
    · next value hfind => rw [if_neg (mt Key.accepts_iff.mp (hnone value hfind))]
    · rfl
  · have hfind : k.find? (Toml.Table.editAll edits document) = k.find? document :=
      Toml.Table.get?_editAll hapart document
    rw [value_ofDocument, value_ofDocument, Key.readFrom, hfind, Key.readFrom]
  · refine Prod.ext (ext_value fun k => ?_) ?_
    · rw [value_ofDocument, value_ofDocument, Key.readFrom, hsame, Key.readFrom]
    · simp only [ofDocument_snd, Key.isInvalid, hsame]
  · rw [ofDocument_snd]
    exact Key.nodup_all.filter _
  · rw [ofDocument_snd, List.mem_filter, Key.isInvalid_iff]
    exact and_iff_right (Key.mem_all k)

end Settings

end SqlDesk
