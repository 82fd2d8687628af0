/-
The order in which the keys of a table are visited.

A reader that visits the known keys one by one, and checks the whole record again with each value,
has valid options all the time, and no value decides what becomes of another one. So a visit in any
order finds the same options and leaves out the same values (`visit_eq`, `readIn_alike`), and strict
reading accepts just the tables in which every key is known and every value is of its kind
(`readIn_strict`).
-/
import SqlDesk.Proofs.Settings.Document

namespace SqlDesk.Options

/-- The known keys of a table in some order, each once. -/
structure IsOrder (table : Toml.Table) (order : List Field) : Prop where
  nodup : order.Nodup
  mem_iff : ∀ f, f ∈ order ↔ ∃ value, table.get? f.name = some value

/-- Visits keys of a table one by one. A value is taken if the whole record passes its check with
it; otherwise it is an error if `strict`, and else it is left out, with a notice. -/
def visit (strict : Bool) (table : Toml.Table) :
    List Field → Options → Except SettingsError (Options × List Field)
  | [], options => .ok (options, [])
  | f :: fs, options =>
    match table.get? f.name with
    | none => visit strict table fs options
    | some value =>
      match Record.check (Record.set options.value f value) with
      | .ok candidate => visit strict table fs candidate
      | .error e =>
        if strict then .error e
        else (visit strict table fs options).map fun (taken, ignored) => (taken, f :: ignored)

/-- The options that a table gives when its known keys are visited in some order, and the fields
whose values were left out. -/
def readIn (order : List Field) (strict : Bool) (table : Toml.Table) :
    Except SettingsError (Options × List Field) :=
  let unknown := unknownKeys table
  if strict && !unknown.isEmpty then .error (.unsupported unknown)
  else visit strict table order {}

/-- Every key of a table is that of an option. -/
def AllKnown (table : Toml.Table) : Prop :=
  ∀ key ∈ table.keys, ∃ f : Field, f.name = key

/-- Every option that a table has a value for can have it. -/
def AllValid (table : Toml.Table) : Prop :=
  ∀ (f : Field) (value : Toml.Value), table.get? f.name = some value →
    (Key.option f).kind.Has value

/-- Two readings that differ in nothing but which of several errors they give, and in the order of
what they leave out. -/
inductive Alike : Except SettingsError (Options × List Field) →
    Except SettingsError (Options × List Field) → Prop
  | failed (e e' : SettingsError) : Alike (.error e) (.error e')
  | read (options : Options) {ignored ignored' : List Field} (h : ignored.Perm ignored') :
      Alike (.ok (options, ignored)) (.ok (options, ignored'))

/-! ## Keys and values -/

theorem unknownKeys_eq_nil_iff {table : Toml.Table} : unknownKeys table = [] ↔ AllKnown table := by
  have hsort : unknownKeys table = [] ↔
      table.keys.filter (fun key => !Field.all.any (·.name == key)) = [] := by
    rw [unknownKeys, ← List.length_eq_zero_iff, List.length_mergeSort, List.length_eq_zero_iff]
  rw [hsort, List.filter_eq_nil_iff]
  refine forall₂_congr fun key _ => ?_
  simp only [Bool.not_eq_true', Bool.not_eq_false, List.any_eq_true, beq_iff_eq]
  constructor
  · rintro ⟨f, -, hf⟩
    exact ⟨f, hf⟩
  · rintro ⟨f, hf⟩
    exact ⟨f, Field.mem_all f, hf⟩

/-- Whether a table has a value for an option that it cannot have. -/
def leavesOut (table : Toml.Table) (f : Field) : Bool :=
  match table.get? f.name with
  | none => false
  | some value =>
    match f.check value with
    | .ok () => false
    | .error _ => true

theorem invalidFields_cons (table : Toml.Table) (f : Field) (fs : List Field) :
    invalidFields table (f :: fs) =
      if leavesOut table f then f :: invalidFields table fs else invalidFields table fs :=
  List.filter_cons

theorem leavesOut_eq_false_iff {table : Toml.Table} {f : Field} : leavesOut table f = false ↔
    ∀ value, table.get? f.name = some value → (Key.option f).kind.Has value := by
  unfold leavesOut
  cases table.get? f.name with
  | none => simp
  | some value =>
    simp only [Option.some.injEq, forall_eq', ← Key.accepts_iff, ← Field.check_eq_ok_iff]
    cases f.check value <;> simp

theorem invalidFields_eq_nil_iff {table : Toml.Table} {order : List Field}
    (h : IsOrder table order) : invalidFields table order = [] ↔ AllValid table := by
  have hnone : invalidFields table order = [] ↔ ∀ f ∈ order, leavesOut table f = false := by
    simp only [← Bool.not_eq_true]
    exact List.filter_eq_nil_iff
  simp only [hnone, leavesOut_eq_false_iff, h.mem_iff]
  exact ⟨fun hvalid f value hvalue => hvalid f ⟨value, hvalue⟩ value hvalue,
    fun hvalid f _ value hvalue => hvalid f value hvalue⟩

theorem IsOrder.perm {table : Toml.Table} {order order' : List Field} (h : IsOrder table order)
    (h' : IsOrder table order') : order.Perm order' :=
  (List.perm_ext_iff_of_nodup h.nodup h'.nodup).mpr fun f => (h.mem_iff f).trans (h'.mem_iff f).symm

theorem isOrder_filter (table : Toml.Table) :
    IsOrder table (Field.all.filter fun f => (table.get? f.name).isSome) where
  nodup := List.Pairwise.filter _ (show Field.all.Nodup by decide)
  mem_iff f := by
    rw [List.mem_filter, Option.isSome_iff_exists]
    exact and_iff_right (Field.mem_all f)

/-! ## One visit -/

/-- A visit takes what field by field reading takes, and leaves out the values that their fields
cannot have. -/
theorem visit_eq (strict : Bool) (table : Toml.Table) (order : List Field) (start : Options) :
    visit strict table order start =
      (takeFields strict table order start).map (·, invalidFields table order) := by
  induction order generalizing start with
  | nil => rfl
  | cons f fs ih =>
    simp only [visit, takeFields, check_set, invalidFields_cons]
    cases hvalue : table.get? f.name with
    | none =>
      simp only [leavesOut, hvalue]
      exact ih start
    | some value =>
      cases hcheck : f.check value with
      | ok _ =>
        simp only [leavesOut, hvalue, hcheck, Except.map]
        exact ih _
      | error e =>
        simp only [leavesOut, hvalue, hcheck, Except.map, ih start]
        cases strict with
        | true => rfl
        | false => cases takeFields false table fs start <;> rfl

/-- Without a value to leave out, strict reading takes what lenient reading takes. -/
theorem takeFields_of_valid {table : Toml.Table} {order : List Field}
    (h : invalidFields table order = []) (strict : Bool) (start : Options) :
    takeFields strict table order start = takeFields false table order start := by
  induction order generalizing start with
  | nil => rfl
  | cons f fs ih =>
    rw [invalidFields_cons] at h
    cases hout : leavesOut table f with
    | true => simp [hout] at h
    | false =>
      rw [hout, if_neg Bool.false_ne_true] at h
      simp only [takeFields, ih h]
      split
      · rfl
      · next value hvalue =>
        split
        · rfl
        · next hcheck => simp [leavesOut, hvalue, hcheck] at hout

theorem takeFields_of_invalid {table : Toml.Table} {order : List Field}
    (h : invalidFields table order ≠ []) (start : Options) :
    ∃ e, takeFields true table order start = .error e := by
  induction order generalizing start with
  | nil => exact absurd rfl h
  | cons f fs ih =>
    rw [invalidFields_cons] at h
    simp only [takeFields, if_true]
    cases hvalue : table.get? f.name with
    | none =>
      have hout : leavesOut table f = false := by simp only [leavesOut, hvalue]
      rw [hout, if_neg Bool.false_ne_true] at h
      exact ih h start
    | some value =>
      cases hcheck : f.check value with
      | ok _ =>
        have hout : leavesOut table f = false := by simp only [leavesOut, hvalue, hcheck]
        rw [hout, if_neg Bool.false_ne_true] at h
        simp only [hcheck]
        exact ih h _
      | error e => exact ⟨e, by simp only [hcheck]⟩

/-- Lenient reading finds each option under its own name, in whatever order it looks. -/
theorem takeFields_order {table : Toml.Table} {order : List Field} (h : IsOrder table order) :
    ∃ options, takeFields false table order {} = .ok options ∧
      ∀ f, options.value f =
        (Key.option f).readFrom [(SettingsError.optionsTable, .table table)]
          (value {} f) := by
  have hsubtable : Toml.Table.subtable [(SettingsError.optionsTable, .table table)]
      SettingsError.optionsTable = table := by
    simp [Toml.Table.subtable, Toml.Table.get?]
  obtain ⟨options, htake, hvalue⟩ :=
    takeFields_lenient [(SettingsError.optionsTable, .table table)] h.nodup {}
  rw [hsubtable] at htake
  refine ⟨options, htake, fun f => ?_⟩
  rw [hvalue]
  split
  · rfl
  · next hf =>
    have hnone : table.get? f.name = none := by
      rw [Option.eq_none_iff_forall_not_mem]
      exact fun value hmem => hf ((h.mem_iff f).mpr ⟨value, hmem⟩)
    rw [Key.readFrom, find?_option, hsubtable, hnone]

theorem visit_filter (strict : Bool) (table : Toml.Table) (fs : List Field) (start : Options) :
    visit strict table (fs.filter fun f => (table.get? f.name).isSome) start =
      visit strict table fs start := by
  induction fs generalizing start with
  | nil => rfl
  | cons f fs ih =>
    rw [List.filter_cons]
    cases hvalue : table.get? f.name with
    | none => simp only [Option.isSome_none, Bool.false_eq_true, if_false, visit, hvalue, ih]
    | some value => simp only [Option.isSome_some, if_true, visit, hvalue, ih]

/-- Reading a table is a visit of its known keys, in the order of a file. -/
theorem ofTable_eq_readIn (strict : Bool) (table : Toml.Table) : ofTable strict table =
    readIn (Field.all.filter fun f => (table.get? f.name).isSome) strict table := by
  simp only [ofTable, readIn, visit_filter]
  rw [visit_eq]

/-! ## Two visits -/

/-- **A visit in another order reads the same.** -/
theorem readIn_alike {table : Toml.Table} {order order' : List Field} (h : IsOrder table order)
    (h' : IsOrder table order') (strict : Bool) :
    Alike (readIn order strict table) (readIn order' strict table) := by
  have hignored : (invalidFields table order).Perm (invalidFields table order') :=
    (h.perm h').filter _
  obtain ⟨options, htake, hvalue⟩ := takeFields_order h
  obtain ⟨options', htake', hvalue'⟩ := takeFields_order h'
  obtain rfl : options = options' :=
    value_injective (funext fun f => (hvalue f).trans (hvalue' f).symm)
  simp only [readIn, visit_eq]
  split
  · exact .failed _ _
  · by_cases hvalid : invalidFields table order = []
    · have hvalid' : invalidFields table order' = [] := by
        rw [hvalid] at hignored
        exact hignored.nil_eq.symm
      rw [takeFields_of_valid hvalid, takeFields_of_valid hvalid', htake, htake']
      exact .read options hignored
    · have hvalid' : invalidFields table order' ≠ [] := by
        intro hnil
        rw [hnil] at hignored
        exact hvalid hignored.eq_nil
      cases strict with
      | false =>
        rw [htake, htake']
        exact .read options hignored
      | true =>
        obtain ⟨e, he⟩ := takeFields_of_invalid hvalid {}
        obtain ⟨e', he'⟩ := takeFields_of_invalid hvalid' {}
        rw [he, he']
        exact .failed e e'

/-- **What strict reading accepts**: every key known and every value of its kind. Lenient reading
then gives the same options and leaves nothing out. -/
theorem readIn_strict {table : Toml.Table} {order : List Field} (h : IsOrder table order) :
    (∀ reading, readIn order true table = .ok reading →
      reading.2 = [] ∧ readIn order false table = .ok reading) ∧
    ((∃ reading, readIn order true table = .ok reading) ↔ AllKnown table ∧ AllValid table) := by
  obtain ⟨options, htake, -⟩ := takeFields_order h
  have hlenient : readIn order false table = .ok (options, invalidFields table order) := by
    simp only [readIn, visit_eq, htake, Bool.false_and, Bool.false_eq_true, if_false]
    rfl
  rw [← unknownKeys_eq_nil_iff, ← invalidFields_eq_nil_iff h]
  by_cases hknown : unknownKeys table = []
  · by_cases hvalid : invalidFields table order = []
    · have hstrict : readIn order true table = .ok (options, []) := by
        simp [readIn, visit_eq, hknown, takeFields_of_valid hvalid, htake, hvalid, Except.map]
      refine ⟨fun reading hreading => ?_, fun _ => ⟨hknown, hvalid⟩, fun _ => ⟨_, hstrict⟩⟩
      rw [hstrict] at hreading
      cases hreading
      rw [hlenient, hvalid]
      exact ⟨rfl, rfl⟩
    · obtain ⟨e, he⟩ := takeFields_of_invalid hvalid {}
      have hstrict : readIn order true table = .error e := by
        simp [readIn, visit_eq, hknown, he, Except.map]
      rw [hstrict]
      exact ⟨nofun, nofun, fun hboth => absurd hboth.2 hvalid⟩
  · have hstrict : readIn order true table = .error (.unsupported (unknownKeys table)) := by
      simp [readIn, hknown]
    rw [hstrict]
    exact ⟨nofun, nofun, fun hboth => absurd hboth.1 hknown⟩

/-- **A record is read back from its table just if it is valid.** -/
theorem readIn_toTable {record : Record} {order : List Field} (h : IsOrder record.toTable order)
    {options : Options} {ignored : List Field} :
    readIn order true record.toTable = .ok (options, ignored) ↔
      record.check = .ok options ∧ ignored = [] := by
  have hvalid : ∀ options : Options, record.check = .ok options →
      readIn order true record.toTable = .ok (options, []) := by
    intro options hcheck
    obtain rfl := Record.check_eq_ok_iff.mp hcheck
    have halike := readIn_alike h (isOrder_filter _) true
    rw [← ofTable_eq_readIn, ofTable_toTable] at halike
    generalize hreading : readIn order true (Record.toTable options.value) = reading at halike
    cases halike with
    | read _ hignored => rw [hignored.eq_nil]
  constructor
  · intro hreading
    obtain ⟨-, hkinds⟩ := (readIn_strict h).2.mp ⟨_, hreading⟩
    have hfields : ∀ f : Field, f.check (record f) = .ok () := fun f =>
      Field.check_eq_ok_iff.mpr (Key.accepts_iff.mpr (hkinds f _ (Record.get?_toTable record f)))
    have hcheck : record.check = .ok record.nearest :=
      Record.check_eq_ok_iff.mpr (Record.value_nearest hfields).symm
    rw [hvalid _ hcheck] at hreading
    cases hreading
    exact ⟨hcheck, rfl⟩
  · rintro ⟨hcheck, rfl⟩
    exact hvalid options hcheck

/-- **The order in which keys are visited does not matter.** Reading is a visit in one order, and in
every other one it fails or succeeds with it, finds the same options and leaves out as many values.
Strict reading succeeds just if every key is known and every value is of its kind, and lenient
reading then gives the same and leaves nothing out. A record is read from its own table just if it is
valid, and it is what is read. -/
theorem ofTable_visits :
    (∀ table : Toml.Table,
      (∃ order, IsOrder table order ∧
        ∀ strict, ofTable strict table = readIn order strict table) ∧
      (∀ (strict : Bool) (order order' : List Field), IsOrder table order →
        IsOrder table order' → Alike (readIn order strict table) (readIn order' strict table)) ∧
      ∀ order, IsOrder table order →
        ((∃ reading, readIn order true table = .ok reading) ↔ AllKnown table ∧ AllValid table) ∧
        ∀ reading, readIn order true table = .ok reading →
          reading.2 = [] ∧ readIn order false table = .ok reading) ∧
    ∀ (record : Record) (order : List Field), IsOrder record.toTable order →
      ((∃ reading, readIn order true record.toTable = .ok reading) ↔
        ∃ options, record.check = .ok options) ∧
      ∀ reading, readIn order true record.toTable = .ok reading → reading.1.value = record := by
  refine ⟨fun table => ⟨⟨_, isOrder_filter table, fun strict => ofTable_eq_readIn strict table⟩,
    fun strict order order' h h' => readIn_alike h h' strict,
    fun order h => ⟨(readIn_strict h).2, (readIn_strict h).1⟩⟩, fun record order h => ⟨?_, ?_⟩⟩
  · constructor
    · rintro ⟨⟨options, ignored⟩, hreading⟩
      exact ⟨options, (readIn_toTable h |>.mp hreading).1⟩
    · rintro ⟨options, hcheck⟩
      exact ⟨(options, []), (readIn_toTable h).mpr ⟨hcheck, rfl⟩⟩
  · rintro ⟨options, ignored⟩ hreading
    have hcheck := ((readIn_toTable h).mp hreading).1
    exact (Record.check_eq_ok_iff.mp hcheck).symm

end SqlDesk.Options
