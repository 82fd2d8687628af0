/-
Options are read back from the table that is written for them.

Valid options pass their own check (`check_value`), no other record does (`check_eq_ok_iff`), and a
table with their sixteen values gives them back in strict reading as in lenient reading, with nothing
left out (`ofTable_toTable`). The names of the options are distinct, so each value is found under its
own.
-/
import SqlDesk.Options.Nearest
import SqlDesk.Options.Table

namespace SqlDesk

/-! ## Values -/

namespace Options

theorem value_injective {a b : Options} (h : a.value = b.value) : a = b := by
  rw [← Record.nearest_value a, h, Record.nearest_value]

theorem value_set (a b : Options) (f g : Field) :
    (a.set f (b.value f)).value g = if g = f then b.value g else a.value g := by
  cases f <;> cases g <;> simp only [set, value, reduceCtorEq, if_true, if_false, Field.count.injEq,
    Field.toggle.injEq]
  · split
    · next h => rw [h, Int.toNat_natCast]
    · rfl
  · split
    · next h => rw [h]
    · rfl

theorem value_foldl_set (options : Options) (fs : List Field) (start : Options) (g : Field) :
    (fs.foldl (fun o f => o.set f (options.value f)) start).value g =
      if g ∈ fs then options.value g else start.value g := by
  induction fs generalizing start with
  | nil => simp
  | cons f fs ih =>
    rw [List.foldl_cons, ih, value_set]
    by_cases hmem : g ∈ fs
    · simp [hmem]
    · by_cases hf : g = f <;> simp [hmem, hf]

theorem foldl_set_all (options start : Options) :
    Field.all.foldl (fun o f => o.set f (options.value f)) start = options := by
  refine value_injective (funext fun g => ?_)
  rw [value_foldl_set, if_pos (Field.mem_all g)]

end Options

/-- **Valid options pass their own check**, and stand for themselves. -/
theorem Record.check_value (options : Options) : Record.check options.value = .ok options := by
  have hfields : ∀ fs, checkFields options.value fs = .ok () := by
    intro fs
    induction fs with
    | nil => rfl
    | cons f fs ih => simp only [checkFields, Options.check_value, ih]
  simp only [check, hfields, toOptions, Options.foldl_set_all, Except.map]

namespace Record

theorem checkFields_eq_ok_iff {record : Record} {fs : List Field} :
    record.checkFields fs = .ok () ↔ ∀ f ∈ fs, f.check (record f) = .ok () := by
  induction fs with
  | nil => simp [checkFields]
  | cons f fs ih =>
    simp only [checkFields, List.forall_mem_cons, ← ih]
    cases f.check (record f) <;> simp

theorem value_nearest {record : Record} (h : ∀ f : Field, f.check (record f) = .ok ()) :
    record.nearest.value = record := by
  funext f
  have hf := h f
  cases f with
  | indent =>
    simp only [Field.check] at hf
    split at hf
    · next text hvalue => simp [Options.value, nearest, indent?, hvalue]
    · cases hf
  | count c =>
    simp only [Field.check] at hf
    split at hf
    · next n hvalue =>
      split at hf
      · cases hf
      · next hn =>
        obtain ⟨m, rfl⟩ := Int.eq_ofNat_of_zero_le (Int.not_lt.mp hn)
        simp [Options.value, nearest, quantity?, Toml.Value.quantity?, hvalue]
    · cases hf
  | toggle t =>
    simp only [Field.check] at hf
    split at hf
    · next b hvalue =>
      cases b <;>
        simp [Options.value, nearest, isOn, Toml.Value.isOn, Toml.Value.quantity?, hvalue]
    · cases hf

/-- **Just the records of options are valid.** -/
theorem check_eq_ok_iff {record : Record} {options : Options} :
    record.check = .ok options ↔ record = options.value := by
  constructor
  · intro h
    have hfields : record.checkFields Field.all = .ok () := by
      simp only [check] at h
      cases hcheck : record.checkFields Field.all with
      | error e => simp [hcheck, Except.map] at h
      | ok u => rfl
    have hnearest := value_nearest fun f => checkFields_eq_ok_iff.mp hfields f (Field.mem_all f)
    rw [← hnearest, check_value, Except.ok.injEq] at h
    rw [← h, hnearest]
  · rintro rfl
    exact check_value options

end Record

/-! ## Tables -/

theorem Field.name_injective {f g : Field} (h : f.name = g.name) : f = g := by
  have hall : ∀ f ∈ all, ∀ g ∈ all, f.name = g.name → f = g := by decide +kernel
  exact hall f (mem_all f) g (mem_all g) h

theorem Record.get?_toTable (record : Record) (f : Field) :
    Toml.Table.get? record.toTable f.name = some (record f) := by
  have hlookup : ∀ fs : List Field, f ∈ fs →
      List.lookup f.name (fs.map fun g => (g.name, record g)) = some (record f) := by
    intro fs hmem
    induction fs with
    | nil => simp at hmem
    | cons g fs ih =>
      by_cases hname : f.name = g.name
      · obtain rfl := Field.name_injective hname
        simp
      · have hne : (f.name == g.name) = false := by simpa using hname
        have hrest : f ∈ fs := by
          rcases List.mem_cons.mp hmem with rfl | hrest
          · exact absurd rfl hname
          · exact hrest
        simp only [List.map_cons, List.lookup_cons, hne, ih hrest]
  exact hlookup _ (Field.mem_all f)

namespace Options

/-- A table that has every value of some options gives them, however strictly it is read. -/
theorem takeFields_value (strict : Bool) {table : Toml.Table} {options : Options}
    (h : ∀ f, table.get? f.name = some (options.value f)) (fs : List Field) (start : Options) :
    takeFields strict table fs start =
      .ok (fs.foldl (fun o f => o.set f (options.value f)) start) := by
  induction fs generalizing start with
  | nil => rfl
  | cons f fs ih => simp only [takeFields, h, check_value, ih, List.foldl_cons]

theorem unknownKeys_toTable (record : Record) : unknownKeys record.toTable = [] := by
  have hknown : ∀ key ∈ Toml.Table.keys record.toTable, Field.all.any (·.name == key) = true := by
    simp only [Toml.Table.keys, Record.toTable, List.map_map, List.mem_map]
    rintro _ ⟨f, hf, rfl⟩
    exact List.any_eq_true.mpr ⟨f, hf, by simp⟩
  have hnone : (Toml.Table.keys record.toTable).filter
      (fun key => !Field.all.any (·.name == key)) = [] := by
    rw [List.filter_eq_nil_iff]
    intro key hkey
    simp [hknown key hkey]
  rw [unknownKeys, hnone, List.mergeSort_nil]

/-- **Options are read back** from their table, with nothing left out. -/
theorem ofTable_toTable (strict : Bool) (options : Options) :
    ofTable strict (Record.toTable options.value) = .ok (options, []) := by
  have hget := Record.get?_toTable options.value
  have hvalid : invalidFields (Record.toTable options.value) Field.all = [] := by
    rw [invalidFields, List.filter_eq_nil_iff]
    intro f _
    simp [hget, check_value]
  simp only [ofTable, unknownKeys_toTable, takeFields_value strict hget, foldl_set_all, hvalid]
  simp [Except.map]

end Options

end SqlDesk
