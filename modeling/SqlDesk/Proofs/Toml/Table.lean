/-
Setting entries of tables, and changing the table at the end of a path.

What `set` puts at a key is found there (`get?_set`), and changing one table twice is changing it
once by both changes (`update_bind`). So the lines below a header can be taken one after the other,
though each of them starts again at the outermost table.
-/
import SqlDesk.Toml.Reader

namespace SqlDesk.Toml.Table

/-! ## Entries -/

theorem has_iff {table : Table} {key : String} :
    table.has key = true ↔ key ∈ table.map (·.1) := by
  simp only [has, get?, List.lookup_isSome_iff, beq_iff_eq, List.mem_map]
  constructor
  · rintro ⟨e, he, rfl⟩
    exact ⟨e, he, rfl⟩
  · rintro ⟨e, he, rfl⟩
    exact ⟨e, he, rfl⟩

theorem get?_set (table : Table) (key : String) (value : Value) :
    (table.set key value).get? key = some value := by
  simp only [set]
  split
  · next hhas =>
    rw [has_iff] at hhas
    induction table with
    | nil => simp at hhas
    | cons e table ih =>
      obtain ⟨key', old⟩ := e
      by_cases he : key' = key
      · simp [get?, he]
      · have hmem : key ∈ table.map (·.1) := by simpa [Ne.symm he] using hhas
        have hne : (key == key') = false := by simpa using Ne.symm he
        have hne' : (key' == key) = false := by simpa using he
        simp only [get?, List.map_cons, hne', Bool.false_eq_true, if_false, List.lookup_cons, hne]
          at ih ⊢
        exact ih hmem
  · next hhas =>
    have hnone : List.lookup key table = none := by
      rw [has, Bool.not_eq_true, Option.isSome_eq_false_iff, Option.isNone_iff_eq_none] at hhas
      exact hhas
    simp [get?, List.lookup_append, hnone]

theorem set_set (table : Table) (key : String) (value value' : Value) :
    (table.set key value).set key value' = table.set key value' := by
  have hhas : (table.set key value).has key = true := by simp [has, get?_set]
  rw [set, if_pos hhas]
  simp only [set]
  split
  · rw [List.map_map]
    refine List.map_congr_left fun e _ => ?_
    by_cases he : e.1 = key <;> simp [he]
  · next hnot =>
    rw [Bool.not_eq_true] at hnot
    have hkeep : table.map (fun e => if e.1 == key then (key, value') else e) = table := by
      refine (List.map_congr_left fun e he => ?_).trans (List.map_id table)
      have hne : e.1 ≠ key := by
        rintro rfl
        have := has_iff.mpr (List.mem_map_of_mem he)
        rw [hnot] at this
        cases this
      simp [hne]
    rw [List.map_append, hkeep]
    simp

/-- Takes entries in order, all of them under new keys. -/
def addAll : Table → Table → Except Flaw Table
  | [], table => .ok table
  | e :: entries, table => (add e.1 e.2 table).bind (addAll entries)

/-- Entries under new keys stand at the end of the table. -/
theorem addAll_eq {entries table : Table} (h : ((table ++ entries).map (·.1)).Nodup) :
    addAll entries table = .ok (table ++ entries) := by
  induction entries generalizing table with
  | nil => simp [addAll]
  | cons e entries ih =>
    have hnew : table.has e.1 = false := by
      rw [← Bool.not_eq_true, has_iff]
      rw [List.map_append, List.nodup_append] at h
      exact fun hmem => h.2.2 _ hmem _ (List.mem_map_of_mem List.mem_cons_self) rfl
    have hadd : add e.1 e.2 table = .ok (table ++ [e]) := by simp [add, set, hnew]
    rw [addAll, hadd]
    have hassoc : table ++ [e] ++ entries = table ++ e :: entries := by simp
    rw [← hassoc] at h ⊢
    exact ih h

/-! ## Changes at the end of a path -/

theorem map_eq_ok {ε α β : Type} {f : α → β} {r : Except ε α} {b : β} (h : r.map f = .ok b) :
    ∃ a, r = .ok a ∧ f a = b := by
  cases r with
  | error e => cases h
  | ok a => exact ⟨a, rfl, by simpa [Except.map] using h⟩

theorem update_new {items : Bool} {change : Table → Except Flaw Table} {key : String}
    {path : List String} {table : Table} (h : table.has key = false) :
    table.update items change (key :: path) =
      (Table.update items change path []).map fun inner => table ++ [(key, .table inner)] := by
  have hget : table.get? key = none := by simpa [has] using h
  simp only [update, hget, set, h, Bool.false_eq_true, if_false]

theorem update_last {items : Bool} {change : Table → Except Flaw Table} {key : String}
    {path : List String} {table inner : Table} (h : table.has key = false) :
    Table.update items change (key :: path) (table ++ [(key, .table inner)]) =
      (inner.update items change path).map fun inner => table ++ [(key, .table inner)] := by
  have hset : table ++ [(key, .table inner)] = table.set key (.table inner) := by simp [set, h]
  have hget : Table.get? (table ++ [(key, .table inner)]) key = some (.table inner) := by
    rw [hset, get?_set]
  simp only [update, hget]
  refine congrArg (inner.update items change path).map (funext fun inner' => ?_)
  rw [hset, set_set]
  simp [set, h]

/-- Two changes of the table at the end of a path are made one after the other. -/
theorem update_bind {items : Bool} {f g : Table → Except Flaw Table} {path : List String}
    {table table' : Table} (h : table.update items (fun t => (f t).bind g) path = .ok table') :
    ∃ between, table.update items f path = .ok between ∧
      between.update items g path = .ok table' := by
  induction path generalizing table table' with
  | nil =>
    simp only [update] at h ⊢
    cases hf : f table with
    | error e => simp [hf, Except.bind] at h
    | ok between => exact ⟨between, rfl, by simpa [hf, Except.bind] using h⟩
  | cons key path ih =>
    simp only [update] at h
    -- the three places where the path goes on: nothing yet, a table, the last item of an array
    split at h
    · next hget =>
      obtain ⟨inner, hinner, rfl⟩ := map_eq_ok h
      obtain ⟨between, hf, hg⟩ := ih hinner
      refine ⟨table.set key (.table between), by simp [update, hget, hf, Except.map], ?_⟩
      simp [update, get?_set, hg, Except.map, set_set]
    · next hget =>
      obtain ⟨inner, hinner, rfl⟩ := map_eq_ok h
      obtain ⟨between, hf, hg⟩ := ih hinner
      refine ⟨table.set key (.table between), by simp [update, hget, hf, Except.map], ?_⟩
      simp [update, get?_set, hg, Except.map, set_set]
    · next list hget =>
      split at h
      · next hlast =>
        obtain ⟨inner, hinner, rfl⟩ := map_eq_ok h
        obtain ⟨between, hf, hg⟩ := ih hinner
        refine ⟨table.set key (.array (list.dropLast ++ [.table between])),
          by simp [update, hget, hlast, hf, Except.map], ?_⟩
        simp [update, get?_set, hg, Except.map, set_set]
      · cases h
    · cases h

end SqlDesk.Toml.Table
