/-
Documents that are edited, and what stands elsewhere in them.

An edit puts a value at the end of a path, or takes away what is there. A place that the path neither
leads to nor leads through keeps what it had (`get?_edit`), however many edits there are
(`get?_editAll`).
-/
import SqlDesk.Proofs.Toml.Table
import SqlDesk.Settings.File

namespace SqlDesk.Toml.Table

/-! ## One key -/

/-- The table with another value at a key, or without the key. -/
def put (table : Table) (key : String) : Option Value → Table
  | some value => table.set key value
  | none => table.filter (·.1 != key)

theorem get?_cons (key key' : String) (value : Value) (table : Table) :
    get? ((key, value) :: table) key' = if key' = key then some value else table.get? key' := by
  by_cases h : key' = key
  · simp [get?, h]
  · have hne : (key' == key) = false := beq_false_of_ne h
    simp only [get?, List.lookup_cons, hne, if_neg h]

variable {key key' : String}

theorem get?_map_other (h : key' ≠ key) (value : Value) (table : Table) :
    get? (table.map fun e => if e.1 == key then (key, value) else e) key' = table.get? key' := by
  induction table with
  | nil => rfl
  | cons e table ih =>
    obtain ⟨other, old⟩ := e
    rw [List.map_cons, get?_cons]
    by_cases he : other = key
    · subst he
      simp only [beq_self_eq_true, if_true, get?_cons, if_neg h, ih]
    · have hne : (other == key) = false := beq_false_of_ne he
      simp only [hne, Bool.false_eq_true, if_false, get?_cons, ih]

theorem get?_set_other (h : key' ≠ key) (table : Table) (value : Value) :
    (table.set key value).get? key' = table.get? key' := by
  simp only [set]
  split
  · exact get?_map_other h value table
  · have hne : (key' == key) = false := beq_false_of_ne h
    simp [get?, List.lookup_append, List.lookup_cons, hne]

theorem get?_filter_other (h : key' ≠ key) (table : Table) :
    get? (table.filter (·.1 != key)) key' = table.get? key' := by
  induction table with
  | nil => rfl
  | cons e table ih =>
    obtain ⟨other, old⟩ := e
    rw [List.filter_cons, get?_cons]
    by_cases he : other = key
    · subst he
      simp only [bne_self_eq_false, Bool.false_eq_true, if_false, ih, if_neg h]
    · have hne : (other != key) = true := bne_iff_ne.mpr he
      simp only [hne, if_true, get?_cons, ih]

theorem get?_put_other (h : key' ≠ key) (table : Table) (value : Option Value) :
    (table.put key value).get? key' = table.get? key' := by
  cases value with
  | some value => exact get?_set_other h table value
  | none => exact get?_filter_other h table

theorem subtable_put_other (h : key' ≠ key) (table : Table) (value : Option Value) :
    (table.put key value).subtable key' = table.subtable key' := by
  rw [subtable, get?_put_other h, subtable]

theorem subtable_put_table (table inner : Table) (key : String) :
    (table.put key (some (.table inner))).subtable key = inner := by
  rw [subtable, put, get?_set]

/-! ## Paths -/

/-- The table with another value at the end of a path, or with none. The tables on the way are made
where there are none. -/
def edit (value : Option Value) : List String → Table → Table
  | [], table => table
  | [key], table => table.put key value
  | key :: next :: path, table =>
    table.put key (some (.table (edit value (next :: path) (table.subtable key))))

/-- Neither of two paths leads on from where the other one ends. -/
def Apart (path place : List String) : Prop :=
  ¬ path <+: place ∧ ¬ place <+: path

/-- **An edit is no matter for a place apart from its path.** -/
theorem get?_edit {path tables : List String} {key : String} (h : Apart path (tables ++ [key]))
    (value : Option Value) (table : Table) :
    ((edit value path table).descend tables).get? key = (table.descend tables).get? key := by
  induction path generalizing tables table with
  | nil => exact absurd List.nil_prefix h.1
  | cons first path ih =>
    cases tables with
    | nil =>
      have hne : key ≠ first := by
        rintro rfl
        exact h.2 (List.prefix_append [key] path)
      cases path with
      | nil => exact get?_put_other hne table value
      | cons next path =>
        simp only [edit, descend]
        exact get?_put_other hne table _
    | cons first' tables =>
      simp only [descend]
      by_cases hfirst : first' = first
      · subst hfirst
        have happart : Apart path (tables ++ [key]) := by
          simpa [Apart, List.cons_prefix_cons] using h
        cases path with
        | nil => exact absurd List.nil_prefix happart.1
        | cons next path =>
          simp only [edit]
          rw [subtable_put_table]
          exact ih happart _
      · cases path with
        | nil =>
          simp only [edit]
          rw [subtable_put_other hfirst]
        | cons next path =>
          simp only [edit]
          rw [subtable_put_other hfirst]

/-- The table after some edits, one after the other. -/
def editAll (edits : List (List String × Option Value)) (table : Table) : Table :=
  edits.foldl (fun table e => edit e.2 e.1 table) table

theorem get?_editAll {edits : List (List String × Option Value)} {tables : List String}
    {key : String} (h : ∀ e ∈ edits, Apart e.1 (tables ++ [key])) (table : Table) :
    ((editAll edits table).descend tables).get? key = (table.descend tables).get? key := by
  induction edits generalizing table with
  | nil => rfl
  | cons e edits ih =>
    obtain ⟨hfirst, hrest⟩ := List.forall_mem_cons.mp h
    exact (ih hrest _).trans (get?_edit hfirst e.2 table)

end SqlDesk.Toml.Table
