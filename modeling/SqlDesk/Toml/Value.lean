/-
Values of configuration files, and tables of them.

A table keeps its entries in the order in which they came. `nothing` is a value that a program can
hold but no file can spell. The digits of fractions and the text of dates and times are kept as they
were written: no setting is of either kind, so only that they are there matters.
-/
namespace SqlDesk.Toml

/-- A value of a configuration file. -/
inductive Value where
  | string (text : String)
  | integer (number : Int)
  | boolean (truth : Bool)
  | fraction (text : String)
  | moment (text : String)
  | array (items : List Value)
  | table (entries : List (String × Value))
  | nothing
  deriving Inhabited

/-- Entries by key. -/
abbrev Table : Type := List (String × Value)

namespace Table

/-- The value at a key. -/
def get? (table : Table) (key : String) : Option Value :=
  List.lookup key table

/-- Whether a table has a key. -/
def has (table : Table) (key : String) : Bool :=
  (table.get? key).isSome

/-- The table with a value at a key: in the place of the old one, or at the end. -/
def set (table : Table) (key : String) (value : Value) : Table :=
  if table.has key then table.map fun e => if e.1 == key then (key, value) else e
  else table ++ [(key, value)]

/-- The keys of a table. -/
def keys (table : Table) : List String :=
  table.map (·.1)

/-- The table at a key; empty if there is none or something else is there. -/
def subtable (table : Table) (key : String) : Table :=
  match table.get? key with
  | some (.table entries) => entries
  | _ => []

end Table

end SqlDesk.Toml
