/-
Options out of a record that was never checked.

A record can have any value under the name of an option. Most of them can still be worked with: each
value counts as on or off, and fractions and truth values can be compared as numbers. `nearest` says
which options a record stands for as far as that goes; for valid options it is the options
themselves.
-/
import SqlDesk.Options
import SqlDesk.Toml.Quantity

namespace SqlDesk.Record

/-- The number in the place of a count. -/
def quantity? (record : Record) (c : Count) : Option Toml.Quantity :=
  (record (.count c)).quantity?

/-- The text in the place of the indent. -/
def indent? (record : Record) : Option String :=
  match record .indent with
  | .string text => some text
  | _ => none

/-- Whether a toggle is on. -/
def isOn (record : Record) (t : Toggle) : Bool :=
  (record (.toggle t)).isOn

/-- The options that a record stands for. A count that is no natural number is rounded up to one. -/
def nearest (record : Record) : Options where
  indent := record.indent?.getD ""
  count c := ((record.quantity? c).map Toml.Quantity.ceiling).getD 0
  toggle := record.isOn

/-- Valid options stand for themselves. -/
@[simp] theorem nearest_value (options : Options) : nearest options.value = options := by
  rw [Options.ext_iff']
  refine ⟨rfl, fun c _ => ?_, fun t _ => ?_⟩
  · simp [nearest, quantity?, Options.value, Toml.Value.quantity?]
  · cases h : options.toggle t <;>
      simp [nearest, isOn, Options.value, Toml.Value.isOn, Toml.Value.quantity?, h]

end SqlDesk.Record
