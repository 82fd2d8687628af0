/-
Values as numbers.

Integers, fractions and truth values count as numbers, true being one and false zero. A number is a
numerator over a power of ten, so that it is compared with whole numbers exactly. Any value counts
as on or off: it is off if it is false, zero, empty or nothing.
-/
import SqlDesk.Toml.Value
import SqlDesk.Text.Numeral

namespace SqlDesk.Toml

/-- A number: a numerator over a positive denominator. `isCount` says that it is not a fraction by
its kind, so that things can be counted with it. -/
structure Quantity where
  numerator : Int
  denominator : Nat := 1
  isCount : Bool := true
  deriving DecidableEq, Repr

namespace Quantity

/-- Whether a number is at least a whole number. -/
def atLeast (q : Quantity) (n : Int) : Bool :=
  n * q.denominator ≤ q.numerator

/-- Whether a number is greater than a whole number. -/
def exceeds (q : Quantity) (n : Int) : Bool :=
  n * q.denominator < q.numerator

/-- A number without its decimal places. -/
def whole (q : Quantity) : Int :=
  q.numerator.tdiv q.denominator

/-- The least natural number that a number does not exceed. -/
def ceiling (q : Quantity) : Nat :=
  (-(-q.numerator / q.denominator)).toNat

@[simp] theorem ceiling_count (n : Nat) : ceiling { numerator := n } = n := by
  simp [ceiling]

/-- The number that decimal digits with a point and a power of ten denote. -/
def ofFraction? (cs : List Char) : Option Quantity :=
  let isMark (c : Char) : Bool := c = 'e' || c = 'E'
  let mantissa := cs.takeWhile fun c => !isMark c
  let power := (Text.integer? ((cs.dropWhile fun c => !isMark c).drop 1)).getD 0
  let places := (mantissa.dropWhile (· ≠ '.')).length - 1
  let digits := mantissa.filterMap Text.digit?
  let scale := power - places
  let signed (n : Nat) : Int := if cs.head? = some '-' then -n else n
  if digits.isEmpty then none
  else some
    { numerator := signed (Text.ofDigits digits * Nat.pow 10 scale.toNat)
      denominator := Nat.pow 10 (-scale).toNat
      isCount := false }

end Quantity

namespace Value

/-- The number that a value is. -/
def quantity? : Value → Option Quantity
  | .integer n => some { numerator := n }
  | .boolean b => some { numerator := if b then 1 else 0 }
  | .fraction text => Quantity.ofFraction? text.toList
  | _ => none

/-- Whether a value counts as on. -/
def isOn : Value → Bool
  | .string text => text ≠ ""
  | .moment _ => true
  | .array items => !items.isEmpty
  | .table entries => !entries.isEmpty
  | .nothing => false
  | number => number.quantity?.all fun q => q.numerator ≠ 0

/-- The whole number that a value gives: a text is read as a numeral, and decimal places are cut
off. -/
def whole? : Value → Option Int
  | .string text => Text.integer? text.toList
  | number => number.quantity?.map Quantity.whole

end Value

end SqlDesk.Toml
