/-
Whole numbers as they are typed.

A numeral is an optional sign and then decimal digits of any script, between which single
underscores may stand; blanks around it do not count. Numerals of more than `maxDigits` digits are
refused, as is a numeral whose digits would have to be written out in more than that many places.
-/
import SqlDesk.Text.Blank
import SqlDesk.Text.Digit

namespace SqlDesk.Text

/-- The most digits that a decimal numeral may have. -/
def maxDigits : Nat := 4300

/-- The digits of a numeral without sign: at least one, with single underscores allowed in between.
-/
def digits? : List Char → Option (List Nat)
  | [] => none
  | c :: rest =>
    match digit? c with
    | none => none
    | some d =>
      match rest with
      | [] => some [d]
      | '_' :: more => (digits? more).map (d :: ·)
      | more => (digits? more).map (d :: ·)

/-- The number that decimal digits denote. -/
def ofDigits (ds : List Nat) : Nat :=
  ds.foldl (fun n d => 10 * n + d) 0

/-- The number a numeral without sign denotes, if it has at most `maxDigits` digits. -/
def natural? (cs : List Char) : Option Nat :=
  (digits? cs).bind fun ds => if ds.length ≤ maxDigits then some (ofDigits ds) else none

/-- The whole number a text denotes. -/
def integer? (cs : List Char) : Option Int :=
  match trim cs with
  | '+' :: rest => (natural? rest).map Int.ofNat
  | '-' :: rest => (natural? rest).map fun n => -(n : Int)
  | rest => (natural? rest).map Int.ofNat

/-- Whether the decimal digits of a number can be written out: there are at most `maxDigits`. -/
def isWritable (n : Int) : Bool :=
  n.natAbs < Nat.pow 10 maxDigits

end SqlDesk.Text
