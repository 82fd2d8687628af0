/-
Numbers, dates and times of a configuration file.

An integer is decimal with an optional sign and no leading zero, or hexadecimal, octal or binary
after `0x`, `0o` or `0b`; single underscores may stand between digits. A decimal integer with a
fraction or an exponent is a fraction. A date has to be in the calendar, a time of day within the
day.
-/
import SqlDesk.Toml.Value
import SqlDesk.Toml.Text
import SqlDesk.Text.Numeral

namespace SqlDesk.Toml

/-- The digits of a kind that continue a numeral, which a single underscore may part. -/
def digitTail (isDigit : Char → Bool) : List Char → List Char × List Char
  | [] => ([], [])
  | '_' :: d :: rest =>
    if isDigit d then
      let (run, after) := digitTail isDigit rest
      (d :: run, after)
    else ([], '_' :: d :: rest)
  | c :: rest =>
    if isDigit c then
      let (run, after) := digitTail isDigit rest
      (c :: run, after)
    else ([], c :: rest)

/-- The digits of a kind at the front of a text, with single underscores between them left out. -/
def digitRun (isDigit : Char → Bool) (cs : List Char) : List Char × List Char :=
  match cs with
  | [] => ([], [])
  | c :: rest =>
    if isDigit c then
      let (run, after) := digitTail isDigit rest
      (c :: run, after)
    else ([], cs)

/-- The number that digits denote in a base. -/
def numberIn (base : Nat) (digits : List Char) : Nat :=
  digits.foldl (fun n c => base * n + (hexDigit? c).getD 0) 0

/-- Whether a character is a digit of a base of at most sixteen. -/
def isDigitOf (base : Nat) (c : Char) : Bool :=
  match hexDigit? c with
  | some d => d < base
  | none => false

/-- Whether a character is a decimal digit. -/
def isDecimal (c : Char) : Bool :=
  '0' ≤ c && c ≤ '9'

/-- The digits after a point, with it. -/
def fractionPart (cs : List Char) : List Char × List Char :=
  match cs with
  | '.' :: rest =>
    match digitRun isDecimal rest with
    | ([], _) => ([], cs)
    | (digits, after) => ('.' :: digits, after)
  | _ => ([], cs)

/-- A sign at the front of a text. -/
def sign (cs : List Char) : List Char × List Char :=
  match cs with
  | '+' :: rest => (['+'], rest)
  | '-' :: rest => (['-'], rest)
  | _ => ([], cs)

/-- An exponent, with its letter. -/
def exponentPart (cs : List Char) : List Char × List Char :=
  match cs with
  | e :: rest =>
    if e = 'e' || e = 'E' then
      let (s, digits) := sign rest
      match digitRun isDecimal digits with
      | ([], _) => ([], cs)
      | (run, after) => (e :: s ++ run, after)
    else ([], cs)
  | _ => ([], cs)

/-- The digits of a decimal integer without sign, of which only zero itself begins with a zero. -/
def wholePart (cs : List Char) : List Char × List Char :=
  match cs with
  | '0' :: rest => (['0'], rest)
  | _ => digitRun isDecimal cs

/-- An integer or fraction in decimal digits. -/
def readDecimal (cs : List Char) : Reading Value :=
  let (s, unsigned) := sign cs
  match wholePart unsigned with
  | ([], _) => .error .malformed
  | (whole, afterWhole) =>
    let (point, afterPoint) := fractionPart afterWhole
    let (exponent, after) := exponentPart afterPoint
    if point.isEmpty && exponent.isEmpty then
      if Text.maxDigits < whole.length then .error (.oversized whole.length)
      else
        let n := numberIn 10 whole
        .ok (.integer (if s = ['-'] then -(n : Int) else n), after)
    else .ok (.fraction (String.ofList (s ++ whole ++ point ++ exponent)), after)

/-- An integer in a base of its own, after the zero and the letter of the base. -/
def readBased? (base : Nat) (cs : List Char) : Option (Value × List Char) :=
  match digitRun (isDigitOf base) cs with
  | ([], _) => none
  | (digits, after) => some (.integer (numberIn base digits), after)

/-- An integer or fraction. -/
def readNumber (cs : List Char) : Reading Value :=
  let based := match cs with
    | '0' :: 'x' :: rest => readBased? 16 rest
    | '0' :: 'b' :: rest => readBased? 2 rest
    | '0' :: 'o' :: rest => readBased? 8 rest
    | _ => none
  match based with
  | some reading => .ok reading
  | none => readDecimal cs

/-- A number of exactly `count` decimal digits. -/
def fixedDigits? (count : Nat) (cs : List Char) : Option (Nat × List Char) :=
  let digits := cs.take count
  if digits.length = count && digits.all isDecimal then some (numberIn 10 digits, cs.drop count)
  else none

/-- A given character at the front of a text. -/
def expect? (c : Char) (cs : List Char) : Option (List Char) :=
  match cs with
  | d :: rest => if d = c then some rest else none
  | [] => none

/-- The text after a time of day, if there is one in front. -/
def dropTime? (cs : List Char) : Option (List Char) := do
  let (hour, cs) ← fixedDigits? 2 cs
  let cs ← expect? ':' cs
  let (minute, cs) ← fixedDigits? 2 cs
  let cs ← expect? ':' cs
  let (second, cs) ← fixedDigits? 2 cs
  if hour ≤ 23 && minute ≤ 59 && second ≤ 59 then
    match cs with
    | '.' :: rest =>
      if (rest.headD ' ' |> isDecimal) then some (rest.dropWhile isDecimal) else some cs
    | _ => some cs
  else none

/-- The text after the distance to universal time, if there is one in front. -/
def dropOffset (cs : List Char) : List Char :=
  match cs with
  | c :: rest =>
    if c = 'Z' || c = 'z' then rest
    else if c = '+' || c = '-' then
      let after : Option (List Char) := do
        let (hour, cs) ← fixedDigits? 2 rest
        let cs ← expect? ':' cs
        let (minute, cs) ← fixedDigits? 2 cs
        if hour ≤ 23 && minute ≤ 59 then some cs else none
      after.getD cs
    else cs
  | [] => cs

/-- A date at the front of a text: year, month and day, the last two within the ranges of any month.
-/
def date? (cs : List Char) : Option ((Nat × Nat × Nat) × List Char) := do
  let (year, cs) ← fixedDigits? 4 cs
  let cs ← expect? '-' cs
  let (month, cs) ← fixedDigits? 2 cs
  let cs ← expect? '-' cs
  let (day, cs) ← fixedDigits? 2 cs
  if 1 ≤ month && month ≤ 12 && 1 ≤ day && day ≤ 31 then some ((year, month, day), cs) else none

/-- The number of days of a month. -/
def daysOfMonth (year month : Nat) : Nat :=
  if month = 2 then
    if year % 4 = 0 && (year % 100 ≠ 0 || year % 400 = 0) then 29 else 28
  else if month = 4 || month = 6 || month = 9 || month = 11 then 30
  else 31

/-- The text after the time of day and offset that may follow a date. -/
def dropClock (cs : List Char) : List Char :=
  match cs with
  | c :: rest =>
    if c = 'T' || c = 't' || c = ' ' then
      match dropTime? rest with
      | some after => dropOffset after
      | none => cs
    else cs
  | [] => cs

/-- A date, a time of day or both, if one is in front. A date outside the calendar is malformed. -/
def readMoment? (cs : List Char) : Option (Reading Value) :=
  match date? cs with
  | some ((year, month, day), rest) =>
    let after := dropClock rest
    if 1 ≤ year && day ≤ daysOfMonth year month then
      some (.ok (.moment (String.ofList (cs.take (cs.length - after.length))), after))
    else some (.error .malformed)
  | none =>
    match dropTime? cs with
    | some after =>
      some (.ok (.moment (String.ofList (cs.take (cs.length - after.length))), after))
    | none => none

end SqlDesk.Toml
