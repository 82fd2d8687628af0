/-
The texts of a configuration file: how a string is written, and how the four kinds of string are
read.

`escape` writes a string in double quotes. Reading follows it with a machine that looks at one
character at a time (`Mode`): inside a string, after a backslash, inside the digits of a code, or in
the gap that a backslash at the end of a line opens.
-/
import SqlDesk.Text.Quoted
import SqlDesk.Text.Replace

namespace SqlDesk.Toml

/-- Why a text is no configuration file: it breaks the rules of the format, or it holds a decimal
integer with more digits than can be read. -/
inductive Flaw where
  | malformed
  | oversized (digits : Nat)
  deriving DecidableEq, Repr

/-- What is read at the front of a text, and the text after it. -/
abbrev Reading (α : Type) : Type := Except Flaw (α × List Char)

/-- Whether a character is a control other than the tab, which no string or comment may hold. -/
def isControl (c : Char) : Bool :=
  (c.toNat < 0x20 && c ≠ '\t') || c.toNat = 0x7F

/-- The letter that stands for a control, a quote or a backslash after a backslash. -/
def shortEscape? (c : Char) : Option Char :=
  match c with
  | '\x08' => some 'b'
  | '\n' => some 'n'
  | '\x0c' => some 'f'
  | '\r' => some 'r'
  | '"' => some '"'
  | '\\' => some '\\'
  | _ => none

/-- A character inside double quotes. -/
def escapeChar (c : Char) : List Char :=
  match shortEscape? c with
  | some letter => ['\\', letter]
  | none => if isControl c then '\\' :: 'u' :: Text.hexDigits 4 c.toNat else [c]

/-- A string in double quotes. -/
def escape (cs : List Char) : List Char :=
  '"' :: cs.flatMap escapeChar ++ ['"']

/-- The character that a letter after a backslash stands for. -/
def unescape? (c : Char) : Option Char :=
  match c with
  | 'b' => some '\x08'
  | 't' => some '\t'
  | 'n' => some '\n'
  | 'f' => some '\x0c'
  | 'r' => some '\r'
  | '"' => some '"'
  | '\\' => some '\\'
  | _ => none

/-- The value of a hexadecimal digit. -/
def hexDigit? (c : Char) : Option Nat :=
  if '0' ≤ c && c ≤ '9' then some (c.toNat - '0'.toNat)
  else if 'a' ≤ c && c ≤ 'f' then some (c.toNat - 'a'.toNat + 10)
  else if 'A' ≤ c && c ≤ 'F' then some (c.toNat - 'A'.toNat + 10)
  else none

/-- Whether a code is that of a character: neither a surrogate nor out of range. -/
def isScalar (code : Nat) : Bool :=
  code < 0xD800 || (0xDFFF < code && code ≤ 0x10FFFF)

/-- Where in a string reading stands. `text skipping` is between characters, where `skipping` passes
over blanks and line ends; `hex left code` has `left` digits to come; `gap` waits for the end of the
line. -/
inductive Mode where
  | text (skipping : Bool)
  | escape
  | hex (left code : Nat)
  | gap

/-- A character put in front of what is read after it. -/
def Reading.cons (c : Char) : Reading (List Char) → Reading (List Char)
  | .ok (cs, rest) => .ok (c :: cs, rest)
  | .error flaw => .error flaw

/-- Reads a string in double quotes, after its opening quotes. -/
def readBasic (multiline : Bool) : Mode → List Char → Reading (List Char)
  | _, [] => .error .malformed
  | .escape, c :: rest =>
    if c = 'u' then readBasic multiline (.hex 4 0) rest
    else if c = 'U' then readBasic multiline (.hex 8 0) rest
    else if multiline && (c = ' ' || c = '\t') then readBasic multiline .gap rest
    else if multiline && c = '\n' then readBasic multiline (.text true) rest
    else
      match unescape? c with
      | some plain => (readBasic multiline (.text false) rest).cons plain
      | none => .error .malformed
  | .hex left code, c :: rest =>
    match hexDigit? c with
    | none => .error .malformed
    | some digit =>
      let code := 16 * code + digit
      if 1 < left then readBasic multiline (.hex (left - 1) code) rest
      else if isScalar code then (readBasic multiline (.text false) rest).cons (Char.ofNat code)
      else .error .malformed
  | .gap, c :: rest =>
    if c = ' ' || c = '\t' then readBasic multiline .gap rest
    else if c = '\n' then readBasic multiline (.text true) rest
    else .error .malformed
  | .text skipping, c :: rest =>
    if skipping && (c = ' ' || c = '\t' || c = '\n') then readBasic multiline (.text true) rest
    else if c = '"' then
      if multiline then
        match rest with
        | '"' :: '"' :: after => .ok ([], after)
        | _ => (readBasic multiline (.text false) rest).cons c
      else .ok ([], rest)
    else if c = '\\' then readBasic multiline .escape rest
    else if isControl c && !(multiline && c = '\n') then .error .malformed
    else (readBasic multiline (.text false) rest).cons c

/-- Reads a string in single quotes, after its opening quote. -/
def readLiteral : List Char → Reading (List Char)
  | [] => .error .malformed
  | c :: rest =>
    if c = '\'' then .ok ([], rest)
    else if isControl c then .error .malformed
    else (readLiteral rest).cons c

/-- Reads a string in three single quotes, after them. -/
def readLongLiteral (cs : List Char) : Reading (List Char) :=
  match Text.cut? ['\'', '\'', '\''] cs with
  | none => .error .malformed
  | some (inside, rest) =>
    if inside.any fun c => isControl c && c ≠ '\n' then .error .malformed else .ok (inside, rest)

/-- A line end right after the three opening quotes does not count. -/
def dropFirstNewline : List Char → List Char
  | '\n' :: rest => rest
  | cs => cs

/-- Up to two more quotes right after the three closing ones belong to the string. -/
def takeExtraQuotes (quote : Char) : Reading (List Char) → Reading (List Char)
  | .error flaw => .error flaw
  | .ok (cs, rest) =>
    let extra := (rest.takeWhile (· = quote)).take 2
    .ok (cs ++ extra, rest.drop extra.length)

/-- Reads a string in double quotes, one or three of them, after the first. -/
def readQuoted : List Char → Reading (List Char)
  | '"' :: '"' :: rest =>
    takeExtraQuotes '"' (readBasic true (.text false) (dropFirstNewline rest))
  | rest => readBasic false (.text false) rest

/-- Reads a string in single quotes, one or three of them, after the first. -/
def readApostrophes : List Char → Reading (List Char)
  | '\'' :: '\'' :: rest => takeExtraQuotes '\'' (readLongLiteral (dropFirstNewline rest))
  | rest => readLiteral rest

end SqlDesk.Toml
