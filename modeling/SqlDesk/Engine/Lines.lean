/-
What happens to the lines of a laid out statement.

Three steps, each on lines: a line that opens with a JOIN is broken before its ON, the clauses are
set apart by empty lines, and the spaces that a line starts with become indents. None of them
touches anything but white space: what is between the blanks of a line stays as it is and in its
order.
-/
import SqlDesk.Text.Blank
import SqlDesk.Text.Word

namespace SqlDesk.Engine

/-- A letter of a word as the words of a JOIN are compared: capitals and small letters are one, and
so are the letters that become an I or an S when they change case. -/
def foldLetter (c : Char) : Char :=
  if c.toNat = 0x130 || c.toNat = 0x131 then 'I'
  else if c.toNat = 0x17F then 'S'
  else c.toUpper

/-- What follows a word at the start of a text. -/
def afterWord? (word : String) (cs : List Char) : Option (List Char) :=
  if (cs.take word.length).map foldLetter = word.toList then some (cs.drop word.length) else none

/-- The words that may stand before JOIN. -/
def joinModifiers : List String :=
  ["INNER", "LEFT", "RIGHT", "FULL", "CROSS", "OUTER", "NATURAL"]

/-- What follows the first of some words, if it stands at the start of a text. -/
def afterAnyWord? (words : List String) (cs : List Char) : Option (List Char) :=
  words.findSome? (afterWord? · cs)

/-- Whether a text opens with JOIN, after at most `fuel` of the words that may stand before it. -/
def opensWithJoin : Nat → List Char → Bool
  | 0, _ => false
  | fuel + 1, cs =>
    match afterWord? "JOIN" cs with
    | some rest => Text.wordEndsAt rest
    | none =>
      match afterAnyWord? joinModifiers cs with
      | some (c :: rest) => Text.isBlank c && opensWithJoin fuel (rest.dropWhile Text.isBlank)
      | _ => false

/-- Whether a text without leading spaces is that of a JOIN. -/
def isJoin (cs : List Char) : Bool :=
  opensWithJoin (cs.length + 1) cs

/-- Whether a text opens with the word ON and a blank. -/
def opensWithOn (cs : List Char) : Bool :=
  match afterWord? "ON" cs with
  | some (c :: _) => Text.isBlank c
  | _ => false

/-- The text before the first ON that stands between blanks, without the blanks before it, and the
text from that ON on. -/
def cutOn? : List Char → Option (List Char × List Char)
  | [] => none
  | c :: rest =>
    let after := rest.dropWhile Text.isBlank
    if Text.isBlank c && opensWithOn after then some ([], after)
    else (cutOn? rest).map fun (before, on) => (c :: before, on)

/-- The spaces that a line starts with. -/
def leadingSpaces (line : List Char) : List Char :=
  line.takeWhile (· = ' ')

/-- A line without the spaces that it starts with. -/
def dropSpaces (line : List Char) : List Char :=
  line.dropWhile (· = ' ')

/-- A line, or the two that it becomes when it is a JOIN with an ON before which no quote stands. -/
def breakLine (unit : Nat) (line : List Char) : List (List Char) :=
  let leading := leadingSpaces line
  let content := dropSpaces line
  if isJoin content then
    match cutOn? content with
    | some (before, on) =>
      if before.contains '\'' then [line]
      else [leading ++ before, leading ++ List.replicate unit ' ' ++ on]
    | none => [line]
  else [line]

/-- Breaks each JOIN before its ON. -/
def breakJoinOn (unit : Nat) (lines : List (List Char)) : List (List Char) :=
  lines.flatMap (breakLine unit)

/-- Whether a line starts a clause: it starts with something else than a blank. -/
def startsClause (line : List Char) : Bool :=
  line.head?.any fun c => !Text.isBlank c

/-- Puts empty lines before each line that starts a clause, but for the first line. -/
def spaceClauses (extra : Nat) : List (List Char) → List (List Char)
  | [] => []
  | first :: rest =>
    first :: rest.flatMap fun line =>
      if startsClause line then List.replicate extra [] ++ [line] else [line]

/-- A line with an indent for each `unit` of the spaces it starts with; the spaces left over stay. A
line of spaces only becomes empty. -/
def reindent (indent : List Char) (unit : Nat) (line : List Char) : List Char :=
  let content := dropSpaces line
  let depth := (leadingSpaces line).length
  if content.isEmpty then []
  else
    (List.replicate (depth / unit) indent).flatten ++ List.replicate (depth % unit) ' ' ++ content

end SqlDesk.Engine
