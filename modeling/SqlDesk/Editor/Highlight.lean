/-
The colours of a line of SQL.

Four rules, each of them a pattern that is searched from left to right without overlap: words of the
language, numbers, quoted texts, comments. A later rule takes the characters of an earlier one. How
the cases of letters are folded is left open.
-/
import SqlDesk.Editor.Pattern
import SqlDesk.Settings

namespace SqlDesk.Highlight

/-- What a character of a line is part of. -/
inductive Role where
  | keyword
  | number
  | string
  | comment
  deriving DecidableEq, Repr

/-- The words of the language. -/
def keywords : List String :=
  ["ADD", "ALL", "ALTER", "AND", "AS", "ASC", "BEGIN", "BETWEEN", "BY", "CASE", "COMMIT", "CREATE",
    "CROSS", "DECLARE", "DEFAULT", "DELETE", "DESC", "DISTINCT", "DROP", "ELSE", "END", "EXEC",
    "EXISTS", "FROM", "FULL", "GROUP", "HAVING", "IF", "IN", "INDEX", "INNER", "INSERT", "INTO",
    "IS", "JOIN", "KEY", "LEFT", "LIKE", "NOT", "NULL", "ON", "OR", "ORDER", "OUTER", "PRIMARY",
    "PROCEDURE", "RETURN", "RIGHT", "ROLLBACK", "SELECT", "SET", "TABLE", "THEN", "TOP",
    "TRANSACTION", "UNION", "UPDATE", "VALUES", "VIEW", "WHEN", "WHERE", "WITH"]

/-- A rule: how much of a text it takes from its start, given the character before. -/
abbrev Rule : Type := Option Char → List Char → Option Nat

/-- Which characters of a text a rule covers, from left to right, after `skip` more characters of
the last match. -/
def coverFrom (rule : Rule) : Option Char → Nat → List Char → List Bool
  | _, _, [] => []
  | _, skip + 1, c :: rest => true :: coverFrom rule (some c) skip rest
  | before, 0, c :: rest =>
    match rule before (c :: rest) with
    | some (n + 1) => true :: coverFrom rule (some c) n rest
    | _ => false :: coverFrom rule (some c) 0 rest

/-- Which characters of a text a rule covers. -/
def cover (rule : Rule) (cs : List Char) : List Bool :=
  coverFrom rule none 0 cs

/-- A whole word of the language, in any case of its letters. -/
def keywordPattern (fold : Char → Char) : Pattern :=
  .seq .boundary (.seq (.oneOf (keywords.map (.caseless fold))) .boundary)

/-- Digits, with or without more digits after a point; they may not be part of a longer word. -/
def numberPattern : Pattern :=
  let digits := Pattern.plus (.char Char.isDigit)
  .seq .boundary (.seq digits (.seq (.optional (.seq (.only '.') digits)) .boundary))

/-- What stands between the quotes of a quoted text: two quotes in it stand for one. -/
def insideQuotes : Pattern :=
  .star (.alt (.char (· ≠ '\'')) (.seq (.only '\'') (.only '\'')))

/-- A quoted text, with an N right before it if there is one. -/
def stringPattern : Pattern :=
  .seq (.optional (.only 'N')) (.seq (.only '\'') (.seq insideQuotes (.only '\'')))

/-- Two dashes and what follows them on the line. -/
def commentPattern : Pattern :=
  .seq (.only '-') (.seq (.only '-') (.star (.char (· ≠ '\n'))))

/-- The rules in the order in which they apply, for a way to fold the cases of letters. -/
def rules (fold : Char → Char) : List (Rule × Role) :=
  [((keywordPattern fold).find, .keyword), (numberPattern.find, .number),
    (stringPattern.find, .string), (commentPattern.find, .comment)]

/-- Roles with the characters that a rule covers given another one. -/
def repaint (covered : List Bool) (role : Role) (roles : List (Option Role)) :
    List (Option Role) :=
  List.zipWith (fun yes old => if yes then some role else old) covered roles

/-- The role of each character of a line. -/
def roles (cs : List Char) (fold : Char → Char := Char.toUpper) : List (Option Role) :=
  (rules fold).foldl (fun painted (rule, role) => repaint (cover rule cs) role painted)
    (cs.map fun _ => none)

/-- How a role looks: its colour, and whether it is bold. -/
def look (colors : ColorSettings) : Role → String × Bool
  | .keyword => (colors.keyword, colors.keywordBold)
  | .number => (colors.number, false)
  | .string => (colors.string, false)
  | .comment => (colors.comment, false)

/-- Neighbouring characters that look the same. -/
structure Run where
  start : Nat
  length : Nat
  look : String × Bool
  deriving DecidableEq, Repr

/-- The runs of characters that look the same, from an offset on. -/
def runsFrom (offset : Nat) : List (Option (String × Bool)) → List Run
  | [] => []
  | none :: rest => runsFrom (offset + 1) rest
  | some seen :: rest =>
    match runsFrom (offset + 1) rest with
    | [] => [⟨offset, 1, seen⟩]
    | run :: runs =>
      if run.start = offset + 1 && run.look = seen then ⟨offset, run.length + 1, seen⟩ :: runs
      else ⟨offset, 1, seen⟩ :: run :: runs

/-- The runs of a line in some colours. -/
def runs (colors : ColorSettings) (cs : List Char) (fold : Char → Char := Char.toUpper) :
    List Run :=
  runsFrom 0 ((roles cs fold).map fun role => role.map (look colors))

end SqlDesk.Highlight
