/-
Writing a configuration file.

A table is a header and one line per entry; tables below it follow as sections of their own, with a
blank line before each. A section without entries of its own has no header if it has tables below
it. Arrays are written one item to a line, but an array of tables that are too long for that becomes
a section for each item.
-/
import SqlDesk.Toml.Value
import SqlDesk.Toml.Text
import SqlDesk.Text.Numeral

namespace SqlDesk.Toml

/-- Why a value cannot be written: no file can spell it, or an integer has too many digits. -/
inductive Obstacle where
  | noSpelling
  | oversized
  deriving DecidableEq, Repr

/-- The digits of an integer, with a sign if it is negative. -/
def integerText (n : Int) : List Char :=
  match n with
  | .ofNat m => Nat.toDigits 10 m
  | .negSucc m => '-' :: Nat.toDigits 10 (m + 1)

/-- Whether a key can stand without quotes. -/
def isBareKey (key : List Char) : Bool :=
  !key.isEmpty && key.all fun c =>
    ('a' ≤ c && c ≤ 'z') || ('A' ≤ c && c ≤ 'Z') || ('0' ≤ c && c ≤ '9') || c = '-' || c = '_'

/-- A key, in quotes where it needs them. -/
def keyText (key : String) : List Char :=
  if isBareKey key.toList then key.toList else escape key.toList

/-- The spaces that an item of an array stands behind. -/
def itemIndent (depth : Nat) : List Char :=
  List.replicate (4 * depth) ' '

/-- The entries of an inline table, with commas between them. -/
def inlineEntries : List (List Char) → List Char
  | [] => []
  | [entry] => entry
  | entry :: more => entry ++ ',' :: ' ' :: inlineEntries more

mutual

/-- A value on the right of an equals sign, at a depth of arrays. -/
def valueText (depth : Nat) : Value → Except Obstacle (List Char)
  | .string text => .ok (escape text.toList)
  | .integer n => if Text.isWritable n then .ok (integerText n) else .error .oversized
  | .boolean true => .ok "true".toList
  | .boolean false => .ok "false".toList
  | .fraction text => .ok text.toList
  | .moment text => .ok text.toList
  | .array [] => .ok ['[', ']']
  | .array (item :: items) =>
    (itemTexts (depth + 1) (item :: items)).map fun lines =>
      '[' :: '\n' :: lines ++ itemIndent depth ++ [']']
  | .table [] => .ok ['\x7b', '\x7d']
  | .table (entry :: entries) =>
    (entryTexts (entry :: entries)).map fun texts =>
      '\x7b' :: ' ' :: inlineEntries texts ++ [' ', '\x7d']
  | .nothing => .error .noSpelling

/-- The items of an array, each on a line of its own. -/
def itemTexts (depth : Nat) : List Value → Except Obstacle (List Char)
  | [] => .ok []
  | item :: items =>
    match valueText depth item, itemTexts depth items with
    | .error e, _ => .error e
    | _, .error e => .error e
    | .ok text, .ok more => .ok (itemIndent depth ++ text ++ ',' :: '\n' :: more)

/-- The entries of an inline table. -/
def entryTexts : List (String × Value) → Except Obstacle (List (List Char))
  | [] => .ok []
  | (key, value) :: entries =>
    match valueText 0 value, entryTexts entries with
    | .error e, _ => .error e
    | _, .error e => .error e
    | .ok text, .ok more => .ok ((keyText key ++ ' ' :: '=' :: ' ' :: text) :: more)

end

/-- The most characters of a line that holds a table as an item of an array. -/
def maxItemLine : Nat := 100

/-- Whether an item of an array fits on one line. -/
def fitsLine (item : Value) : Bool :=
  match valueText 0 item with
  | .ok text => (itemIndent 1 ++ text ++ [',']).length ≤ maxItemLine && !text.contains '\n'
  | .error _ => true

/-- Whether a value is written as sections of its own: a table is, and so is an array of tables one
of which does not fit on a line. -/
def isSection : Value → Bool
  | .table _ => true
  | .array items => items.all (fun item => item matches .table _) && !items.all fitsLine
  | _ => false

/-- One line for each entry that is no section. -/
def entryLines : Table → Except Obstacle (List Char)
  | [] => .ok []
  | (key, value) :: entries =>
    if isSection value then entryLines entries
    else
      match valueText 0 value, entryLines entries with
      | .error e, _ => .error e
      | _, .error e => .error e
      | .ok text, .ok more => .ok (keyText key ++ ' ' :: '=' :: ' ' :: text ++ '\n' :: more)

/-- What opens a section: a header in single brackets, if the section needs one, or the header in
double brackets that each item of an array has. -/
def headerText (name : List Char) (isItem : Bool) (table : Table) : List Char :=
  let own := table.any fun e => !isSection e.2
  let below := table.any fun e => isSection e.2
  if isItem then '[' :: '[' :: name ++ [']', ']', '\n']
  else if !name.isEmpty && (own || !below) then '[' :: name ++ [']', '\n']
  else []

/-- The name of a section below another. -/
def sectionName (name : List Char) (key : String) : List Char :=
  if name.isEmpty then keyText key else name ++ '.' :: keyText key

/-- Parts of a text with a blank line between those that say something. -/
def spaced : List (List Char) → List Char
  | [] => []
  | part :: parts =>
    let rest := spaced parts
    if part.isEmpty then rest
    else if rest.isEmpty then part
    else part ++ '\n' :: rest

mutual

/-- The sections of a value, each with everything below it; `isItem` says whether the value is an
item of an array. -/
def sectionTexts (name : List Char) (isItem : Bool) : Value → Except Obstacle (List (List Char))
  | .table entries =>
    match entryLines entries, belowTexts name entries with
    | .error e, _ => .error e
    | _, .error e => .error e
    | .ok lines, .ok below => .ok [spaced ((headerText name isItem entries ++ lines) :: below)]
  | .array items => itemTextsBelow name items
  | _ => .ok []

/-- The sections of the entries of a table that are written so, in order. -/
def belowTexts (name : List Char) : List (String × Value) → Except Obstacle (List (List Char))
  | [] => .ok []
  | (key, value) :: entries =>
    let here := if isSection value then sectionTexts (sectionName name key) false value else .ok []
    match here, belowTexts name entries with
    | .error e, _ => .error e
    | _, .error e => .error e
    | .ok texts, .ok more => .ok (texts ++ more)

/-- The sections of the items of an array, in order. -/
def itemTextsBelow (name : List Char) : List Value → Except Obstacle (List (List Char))
  | [] => .ok []
  | item :: items =>
    match sectionTexts name true item, itemTextsBelow name items with
    | .error e, _ => .error e
    | _, .error e => .error e
    | .ok texts, .ok more => .ok (texts ++ more)

end

/-- The text that describes a table. -/
def write (table : Table) : Except Obstacle (List Char) :=
  (sectionTexts [] false (.table table)).map List.flatten

end SqlDesk.Toml
