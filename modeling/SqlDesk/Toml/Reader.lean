/-
Reading a configuration file.

A file is a sequence of statements, one to a line: an entry of the current table, or the header of a
table or of the next item of an array of tables. `State` holds the tables read so far together with
what may no longer be opened (`Mark.closed`) or changed at all (`Mark.frozen`).

Each line uses up at least one character, and each value two steps at most for every character, so
the length of the text bounds the number of lines and the depth of values.
-/
import SqlDesk.Toml.Number

namespace SqlDesk.Toml

/-- Whether a character separates words on a line. -/
def isSpace (c : Char) : Bool :=
  c = ' ' || c = '\t'

/-- A text without the spaces in front. -/
def skipSpaces (cs : List Char) : List Char :=
  cs.dropWhile isSpace

/-- A text without the comment in front, up to the line end. -/
def skipComment : List Char → Except Flaw (List Char)
  | '#' :: rest =>
    if (rest.takeWhile (· ≠ '\n')).any isControl then .error .malformed
    else .ok (rest.dropWhile (· ≠ '\n'))
  | cs => .ok cs

/-- A text without the spaces, line ends and comments in front, looking at most `fuel` times. -/
def skipFiller : Nat → List Char → Except Flaw (List Char)
  | 0, cs => .ok cs
  | fuel + 1, cs =>
    match cs.dropWhile fun c => isSpace c || c = '\n' with
    | '#' :: rest =>
      match skipComment ('#' :: rest) with
      | .error flaw => .error flaw
      | .ok after => skipFiller fuel after
    | rest => .ok rest

/-- Whether a character can be part of a key without quotes. -/
def isBare (c : Char) : Bool :=
  ('a' ≤ c && c ≤ 'z') || ('A' ≤ c && c ≤ 'Z') || isDecimal c || c = '-' || c = '_'

/-- One part of a key. -/
def readKeyPart (cs : List Char) : Reading String :=
  match cs with
  | [] => .error .malformed
  | c :: rest =>
    if isBare c then .ok (String.ofList (cs.takeWhile isBare), cs.dropWhile isBare)
    else if c = '"' then
      (readBasic false (.text false) rest).map fun (key, rest) => (String.ofList key, rest)
    else if c = '\'' then (readLiteral rest).map fun (key, rest) => (String.ofList key, rest)
    else .error .malformed

/-- A key: parts between dots, with spaces around them. At most `fuel` parts are read. -/
def readKey : Nat → List Char → Reading (List String)
  | 0, _ => .error .malformed
  | fuel + 1, cs =>
    match readKeyPart cs with
    | .error flaw => .error flaw
    | .ok (part, rest) =>
      match skipSpaces rest with
      | '.' :: more =>
        (readKey fuel (skipSpaces more)).map fun (parts, rest) => (part :: parts, rest)
      | rest => .ok ([part], rest)

/-- How a place among the tables is protected: `closed` forbids to open it by a header or a dotted
key, `frozen` forbids to change it or anything below it. -/
inductive Mark where
  | closed
  | frozen
  deriving DecidableEq, Repr

/-- The places that are protected. -/
abbrev Marks : Type := List (List String × Mark)

namespace Marks

/-- Whether a place is protected in a way: by a mark of its own, or because one above it is frozen.
-/
def has (marks : Marks) (place : List String) (mark : Mark) : Bool :=
  marks.any fun (p, m) => m = mark && (p == place || (m = .frozen && p.isPrefixOf place))

/-- The marks without those at a place and below it. -/
def free (marks : Marks) (place : List String) : Marks :=
  marks.filter fun (p, _) => !place.isPrefixOf p

end Marks

/-- The table at the end of a path, changed; tables on the way are made where they are missing. An
array of tables stands for its last item if `items` allows it. -/
def Table.update (items : Bool) (change : Table → Except Flaw Table) :
    List String → Table → Except Flaw Table
  | [], table => change table
  | key :: path, table =>
    match table.get? key with
    | none => (Table.update items change path []).map fun inner => table.set key (.table inner)
    | some (.table inner) =>
      (Table.update items change path inner).map fun inner => table.set key (.table inner)
    | some (.array list) =>
      match items, list.getLast? with
      | true, some (.table inner) =>
        (Table.update items change path inner).map fun inner =>
          table.set key (.array (list.dropLast ++ [.table inner]))
      | _, _ => .error .malformed
    | some _ => .error .malformed

/-- A table with a new entry. -/
def Table.add (key : String) (value : Value) (table : Table) : Except Flaw Table :=
  if table.has key then .error .malformed else .ok (table.set key value)

/-- A table in which the array of tables at a key has one more item, an empty one. -/
def Table.addItem (key : String) (table : Table) : Except Flaw Table :=
  match table.get? key with
  | none => .ok (table.set key (.array [.table []]))
  | some (.array items) => .ok (table.set key (.array (items ++ [.table []])))
  | some _ => .error .malformed

/-- Whether a value is a table or an array, whose inside must not change later. -/
def Value.isCompound : Value → Bool
  | .array _ => true
  | .table _ => true
  | _ => false

/-- The keyword at the front of a text. -/
def keyword? (word : List Char) (cs : List Char) : Option (List Char) :=
  if word.isPrefixOf cs then some (cs.drop word.length) else none

/-- A value that is neither an array nor a table. -/
def readScalar (cs : List Char) : Reading Value :=
  match cs with
  | '"' :: rest => (readQuoted rest).map fun (text, rest) => (.string (String.ofList text), rest)
  | '\'' :: rest =>
    (readApostrophes rest).map fun (text, rest) => (.string (String.ofList text), rest)
  | _ =>
    match keyword? ['t', 'r', 'u', 'e'] cs, keyword? ['f', 'a', 'l', 's', 'e'] cs with
    | some rest, _ => .ok (.boolean true, rest)
    | _, some rest => .ok (.boolean false, rest)
    | none, none =>
      match readMoment? cs with
      | some reading => reading
      | none =>
        match readNumber cs with
        | .ok reading => .ok reading
        | .error (.oversized digits) => .error (.oversized digits)
        | .error .malformed =>
          let (s, rest) := sign cs
          let special := rest.take 3
          if special = ['i', 'n', 'f'] || special = ['n', 'a', 'n'] then
            .ok (.fraction (String.ofList (s ++ special)), rest.drop 3)
          else .error .malformed

mutual

/-- A value at the front of a text. -/
def readValue : Nat → List Char → Reading Value
  | 0, _ => .error .malformed
  | fuel + 1, cs =>
    match cs with
    | '[' :: rest =>
      match skipFiller rest.length rest with
      | .error flaw => .error flaw
      | .ok rest => (readItems fuel rest).map fun (items, rest) => (.array items, rest)
    | '\x7b' :: rest =>
      match skipSpaces rest with
      | '\x7d' :: rest => .ok (.table [], rest)
      | rest => (readEntries fuel [] [] rest).map fun (table, rest) => (.table table, rest)
    | _ => readScalar cs

/-- The items of an array up to its closing bracket, and the text after it. -/
def readItems : Nat → List Char → Reading (List Value)
  | 0, _ => .error .malformed
  | fuel + 1, cs =>
    match cs with
    | ']' :: rest => .ok ([], rest)
    | _ =>
      match readValue fuel cs with
      | .error flaw => .error flaw
      | .ok (item, rest) =>
        match skipFiller rest.length rest with
        | .error flaw => .error flaw
        | .ok (']' :: rest) => .ok ([item], rest)
        | .ok (',' :: rest) =>
          match skipFiller rest.length rest with
          | .error flaw => .error flaw
          | .ok rest => (readItems fuel rest).map fun (items, rest) => (item :: items, rest)
        | .ok _ => .error .malformed

/-- The entries of an inline table up to its closing brace, added to those read so far. -/
def readEntries : Nat → Marks → Table → List Char → Reading Table
  | 0, _, _, _ => .error .malformed
  | fuel + 1, marks, table, cs =>
    match readKey cs.length cs with
    | .error flaw => .error flaw
    | .ok (key, '=' :: rest) =>
      match readValue fuel (skipSpaces rest) with
      | .error flaw => .error flaw
      | .ok (value, rest) =>
        if marks.has key .frozen then .error .malformed
        else
          match table.update false (Table.add (key.getLastD "") value) key.dropLast with
          | .error flaw => .error flaw
          | .ok table =>
            match skipSpaces rest with
            | '\x7d' :: rest => .ok (table, rest)
            | ',' :: rest =>
              let marks := if value.isCompound then (key, .frozen) :: marks else marks
              readEntries fuel marks table (skipSpaces rest)
            | _ => .error .malformed
    | .ok _ => .error .malformed

end

/-- The tables read so far, the place of the current one, and the protected places; `pending` become
closed at the next header. -/
structure State where
  table : Table := []
  header : List String := []
  marks : Marks := []
  pending : List (List String) := []

/-- The places between the current table and the table that a dotted key leads into. -/
def between (header key : List String) : List (List String) :=
  (List.range (key.length - 1)).map fun i => header ++ key.take (i + 1)

/-- Takes an entry of the current table. -/
def State.addEntry (state : State) (key : List String) (value : Value) : Except Flaw State :=
  let opened := between state.header key
  let parent := state.header ++ key.dropLast
  if opened.any (state.marks.has · .closed) then .error .malformed
  else if state.marks.has parent .frozen then .error .malformed
  else
    match state.table.update true (Table.add (key.getLastD "") value) parent with
    | .error flaw => .error flaw
    | .ok table =>
      .ok { state with
        table
        marks := if value.isCompound then (state.header ++ key, .frozen) :: state.marks
          else state.marks
        pending := opened ++ state.pending }

/-- Closes the pending places. -/
def State.settle (state : State) : State :=
  { state with
    marks := state.pending.map (·, .closed) ++ state.marks
    pending := [] }

/-- Opens a table. -/
def State.openTable (state : State) (key : List String) : Except Flaw State :=
  if state.marks.has key .closed || state.marks.has key .frozen then .error .malformed
  else
    (state.table.update true .ok key).map fun table =>
      { state with table, header := key, marks := (key, .closed) :: state.marks }

/-- Opens the next item of an array of tables. -/
def State.openItem (state : State) (key : List String) : Except Flaw State :=
  if state.marks.has key .frozen then .error .malformed
  else
    (state.table.update true (Table.addItem (key.getLastD "")) key.dropLast).map fun table =>
      { state with table, header := key, marks := (key, .closed) :: state.marks.free key }

/-- Takes the header of a table, after its opening bracket. -/
def State.readHeader (state : State) (cs : List Char) : Except Flaw (State × List Char) :=
  let state := state.settle
  match cs with
  | '[' :: rest =>
    match readKey rest.length (skipSpaces rest) with
    | .error flaw => .error flaw
    | .ok (key, rest) =>
      match state.openItem key, rest with
      | .error flaw, _ => .error flaw
      | .ok state, ']' :: ']' :: rest => .ok (state, rest)
      | .ok _, _ => .error .malformed
  | rest =>
    match readKey rest.length (skipSpaces rest) with
    | .error flaw => .error flaw
    | .ok (key, rest) =>
      match state.openTable key, rest with
      | .error flaw, _ => .error flaw
      | .ok state, ']' :: rest => .ok (state, rest)
      | .ok _, _ => .error .malformed

/-- Takes one statement: an entry, a header, or nothing. -/
def State.readStatement (state : State) (cs : List Char) : Except Flaw (State × List Char) :=
  match cs with
  | [] => .ok (state, [])
  | c :: rest =>
    if c = '[' then state.readHeader rest
    else if isBare c || c = '"' || c = '\'' then
      match readKey cs.length cs with
      | .error flaw => .error flaw
      | .ok (key, '=' :: rest) =>
        match readValue (2 * rest.length + 2) (skipSpaces rest) with
        | .error flaw => .error flaw
        | .ok (value, rest) => (state.addEntry key value).map (·, rest)
      | .ok _ => .error .malformed
    else if c = '\n' || c = '#' then .ok (state, cs)
    else .error .malformed

/-- Takes statements up to the end of the text, at most `fuel` lines. -/
def State.readLines : Nat → State → List Char → Except Flaw State
  | 0, _, _ => .error .malformed
  | fuel + 1, state, cs =>
    match state.readStatement (skipSpaces cs) with
    | .error flaw => .error flaw
    | .ok (state, rest) =>
      match skipComment (skipSpaces rest) with
      | .error flaw => .error flaw
      | .ok [] => .ok state
      | .ok ('\n' :: rest) => readLines fuel state rest
      | .ok _ => .error .malformed

/-- A text in which a carriage return and its line feed are one line feed. -/
def joinNewlines : List Char → List Char
  | '\r' :: '\n' :: rest => '\n' :: joinNewlines rest
  | c :: rest => c :: joinNewlines rest
  | [] => []

/-- The table that a text describes. -/
def read (cs : List Char) : Except Flaw Table :=
  let cs := joinNewlines cs
  (State.readLines (cs.length + 1) {} cs).map (·.table)

end SqlDesk.Toml
