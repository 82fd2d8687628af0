/-
The formatting engine.

An engine has options and a dialect. It has the errors of a text judged, the text split into
statements and each statement laid out by its tools; what it adds is on lines (`Engine.Lines`) and
between statements. Blank text is left alone, without a question to any tool. A dialect that is not
known counts as none.

The options are a record that nobody has to have checked. A value that cannot be worked with stops
the formatting where it would be needed: an indent, for one, only at a line that is not empty. Valid
options never do.
-/
import SqlDesk.Options.Nearest
import SqlDesk.Engine.Lines
import SqlDesk.Text.Newline
import SqlDesk.Sql.Formatter
import SqlDesk.Sql.Judge

namespace SqlDesk

/-- A formatted text, and whether its input had errors. -/
structure FormatResult where
  text : String
  hadErrors : Bool
  deriving DecidableEq, Repr

/-- Whatever formats a text, or fails. -/
abbrev Formatter : Type := String → Except Failure FormatResult

namespace Engine

/-- How a statement is to be laid out. The widths are passed on as the options have them. -/
structure Request where
  upper : Bool
  reindent : Bool
  step : Toml.Value
  wrapAfter : Toml.Value
  commaFirst : Bool

namespace Request

/-- The style of layout that is asked for, if the widths can be those of a layout. -/
def style? (request : Request) : Option Sql.Style :=
  match request.step.whole?, request.wrapAfter.whole? with
  | some step, some wrapAfter =>
    if 1 ≤ step && 0 ≤ wrapAfter then some ⟨step.toNat, wrapAfter, request.commaFirst⟩ else none
  | _, _ => none

end Request

/-- The tools of an engine: a judge of errors in a dialect, a splitter, and the layout of the
statement with a number. -/
structure Tools where
  hasErrors : Option String → String → Except Failure Bool
  split : String → List String
  layOut : Nat → Request → String → Except Failure String

/-- Lays out a statement of SQL. -/
def layOutSql (request : Request) (statement : String) : Except Failure String :=
  match request.style? with
  | none => .error .unfitWidth
  | some style =>
    let style := if request.reindent then some style else none
    .ok (String.ofList (Sql.format request.upper style statement.toList))

/-- The tools for SQL. -/
def sqlTools : Tools where
  hasErrors := fun _ text => .ok (Sql.hasErrors text.toList)
  split := fun text => (Sql.split text.toList).map String.ofList
  layOut := fun _ => layOutSql

/-- The dialects that the judge of errors knows. -/
def dialects : List String :=
  ["tsql", "mysql", "postgres", "sqlite", "bigquery", "snowflake", "duckdb", "oracle", "spark",
    "hive"]

/-- The libraries that engines are built on: the tools, and the dialects that the judge of errors
knows. -/
structure Libraries where
  tools : Tools
  knows : String → Bool

/-- The libraries for SQL. -/
def Libraries.sql : Libraries := ⟨sqlTools, dialects.contains⟩

/-- A dialect, if it is named and known. -/
def Libraries.known (libraries : Libraries) (dialect : String) : Option String :=
  if dialect ≠ "" && libraries.knows dialect then some dialect else none

end Engine

/-- An engine: what it was configured with. -/
structure Engine where
  options : Record
  dialect : Option String

namespace Engine

/-- The engine for options and a dialect. -/
def configured (options : Record) (dialect : String) (libraries : Libraries := .sql) : Engine :=
  ⟨options, libraries.known dialect⟩

/-- The columns of one step of the layout. -/
def unit (options : Options) : Nat :=
  max (options.count .spacesPerTab) 1

/-- The value of one step of the layout: at least one. -/
def stepOf (record : Record) (step : Toml.Quantity) : Toml.Value :=
  if step.atLeast 1 then record (.count .spacesPerTab) else .integer 1

/-- What the options ask of the layout. -/
def request (record : Record) : Except Failure Request :=
  match record.quantity? .clauseBreaks, record.quantity? .spacesPerTab with
  | some clauses, some step =>
    .ok
      { upper := record.isOn .uppercaseKeywords
        reindent := clauses.exceeds 0
        step := stepOf record step
        wrapAfter :=
          if record.isOn .expandCommaLists then .integer 0 else record (.count .maxLineWidth)
        commaFirst := !record.isOn .trailingCommas }
  | _, _ => .error .mistyped

/-- The lines of a statement after all steps on lines. -/
def finishLines (options : Options) (lines : List (List Char)) : List (List Char) :=
  let clauses := options.count .clauseBreaks
  let lines :=
    if 0 < clauses && options.toggle .breakJoinOnSections then breakJoinOn (unit options) lines
    else lines
  let lines := if 1 < clauses then spaceClauses (clauses - 1) lines else lines
  lines.map (reindent options.indent.toList (unit options))

/-- Whether a line has more than spaces. -/
def isFilled (line : List Char) : Bool :=
  !(dropSpaces line).isEmpty

/-- Whether the options can indent a line: the indent is a text, and a step has no fraction. -/
def canIndent (record : Record) : Bool :=
  record.indent?.isSome &&
    (record.quantity? .spacesPerTab).all fun step => step.isCount || !step.atLeast 1

/-- Whether the options can set a clause apart: the empty lines before it have a number. -/
def canSpace (record : Record) : Bool :=
  (record.quantity? .clauseBreaks).all fun clauses => clauses.isCount || !clauses.exceeds 1

/-- Whether the options can do all steps on some lines. -/
def canFinish (record : Record) (lines : List (List Char)) : Bool :=
  (canIndent record || !lines.any isFilled) && (canSpace record || !lines.tail.any startsClause)

/-- A laid out statement after all steps on lines. -/
def finish (record : Record) (laidOut : List Char) : Except Failure (List Char) :=
  let lines := Text.splitLines laidOut
  if canFinish record lines then .ok (Text.joinLines (finishLines record.nearest lines))
  else .error .mistyped

/-- What stands between two statements. -/
def separatorOf (breaks : Nat) : List Char :=
  if 0 < breaks then List.replicate breaks '\n' else [' ']

/-- What the options put between two statements. -/
def separator (record : Record) : Except Failure (List Char) :=
  match record.quantity? .statementBreaks with
  | some breaks =>
    if breaks.isCount || !breaks.exceeds 0 then .ok (separatorOf breaks.ceiling)
    else .error .mistyped
  | none => .error .mistyped

/-- The statements of a text that are not blank. -/
def statementsOf (tools : Tools) (text : String) : List String :=
  (tools.split text).filter fun statement => !Text.allBlank statement.toList

/-- The final form of a statement, by its number. -/
def formatStatement (tools : Tools) (record : Record) (k : Nat) (statement : String) :
    Except Failure (List Char) :=
  match request record with
  | .error e => .error e
  | .ok request =>
    match tools.layOut k request statement with
    | .error e => .error e
    | .ok laidOut => finish record laidOut.toList

/-- The final forms of statements that are numbered from `k` on. -/
def formatStatements (tools : Tools) (record : Record) :
    Nat → List String → Except Failure (List (List Char))
  | _, [] => .ok []
  | k, statement :: rest =>
    match formatStatement tools record k statement with
    | .error e => .error e
    | .ok text =>
      match formatStatements tools record (k + 1) rest with
      | .error e => .error e
      | .ok texts => .ok (text :: texts)

/-- The text made of the final forms of statements; it ends with a line end if the input did. -/
def assemble (separator input : List Char) (texts : List (List Char)) : List Char :=
  separator.intercalate texts ++ (if input.getLast? = some '\n' then ['\n'] else [])

/-- Formats a text. -/
def formatWith (tools : Tools) (engine : Engine) : Formatter := fun text =>
  if Text.allBlank text.toList then .ok ⟨text, false⟩
  else
    match tools.hasErrors engine.dialect text with
    | .error e => .error e
    | .ok hadErrors =>
      match formatStatements tools engine.options 0 (statementsOf tools text) with
      | .error e => .error e
      | .ok texts =>
        match separator engine.options with
        | .error e => .error e
        | .ok between => .ok ⟨String.ofList (assemble between text.toList texts), hadErrors⟩

/-- Formats SQL. -/
def format (engine : Engine) : Formatter :=
  engine.formatWith sqlTools

/-- What an engine asks its tools. -/
inductive Question where
  | errors (text : String) (dialect : Option String)
  | split (text : String)
  | layOut (statement : String) (request : Request)

/-- The questions that an engine asks its tools about a text, in order, as long as each is answered.
-/
def questions (tools : Tools) (engine : Engine) (text : String) : List Question :=
  if Text.allBlank text.toList then []
  else
    let layouts :=
      match request engine.options with
      | .ok request => (statementsOf tools text).map (.layOut · request)
      | .error _ => []
    .errors text engine.dialect :: .split text :: layouts

/-- Valid options can do every step on every line. -/
@[simp] theorem canFinish_value (options : Options) (lines : List (List Char)) :
    canFinish options.value lines = true := by
  simp [canFinish, canIndent, canSpace, Record.indent?, Record.quantity?, Options.value,
    Toml.Value.quantity?]

theorem finish_value (options : Options) (laidOut : List Char) :
    finish options.value laidOut =
      .ok (Text.joinLines (finishLines options (Text.splitLines laidOut))) := by
  simp [finish]

theorem separator_value (options : Options) :
    separator options.value = .ok (separatorOf (options.count .statementBreaks)) := by
  simp [separator, Record.quantity?, Options.value, Toml.Value.quantity?]

end Engine

end SqlDesk
