/-
The command that formats SQL.

It formats the selection or the whole document. A document without the configured extension is
formatted only if a prompt is answered with yes, and so is one in which the engine found errors. The
engine is asked once, and only for a document that is to be formatted. A document that is not
formatted stays as it was.

The command is configured from the settings when it is made and whenever it is refreshed; in between
it goes on with what it was configured with.
-/
import SqlDesk.Format.Document
import SqlDesk.Format.Caret
import SqlDesk.Engine
import SqlDesk.Settings
import SqlDesk.Path

namespace SqlDesk

/-- What the command did. -/
inductive Outcome where
  | formattedSelection
  | formattedDocument
  | declinedFileType
  | declinedParseErrors
  deriving DecidableEq, Repr

namespace Outcome

/-- The name of an outcome. -/
def name : Outcome → String
  | formattedSelection => "formatted_selection"
  | formattedDocument => "formatted_document"
  | declinedFileType => "declined_file_type"
  | declinedParseErrors => "declined_parse_errors"

end Outcome

/-- What the command asks before it goes on. -/
inductive Prompt where
  | fileType (extension : String)
  | parseErrors
  deriving DecidableEq, Repr

namespace Prompt

/-- The title of a prompt. -/
def title (_ : Prompt) : String := "Format SQL"

/-- The message of a prompt. -/
def message : Prompt → String
  | fileType ext =>
    s!"The current file does not have a {ext} extension.\nFormat it as SQL anyway?"
  | parseErrors =>
    "The SQL could not be parsed without errors, so the formatted result may " ++
      "be wrong.\nApply the formatting anyway?"

end Prompt

/-- The answers to prompts, by the number of the prompt. -/
abbrev Answers : Type := Nat → Except Failure Bool

/-- A run of the command: its outcome, the document it leaves, the prompts that it showed and what
it asked the engine to format. -/
structure FormatRun (δ : Type) where
  outcome : Except Failure Outcome
  document : δ
  prompts : List Prompt := []
  inputs : List String := []

namespace FormatRun

/-- A run after a prompt. -/
def after {δ : Type} (prompt : Prompt) (run : FormatRun δ) : FormatRun δ :=
  { run with prompts := prompt :: run.prompts }

/-- A run after the engine was asked. -/
def asking {δ : Type} (input : String) (run : FormatRun δ) : FormatRun δ :=
  { run with inputs := input :: run.inputs }

end FormatRun

/-- The document with a formatted text in the place of a span. -/
def replaceSpan {δ : Type} (view : DocumentView δ) (span : Span) (text : List Char) (document : δ) :
    FormatRun δ :=
  if span.selectionOnly then
    { outcome := .ok .formattedSelection
      document := view.replaceRange span.start span.stop text document }
  else
    let caret := remapCaret span.caret (view.text document).length text.length
    { outcome := .ok .formattedDocument
      document := view.setCaret caret (view.replaceAll text document) }

/-- Has a document formatted; the next prompt has the number `asked`. -/
def formatText {δ : Type} (view : DocumentView δ) (engine : Formatter) (answers : Answers)
    (asked : Nat) (document : δ) : FormatRun δ :=
  let text := view.text document
  let span := Span.of text (view.selection document)
  let input := String.ofList (span.target text)
  FormatRun.asking input <|
    match engine input with
    | .error e => { outcome := .error e, document := document }
    | .ok result =>
      let replaced := replaceSpan view span result.text.toList document
      if result.hadErrors then
        FormatRun.after .parseErrors <|
          match answers asked with
          | .error e => { outcome := .error e, document := document }
          | .ok false => { outcome := .ok .declinedParseErrors, document := document }
          | .ok true => replaced
      else replaced

/-- Formats a document. -/
def formatDocument {δ : Type} (view : DocumentView δ) (sqlExtension : String) (engine : Formatter)
    (answers : Answers) (document : δ) : FormatRun δ :=
  if Path.hasExtension (view.path document) sqlExtension then
    formatText view engine answers 0 document
  else
    FormatRun.after (.fileType sqlExtension) <|
      match answers 0 with
      | .error e => { outcome := .error e, document := document }
      | .ok false => { outcome := .ok .declinedFileType, document := document }
      | .ok true => formatText view engine answers 1 document

/-- The engine that a command uses: one built from settings, or one that was given to it. -/
inductive CommandEngine where
  | built (tools : Engine.Tools) (engine : Engine)
  | given (format : Formatter)

namespace CommandEngine

/-- Formats a text. -/
def format : CommandEngine → Formatter
  | built tools engine => engine.formatWith tools
  | given format => format

end CommandEngine

/-- What a command was configured with, and the libraries that its engines are built on. -/
structure Command where
  sqlExtension : String
  options : Options
  engine : CommandEngine
  injected : Option Formatter
  libraries : Engine.Libraries := .sql

namespace Command

/-- The engine for some settings, unless one was injected. -/
def engineFor (libraries : Engine.Libraries) (settings : Settings) :
    Option Formatter → CommandEngine
  | some format => .given format
  | none =>
    .built libraries.tools
      (Engine.configured settings.options.value settings.dialect libraries)

/-- The command for some settings; an injected engine is used instead of one built from them. -/
def configured (settings : Settings) (injected : Option Formatter)
    (libraries : Engine.Libraries := .sql) : Command where
  sqlExtension := settings.sqlExtension
  options := settings.options
  engine := engineFor libraries settings injected
  injected := injected
  libraries := libraries

/-- The command configured anew. -/
def refresh (command : Command) (settings : Settings) : Command :=
  configured settings command.injected command.libraries

/-- Whether a path is that of an SQL file. -/
def isSql (command : Command) (path : String) : Bool :=
  Path.hasExtension path command.sqlExtension

/-- Runs the command on a document. -/
def run {δ : Type} (command : Command) (view : DocumentView δ) (answers : Answers) (document : δ) :
    FormatRun δ :=
  formatDocument view command.sqlExtension command.engine.format answers document

end Command

end SqlDesk
