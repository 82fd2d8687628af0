/-
What can stop an operation.

Every failure is a cause; its wording is `Failure.message`. The causes on the side of the settings
are `SettingsError`, those of files `FileError`. Whatever a host, an engine or a document reports
about itself comes as `host` and `fault` with the text it gives.
-/
import SqlDesk.Disk
import SqlDesk.Text.Utf8
import SqlDesk.Text.Numeral

namespace SqlDesk

/-- What is wrong with a setting, with a file of settings or with a form. -/
inductive SettingsError where
  | notInteger (name : String)
  | negative (name : String)
  | notBoolean (name : String)
  | notText (name : String)
  | notTable
  | unsupported (names : List String)
  | malformed
  | missingTable
  | unreadable (path : String) (cause : FileError)
  | notWholeNumber (label text : String)
  | negativeCount (label : String)
  | noExtension
  deriving DecidableEq, Repr

namespace SettingsError

/-- The table that holds the formatting options, in every file. -/
def optionsTable : String := "formatting"

/-- The wording of an error. -/
def message : SettingsError → String
  | .notInteger name => s!"`{name}` must be an integer"
  | .negative name => s!"`{name}` must not be negative"
  | .notBoolean name => s!"`{name}` must be true or false"
  | .notText name => s!"`{name}` must be a string"
  | .notTable => s!"`[{optionsTable}]` must be a table"
  | .unsupported names => "Unsupported option(s): " ++ ", ".intercalate names
  | .malformed => "Invalid options file: the text is no TOML document"
  | .missingTable => s!"Missing `[{optionsTable}]` table"
  | .unreadable path cause => s!"Could not read {path}: {cause.message}"
  | .notWholeNumber label text => s!"{label} must be a whole number, got {Text.quoted text}."
  | .negativeCount label => s!"{label} must not be negative."
  | .noExtension => "SQL Extension must not be empty."

end SettingsError

/-- What stopped an operation. -/
inductive Failure where
  | settings (cause : SettingsError)
  | file (cause : FileError)
  | encoding (cause : Text.Utf8.Malformed)
  | numeral (digits : Option Nat)
  | unwritable
  | mistyped
  | unfitWidth
  | required (what : String)
  | keySequence (keys : String)
  | noScope
  | host (message : String)
  | fault (message : String)
  deriving DecidableEq, Repr

namespace Failure

/-- The wording of a failure. -/
def message : Failure → String
  | .settings cause => cause.message
  | .file cause => cause.message
  | .encoding cause => cause.message
  | .numeral digits =>
    let seen := match digits with
      | some n => s!": value has {n} digits"
      | none => ""
    s!"Exceeds the limit ({Text.maxDigits} digits) for integer string conversion{seen}; " ++
      "use sys.set_int_max_str_digits() to increase the limit"
  | .unwritable => "the value has no written form"
  | .mistyped => "the value is of a kind that nothing can be computed with"
  | .unfitWidth => "the width is no whole number that a layout can have"
  | .required what => s!"{what} is required"
  | .keySequence keys => "Unrecognized key sequence: " ++ Text.quoted keys
  | .noScope => "host reported an empty key binding scope"
  | .host message => message
  | .fault message => message

/-- Whether a failure is one of the file system. -/
def isFileError : Failure → Bool
  | .file _ => true
  | _ => false

/-- Whether a failure lies in the settings or the file system: the user is told of such a failure.
-/
def isForUser : Failure → Bool
  | .settings _ => true
  | .file _ => true
  | _ => false

end Failure

end SqlDesk
