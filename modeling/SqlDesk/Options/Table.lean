/-
Options as a table of a file.

Reading goes field by field. A key that is no option is an error in strict reading and passed over
in lenient reading; a value that its field cannot have is an error in strict reading, and in lenient
reading it is left out and listed. A field that the table does not have keeps what it is at first.
-/
import SqlDesk.Options
import SqlDesk.Toml.Reader
import SqlDesk.Toml.Writer

namespace SqlDesk.Options

/-- The keys of a table that are no options, in order of their characters. -/
def unknownKeys (table : Toml.Table) : List String :=
  (table.keys.filter fun key => !Field.all.any (·.name == key)).mergeSort fun a b => decide (a ≤ b)

/-- The fields of `fs` that have a value in the table which they cannot have. -/
def invalidFields (table : Toml.Table) (fs : List Field) : List Field :=
  fs.filter fun f =>
    match table.get? f.name with
    | none => false
    | some value =>
      match f.check value with
      | .ok () => false
      | .error _ => true

/-- Takes the values that a table has for the fields `fs`; a value that a field cannot have is an
error if `strict`, and otherwise left out. -/
def takeFields (strict : Bool) (table : Toml.Table) :
    List Field → Options → Except SettingsError Options
  | [], options => .ok options
  | f :: fs, options =>
    match table.get? f.name with
    | none => takeFields strict table fs options
    | some value =>
      match f.check value with
      | .ok () => takeFields strict table fs (options.set f value)
      | .error e => if strict then .error e else takeFields strict table fs options

/-- The options a table gives, and the fields whose values were left out. -/
def ofTable (strict : Bool) (table : Toml.Table) : Except SettingsError (Options × List Field) :=
  let unknown := unknownKeys table
  if strict && !unknown.isEmpty then .error (.unsupported unknown)
  else (takeFields strict table Field.all {}).map (·, invalidFields table Field.all)

/-- The options a value gives, which has to be a table. -/
def ofValue (strict : Bool) : Toml.Value → Except SettingsError (Options × List Field)
  | .table table => ofTable strict table
  | _ => .error .notTable

end SqlDesk.Options

namespace SqlDesk.Record

/-- A record as a table: every field in order. -/
def toTable (record : Record) : Toml.Table :=
  Field.all.map fun f => (f.name, record f)

/-- The file that holds a record and nothing else. -/
def toFile (record : Record) : Except Toml.Obstacle (List Char) :=
  Toml.write [(SettingsError.optionsTable, .table record.toTable)]

end SqlDesk.Record

namespace SqlDesk.Options

/-- The options in the text of a file that holds them and, beside their table, anything. -/
def ofFile (cs : List Char) : Except Failure Options :=
  match Toml.read cs with
  | .error .malformed => .error (.settings .malformed)
  | .error (.oversized digits) => .error (.numeral (some digits))
  | .ok document =>
    match document.get? SettingsError.optionsTable with
    | none => .error (.settings .missingTable)
    | some value =>
      match ofValue true value with
      | .error e => .error (.settings e)
      | .ok (options, _) => .ok options

end SqlDesk.Options
