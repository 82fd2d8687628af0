/-
The formatting options.

There are sixteen: the indent string, four counts and eleven toggles. `Options` holds valid ones, so
a count is a natural number and a toggle a truth value. A `Record` holds anything at all under the
same sixteen names, as a file or a caller may give it; `Record.check` makes options of it or says
which field, in the order of `Field.all`, is the first wrong one.
-/
import SqlDesk.Failure
import SqlDesk.Toml.Value

namespace SqlDesk

/-- The options that are counts. -/
inductive Count where
  | spacesPerTab
  | maxLineWidth
  | statementBreaks
  | clauseBreaks
  deriving DecidableEq, Repr

namespace Count

/-- The counts in the order of a file. -/
def all : List Count := [.spacesPerTab, .maxLineWidth, .statementBreaks, .clauseBreaks]

/-- The name of a count in a file. -/
def name : Count → String
  | .spacesPerTab => "spaces_per_tab"
  | .maxLineWidth => "max_line_width"
  | .statementBreaks => "new_statement_line_breaks"
  | .clauseBreaks => "new_clause_line_breaks"

/-- What a count is at first. -/
def factory : Count → Nat
  | .spacesPerTab => 4
  | .maxLineWidth => 999
  | .statementBreaks => 2
  | .clauseBreaks => 1

theorem mem_all (c : Count) : c ∈ all := by
  cases c <;> decide

end Count

/-- The options that are on or off. -/
inductive Toggle where
  | expandCommaLists
  | trailingCommas
  | spaceAfterExpandedComma
  | expandBooleanExpressions
  | expandCaseStatements
  | expandBetweenConditions
  | expandInLists
  | breakJoinOnSections
  | uppercaseKeywords
  | keywordStandardization
  | formatOnSave
  deriving DecidableEq, Repr

namespace Toggle

/-- The toggles in the order of a file. -/
def all : List Toggle :=
  [.expandCommaLists, .trailingCommas, .spaceAfterExpandedComma, .expandBooleanExpressions,
    .expandCaseStatements, .expandBetweenConditions, .expandInLists, .breakJoinOnSections,
    .uppercaseKeywords, .keywordStandardization, .formatOnSave]

/-- The name of a toggle in a file. -/
def name : Toggle → String
  | .expandCommaLists => "expand_comma_lists"
  | .trailingCommas => "trailing_commas"
  | .spaceAfterExpandedComma => "space_after_expanded_comma"
  | .expandBooleanExpressions => "expand_boolean_expressions"
  | .expandCaseStatements => "expand_case_statements"
  | .expandBetweenConditions => "expand_between_conditions"
  | .expandInLists => "expand_in_lists"
  | .breakJoinOnSections => "break_join_on_sections"
  | .uppercaseKeywords => "uppercase_keywords"
  | .keywordStandardization => "keyword_standardization"
  | .formatOnSave => "format_on_save"

/-- What a toggle is at first. -/
def factory : Toggle → Bool
  | .expandCommaLists => true
  | .expandBooleanExpressions => true
  | .expandCaseStatements => true
  | .expandBetweenConditions => true
  | .expandInLists => true
  | .uppercaseKeywords => true
  | .trailingCommas => false
  | .spaceAfterExpandedComma => false
  | .breakJoinOnSections => false
  | .keywordStandardization => false
  | .formatOnSave => false

theorem mem_all (t : Toggle) : t ∈ all := by
  cases t <;> decide

end Toggle

/-- Valid formatting options. -/
structure Options where
  indent : String := "\t"
  count : Count → Nat := Count.factory
  toggle : Toggle → Bool := Toggle.factory

namespace Options

theorem ext_iff' {a b : Options} :
    a = b ↔ a.indent = b.indent ∧ (∀ c ∈ Count.all, a.count c = b.count c) ∧
      ∀ t ∈ Toggle.all, a.toggle t = b.toggle t := by
  constructor
  · rintro rfl
    simp
  · obtain ⟨i, c, t⟩ := a
    obtain ⟨i', c', t'⟩ := b
    rintro ⟨rfl, hc, ht⟩
    obtain rfl : c = c' := funext fun x => hc x (Count.mem_all x)
    obtain rfl : t = t' := funext fun x => ht x (Toggle.mem_all x)
    rfl

instance : DecidableEq Options := fun _ _ => decidable_of_iff' _ ext_iff'

end Options

/-- The formatting options by name. -/
inductive Field where
  | indent
  | count (which : Count)
  | toggle (which : Toggle)
  deriving DecidableEq, Repr

namespace Field

/-- The options in the order of a file. -/
def all : List Field := .indent :: Count.all.map .count ++ Toggle.all.map .toggle

/-- The name of an option in a file. -/
def name : Field → String
  | .indent => "indent_string"
  | .count c => c.name
  | .toggle t => t.name

theorem mem_all (f : Field) : f ∈ all := by
  cases f with
  | indent => simp [all]
  | count c => simp [all, Count.mem_all]
  | toggle t => simp [all, Toggle.mem_all]

/-- Whether a value can be that of an option. -/
def check (f : Field) (value : Toml.Value) : Except SettingsError Unit :=
  match f with
  | .indent =>
    match value with
    | .string _ => .ok ()
    | _ => .error (.notText f.name)
  | .count _ =>
    match value with
    | .integer n => if n < 0 then .error (.negative f.name) else .ok ()
    | _ => .error (.notInteger f.name)
  | .toggle _ =>
    match value with
    | .boolean _ => .ok ()
    | _ => .error (.notBoolean f.name)

end Field

namespace Options

/-- The value of an option. -/
def value (options : Options) : Field → Toml.Value
  | .indent => .string options.indent
  | .count c => .integer (options.count c)
  | .toggle t => .boolean (options.toggle t)

/-- The options with one of them given a value; a value that it cannot have changes nothing. -/
def set (options : Options) : Field → Toml.Value → Options
  | .indent, .string text => { options with indent := text }
  | .count c, .integer n =>
    { options with count := fun d => if d = c then n.toNat else options.count d }
  | .toggle t, .boolean b =>
    { options with toggle := fun u => if u = t then b else options.toggle u }
  | _, _ => options

theorem check_value (options : Options) (f : Field) : f.check (options.value f) = .ok () := by
  cases f <;> simp [Field.check, value]

end Options

/-- Values of any kind under the names of the options. -/
abbrev Record : Type := Field → Toml.Value

namespace Record

/-- The record with a value at a field. -/
def set (record : Record) (f : Field) (value : Toml.Value) : Record :=
  fun g => if g = f then value else record g

/-- The first of some fields that has an invalid value decides the error. -/
def checkFields (record : Record) : List Field → Except SettingsError Unit
  | [] => .ok ()
  | f :: fs =>
    match f.check (record f) with
    | .error e => .error e
    | .ok () => checkFields record fs

/-- Options that take their values from a record where it has valid ones. -/
def toOptions (record : Record) : Options :=
  Field.all.foldl (fun options f => options.set f (record f)) {}

/-- The options of a record all of whose values are valid. -/
def check (record : Record) : Except SettingsError Options :=
  (record.checkFields Field.all).map fun _ => record.toOptions

end Record

end SqlDesk
