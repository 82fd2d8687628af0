/-
Why a configuration file is not read.

Only one place refuses a text as oversized: a decimal integer with more digits than a numeral may
have (`fair_readDecimal`). Everything else passes this on, so it is the only way a text can be
oversized (`lt_of_oversized`).
-/
import SqlDesk.Toml.Reader

namespace SqlDesk.Toml

/-- Whether only numerals with too many digits are refused as oversized. -/
def Fair {α : Type} (outcome : Except Flaw α) : Prop :=
  ∀ digits, outcome = .error (.oversized digits) → Text.maxDigits < digits

section

variable {α β : Type}

theorem fair_ok (a : α) : Fair (.ok a) := nofun

theorem fair_malformed : Fair (.error .malformed : Except Flaw α) := nofun

theorem Fair.of_error {outcome : Except Flaw α} (h : Fair outcome) {flaw : Flaw}
    (heq : outcome = .error flaw) : Fair (.error flaw : Except Flaw β) := by
  intro digits hdigits
  obtain rfl := Except.error.inj hdigits
  exact h digits heq

theorem Fair.map {outcome : Except Flaw α} (h : Fair outcome) (f : α → β) :
    Fair (outcome.map f) := by
  cases outcome with
  | error flaw => exact h.of_error rfl
  | ok a => exact fair_ok _

theorem Fair.cons {reading : Reading (List Char)} (h : Fair reading) (c : Char) :
    Fair (reading.cons c) := by
  cases reading with
  | error flaw => exact h.of_error rfl
  | ok read => exact fair_ok _

end

/-! ## Texts -/

theorem fair_readBasic (multiline : Bool) (mode : Mode) (cs : List Char) :
    Fair (readBasic multiline mode cs) := by
  fun_induction readBasic multiline mode cs <;>
    first
    | exact fair_malformed
    | exact fair_ok _
    | assumption
    | exact Fair.cons ‹_› _

theorem fair_readLiteral (cs : List Char) : Fair (readLiteral cs) := by
  fun_induction readLiteral cs with
  | case1 => exact fair_malformed
  | case2 => exact fair_ok _
  | case3 => exact fair_malformed
  | case4 c rest _ _ ih => exact ih.cons c

theorem fair_readLongLiteral (cs : List Char) : Fair (readLongLiteral cs) := by
  unfold readLongLiteral
  split
  · exact fair_malformed
  · split
    · exact fair_malformed
    · exact fair_ok _

theorem fair_takeExtraQuotes (quote : Char) {reading : Reading (List Char)} (h : Fair reading) :
    Fair (takeExtraQuotes quote reading) := by
  cases reading with
  | error flaw => exact h.of_error rfl
  | ok read => exact fair_ok _

theorem fair_readQuoted (cs : List Char) : Fair (readQuoted cs) := by
  unfold readQuoted
  split
  · exact fair_takeExtraQuotes _ (fair_readBasic _ _ _)
  · exact fair_readBasic _ _ _

theorem fair_readApostrophes (cs : List Char) : Fair (readApostrophes cs) := by
  unfold readApostrophes
  split
  · exact fair_takeExtraQuotes _ (fair_readLongLiteral _)
  · exact fair_readLiteral _

/-! ## Numbers -/

/-- The one place that refuses a numeral for its length. -/
theorem fair_readDecimal (cs : List Char) : Fair (readDecimal cs) := by
  simp only [readDecimal]
  split
  · exact fair_malformed
  · split
    · split
      · next hlong =>
        intro digits hdigits
        obtain rfl := Flaw.oversized.inj (Except.error.inj hdigits)
        exact hlong
      · exact fair_ok _
    · exact fair_ok _

theorem fair_readNumber (cs : List Char) : Fair (readNumber cs) := by
  simp only [readNumber]
  split
  · exact fair_ok _
  · exact fair_readDecimal cs

theorem fair_readMoment? {cs : List Char} {reading : Reading Value}
    (h : readMoment? cs = some reading) : Fair reading := by
  simp only [readMoment?] at h
  repeat' split at h
  all_goals cases h
  · exact fair_ok _
  · exact fair_malformed
  · exact fair_ok _

/-! ## Values -/

theorem fair_skipComment (cs : List Char) : Fair (skipComment cs) := by
  unfold skipComment
  split
  · split
    · exact fair_malformed
    · exact fair_ok _
  · exact fair_ok _

theorem fair_skipFiller (fuel : Nat) (cs : List Char) : Fair (skipFiller fuel cs) := by
  induction fuel generalizing cs with
  | zero => exact fair_ok _
  | succ fuel ih =>
    simp only [skipFiller]
    split
    · split
      · next hcomment => exact (fair_skipComment _).of_error hcomment
      · exact ih _
    · exact fair_ok _

theorem fair_readKeyPart (cs : List Char) : Fair (readKeyPart cs) := by
  unfold readKeyPart
  split
  · exact fair_malformed
  · split
    · exact fair_ok _
    · split
      · exact (fair_readBasic _ _ _).map _
      · split
        · exact (fair_readLiteral _).map _
        · exact fair_malformed

theorem fair_readKey (fuel : Nat) (cs : List Char) : Fair (readKey fuel cs) := by
  induction fuel generalizing cs with
  | zero => exact fair_malformed
  | succ fuel ih =>
    simp only [readKey]
    split
    · next hpart => exact (fair_readKeyPart _).of_error hpart
    · split
      · exact (ih _).map _
      · exact fair_ok _

theorem fair_readScalar (cs : List Char) : Fair (readScalar cs) := by
  unfold readScalar
  split
  · exact (fair_readQuoted _).map _
  · exact (fair_readApostrophes _).map _
  · split
    · exact fair_ok _
    · exact fair_ok _
    · split
      · next hmoment => exact fair_readMoment? hmoment
      · split
        · exact fair_ok _
        · next hnumber => exact (fair_readNumber _).of_error hnumber
        · dsimp only
          split
          · exact fair_ok _
          · exact fair_malformed

theorem fair_add (key : String) (value : Value) (table : Table) : Fair (table.add key value) := by
  unfold Table.add
  split
  · exact fair_malformed
  · exact fair_ok _

theorem fair_addItem (key : String) (table : Table) : Fair (table.addItem key) := by
  unfold Table.addItem
  split
  · exact fair_ok _
  · exact fair_ok _
  · exact fair_malformed

theorem fair_update {items : Bool} {change : Table → Except Flaw Table}
    (h : ∀ table, Fair (change table)) (path : List String) (table : Table) :
    Fair (table.update items change path) := by
  fun_induction Table.update items change path table with
  | case1 table => exact h table
  | case2 _ _ _ _ ih => exact ih.map _
  | case3 _ _ _ _ _ ih => exact ih.map _
  | case4 key path table list _ inner _ hitems ih =>
    rw [hitems] at ih
    exact ih.map _
  | case5 => exact fair_malformed
  | case6 => exact fair_malformed

/-- The three functions that read values call each other. -/
theorem fair_values (fuel : Nat) :
    (∀ cs, Fair (readValue fuel cs)) ∧ (∀ cs, Fair (readItems fuel cs)) ∧
      ∀ marks table cs, Fair (readEntries fuel marks table cs) := by
  induction fuel with
  | zero => exact ⟨fun _ => fair_malformed, fun _ => fair_malformed, fun _ _ _ => fair_malformed⟩
  | succ fuel ih =>
    obtain ⟨ihvalue, ihitems, ihentries⟩ := ih
    refine ⟨fun cs => ?_, fun cs => ?_, fun marks table cs => ?_⟩
    · simp only [readValue]
      split
      · split
        · next hfiller => exact (fair_skipFiller _ _).of_error hfiller
        · exact (ihitems _).map _
      · split
        · exact fair_ok _
        · exact (ihentries _ _ _).map _
      · exact fair_readScalar _
    · simp only [readItems]
      split
      · exact fair_ok _
      · split
        · next hvalue => exact (ihvalue _).of_error hvalue
        · split
          · next hfiller => exact (fair_skipFiller _ _).of_error hfiller
          · exact fair_ok _
          · split
            · next hfiller => exact (fair_skipFiller _ _).of_error hfiller
            · exact (ihitems _).map _
          · exact fair_malformed
    · simp only [readEntries]
      split
      · next hkey => exact (fair_readKey _ _).of_error hkey
      · split
        · next hvalue => exact (ihvalue _).of_error hvalue
        · split
          · exact fair_malformed
          · split
            · next hupdate => exact (fair_update (fair_add _ _) _ _).of_error hupdate
            · split
              · exact fair_ok _
              · exact ihentries _ _ _
              · exact fair_malformed
      · exact fair_malformed

/-! ## Statements -/

namespace State

theorem fair_addEntry (state : State) (key : List String) (value : Value) :
    Fair (state.addEntry key value) := by
  simp only [addEntry]
  split
  · exact fair_malformed
  · split
    · exact fair_malformed
    · split
      · next hupdate => exact (fair_update (fair_add _ _) _ _).of_error hupdate
      · exact fair_ok _

theorem fair_openTable (state : State) (key : List String) : Fair (state.openTable key) := by
  unfold openTable
  split
  · exact fair_malformed
  · exact (fair_update fair_ok _ _).map _

theorem fair_openItem (state : State) (key : List String) : Fair (state.openItem key) := by
  unfold openItem
  split
  · exact fair_malformed
  · exact (fair_update (fair_addItem _) _ _).map _

theorem fair_readHeader (state : State) (cs : List Char) : Fair (state.readHeader cs) := by
  simp only [readHeader]
  split
  · split
    · next hkey => exact (fair_readKey _ _).of_error hkey
    · split
      · next hopen _ => exact (fair_openItem _ _).of_error hopen
      · exact fair_ok _
      · exact fair_malformed
  · split
    · next hkey => exact (fair_readKey _ _).of_error hkey
    · split
      · next hopen _ => exact (fair_openTable _ _).of_error hopen
      · exact fair_ok _
      · exact fair_malformed

theorem fair_readStatement (state : State) (cs : List Char) : Fair (state.readStatement cs) := by
  unfold readStatement
  split
  · exact fair_ok _
  · split
    · exact fair_readHeader _ _
    · split
      · split
        · next hkey => exact (fair_readKey _ _).of_error hkey
        · split
          · next hvalue => exact ((fair_values _).1 _).of_error hvalue
          · exact (fair_addEntry _ _ _).map _
        · exact fair_malformed
      · split
        · exact fair_ok _
        · exact fair_malformed

theorem fair_readLines (fuel : Nat) (state : State) (cs : List Char) :
    Fair (readLines fuel state cs) := by
  induction fuel generalizing state cs with
  | zero => exact fair_malformed
  | succ fuel ih =>
    simp only [readLines]
    split
    · next hstatement => exact (fair_readStatement _ _).of_error hstatement
    · split
      · next hcomment => exact (fair_skipComment _).of_error hcomment
      · exact fair_ok _
      · exact ih _ _
      · exact fair_malformed

end State

/-- **A text is oversized only for a numeral** of more digits than a numeral may have. -/
theorem lt_of_oversized {cs : List Char} {digits : Nat}
    (h : read cs = .error (.oversized digits)) : Text.maxDigits < digits :=
  (State.fair_readLines _ _ _).map (·.table) digits h

end SqlDesk.Toml
