/-
The formatting engine keeps every word.

Whatever the layout of the statements is, what the engine adds to it is blank: each step on lines
leaves the words of the lines as they are, lines and statements are put together with a line feed or
a space in between, and an indent of blanks stands only in front of a line. So the words of a
formatted text are the words of the laid out statements, in order (`words_formatWith`).
-/
import SqlDesk.Engine
import SqlDesk.Proofs.Text.Blank
import SqlDesk.Proofs.Text.Words

namespace SqlDesk.Engine

open Text

theorem allBlank_leadingSpaces (line : List Char) : allBlank (leadingSpaces line) = true := by
  have hspaces : (leadingSpaces line).all (· = ' ') = true := List.all_takeWhile
  simp only [allBlank, List.all_eq_true, decide_eq_true_eq] at hspaces ⊢
  intro c hc
  rw [hspaces c hc]
  decide

theorem leadingSpaces_append_dropSpaces (line : List Char) :
    leadingSpaces line ++ dropSpaces line = line :=
  List.takeWhile_append_dropWhile

theorem eq_space_of_mem_leadingSpaces {line : List Char} {c : Char} (h : c ∈ leadingSpaces line) :
    c = ' ' :=
  of_decide_eq_true (List.all_eq_true.mp List.all_takeWhile c h)

theorem leadingSpaces_eq (line : List Char) :
    leadingSpaces line = List.replicate (leadingSpaces line).length ' ' :=
  List.eq_replicate_iff.mpr ⟨rfl, fun _ => eq_space_of_mem_leadingSpaces⟩

section

variable {spaces : List Char} (hspaces : ∀ c ∈ spaces, c = ' ') {c : Char} (hc : c ≠ ' ')
include hspaces hc

theorem leadingSpaces_append (rest : List Char) : leadingSpaces (spaces ++ c :: rest) = spaces :=
  takeWhile_append_of_stop (fun c hmem => decide_eq_true (hspaces c hmem)) (by simpa using hc)

theorem dropSpaces_append (rest : List Char) : dropSpaces (spaces ++ c :: rest) = c :: rest :=
  dropWhile_append_of_stop (fun c hmem => decide_eq_true (hspaces c hmem)) (by simpa using hc)

end

theorem words_dropSpaces (line : List Char) : words (dropSpaces line) = words line := by
  conv => rhs; rw [← leadingSpaces_append_dropSpaces line]
  rw [words_append_left (allBlank_leadingSpaces line)]

/-! ## The steps on lines -/

theorem cutOn?_eq_some {cs before on : List Char} (h : cutOn? cs = some (before, on)) :
    ∃ blanks, blanks ≠ [] ∧ allBlank blanks = true ∧ cs = before ++ blanks ++ on := by
  induction cs generalizing before with
  | nil => simp [cutOn?] at h
  | cons c rest ih =>
    simp only [cutOn?] at h
    split at h
    · next hcut =>
      simp only [Option.some.injEq, Prod.mk.injEq] at h
      obtain ⟨rfl, rfl⟩ := h
      simp only [Bool.and_eq_true] at hcut
      refine ⟨c :: rest.takeWhile isBlank, by simp, allBlank_cons.mpr ⟨hcut.1, List.all_takeWhile⟩, ?_⟩
      simp [List.takeWhile_append_dropWhile]
    · simp only [Option.map_eq_some_iff, Prod.mk.injEq, Prod.exists] at h
      obtain ⟨b, a, hrest, rfl, rfl⟩ := h
      obtain ⟨blanks, hne, hblank, rfl⟩ := ih hrest
      exact ⟨blanks, hne, hblank, by simp⟩

theorem flatMap_words_breakLine (unit : Nat) (line : List Char) :
    (breakLine unit line).flatMap words = words line := by
  have whole : [line].flatMap words = words line := by simp
  simp only [breakLine]
  split
  · split
    · next before on hcut =>
      split
      · exact whole
      · obtain ⟨blanks, hne, hblank, hcs⟩ := cutOn?_eq_some hcut
        have hspaces : allBlank (List.replicate unit ' ') = true := allBlank_replicate (by decide) unit
        simp only [List.flatMap_cons, List.flatMap_nil, List.append_nil, List.append_assoc]
        rw [words_append_left (allBlank_leadingSpaces line),
          words_append_left (allBlank_leadingSpaces line), words_append_left hspaces,
          ← words_append_between hne hblank, ← hcs, words_dropSpaces]
    · exact whole
  · exact whole

theorem flatMap_words_breakJoinOn (unit : Nat) (lines : List (List Char)) :
    (breakJoinOn unit lines).flatMap words = lines.flatMap words := by
  simp only [breakJoinOn, List.flatMap_assoc, flatMap_words_breakLine]

theorem flatMap_words_spaceClauses (extra : Nat) (lines : List (List Char)) :
    (spaceClauses extra lines).flatMap words = lines.flatMap words := by
  have spaced : ∀ line : List Char,
      (if startsClause line then List.replicate extra [] ++ [line] else [line]).flatMap words =
        words line := by
    intro line
    split <;> simp [List.flatMap_replicate]
  cases lines with
  | nil => rfl
  | cons first rest => simp only [spaceClauses, List.flatMap_cons, List.flatMap_assoc, spaced]

theorem words_reindent {indent : List Char} (hindent : allBlank indent = true) (unit : Nat)
    (line : List Char) : words (reindent indent unit line) = words line := by
  rw [← words_dropSpaces line]
  simp only [reindent]
  split
  · next hempty =>
    rw [List.isEmpty_iff.mp hempty]
  · have hindents : allBlank (List.replicate ((leadingSpaces line).length / unit) indent).flatten =
        true := allBlank_flatten fun part hpart => by
      rwa [(List.mem_replicate.mp hpart).2]
    rw [List.append_assoc, words_append_left hindents,
      words_append_left (allBlank_replicate (by decide) _)]

/-- All steps on lines together keep the words of the lines. -/
theorem flatMap_words_finishLines {options : Options}
    (hindent : allBlank options.indent.toList = true) (lines : List (List Char)) :
    (finishLines options lines).flatMap words = lines.flatMap words := by
  simp only [finishLines, List.flatMap_map, words_reindent hindent]
  split <;> split <;> simp only [flatMap_words_spaceClauses, flatMap_words_breakJoinOn]

/-! ## Statements and the whole text -/

/-- What valid options ask of the layout. -/
def requestOf (options : Options) : Request where
  upper := options.toggle .uppercaseKeywords
  reindent := 0 < options.count .clauseBreaks
  step := .integer (unit options)
  wrapAfter :=
    .integer (if options.toggle .expandCommaLists then 0 else options.count .maxLineWidth)
  commaFirst := !options.toggle .trailingCommas

theorem isOn_value (options : Options) (t : Toggle) :
    Record.isOn options.value t = options.toggle t :=
  congrFun (congrArg Options.toggle (Record.nearest_value options)) t

theorem stepOf_value (options : Options) :
    stepOf options.value { numerator := options.count .spacesPerTab } =
      .integer (unit options) := by
  by_cases h : 1 ≤ options.count .spacesPerTab
  · have hunit : unit options = options.count .spacesPerTab := Nat.max_eq_left h
    have hone : (1 : Int) ≤ options.count .spacesPerTab := by omega
    simp [stepOf, Toml.Quantity.atLeast, Options.value, hunit, hone]
  · have hunit : unit options = 1 := Nat.max_eq_right (by omega)
    have hone : ¬ (1 : Int) ≤ options.count .spacesPerTab := by omega
    simp [stepOf, Toml.Quantity.atLeast, hunit, hone]

theorem request_value (options : Options) : request options.value = .ok (requestOf options) := by
  have hcount : ∀ c, Record.quantity? options.value c = some { numerator := options.count c } :=
    fun _ => rfl
  simp only [request, hcount, stepOf_value, isOn_value, requestOf, Toml.Quantity.exceeds]
  cases options.toggle .expandCommaLists <;> simp [Options.value]

theorem formatStatement_value (tools : Tools) {options : Options}
    (hindent : allBlank options.indent.toList = true) {k : Nat} {statement laidOut : String}
    (h : tools.layOut k (requestOf options) statement = .ok laidOut) :
    ∃ text, formatStatement tools options.value k statement = .ok text ∧
      words text = words laidOut.toList := by
  have hfinal : formatStatement tools options.value k statement =
      .ok (joinLines (finishLines options (splitLines laidOut.toList))) := by
    simp only [formatStatement, request_value, h, finish_value]
  refine ⟨_, hfinal, ?_⟩
  rw [words_joinLines, flatMap_words_finishLines hindent, flatMap_words_splitLines]

/-- Tools that answer every question, in whatever way. -/
def Tools.ofAnswers (hasErrors : Option String → String → Bool) (split : String → List String)
    (layOut : Nat → Request → String → String) : Tools where
  hasErrors dialect text := .ok (hasErrors dialect text)
  split := split
  layOut k request statement := .ok (layOut k request statement)

/-- The final forms of statements have the words of their layouts, in order. -/
theorem formatStatements_value {options : Options} (hindent : allBlank options.indent.toList = true)
    (hasErrors : Option String → String → Bool) (split : String → List String)
    (layOut : Nat → Request → String → String) (statements : List String) (k : Nat) :
    ∃ texts, formatStatements (.ofAnswers hasErrors split layOut) options.value k statements =
        .ok texts ∧
      texts.flatMap words = (statements.zipIdx k).flatMap fun (statement, k) =>
        words (layOut k (requestOf options) statement).toList := by
  induction statements generalizing k with
  | nil => exact ⟨[], rfl, rfl⟩
  | cons statement rest ih =>
    obtain ⟨texts, hrest, hwords⟩ := ih (k + 1)
    have hlaid : (Tools.ofAnswers hasErrors split layOut).layOut k (requestOf options) statement =
        .ok (layOut k (requestOf options) statement) := rfl
    obtain ⟨text, htext, hword⟩ := formatStatement_value _ hindent hlaid
    refine ⟨text :: texts, by simp only [formatStatements, htext, hrest], ?_⟩
    simp only [List.flatMap_cons, List.zipIdx_cons, hword, hwords]

theorem separatorOf_ne_nil (breaks : Nat) : separatorOf breaks ≠ [] := by
  simp only [separatorOf]
  split
  · simp only [ne_eq, List.replicate_eq_nil_iff]
    omega
  · simp

theorem allBlank_separatorOf (breaks : Nat) : allBlank (separatorOf breaks) = true := by
  simp only [separatorOf]
  split
  · exact allBlank_replicate (by decide) breaks
  · decide

theorem words_assemble (breaks : Nat) (input : List Char) (texts : List (List Char)) :
    words (assemble (separatorOf breaks) input texts) = texts.flatMap words := by
  have hend : allBlank (if input.getLast? = some '\n' then ['\n'] else []) = true := by
    split <;> decide
  rw [assemble, words_append_right _ hend,
    words_intercalate (separatorOf_ne_nil breaks) (allBlank_separatorOf breaks)]

/-- **The engine keeps every word.** With an indent of blanks, whatever the other options are and
whatever the tools answer, a formatted text has the words of the layouts of its statements that are
not blank, in order; a blank text stays as it is and has no errors. -/
theorem words_formatWith (options : Options) (dialect : Option String)
    (hindent : allBlank options.indent.toList = true)
    (hasErrors : Option String → String → Bool) (split : String → List String)
    (layOut : Nat → Request → String → String) (text : String) :
    let format := formatWith (.ofAnswers hasErrors split layOut) ⟨options.value, dialect⟩
    let statements := (split text).filter fun statement => !allBlank statement.toList
    (allBlank text.toList = true → format text = .ok ⟨text, false⟩) ∧
      (allBlank text.toList = false → ∃ result, format text = .ok result ∧
        result.hadErrors = hasErrors dialect text ∧
        words result.text.toList = statements.zipIdx.flatMap fun (statement, k) =>
          words (layOut k (requestOf options) statement).toList) := by
  intro format statements
  constructor
  · intro hblank
    simp only [format, formatWith, hblank, if_true]
  · intro hfilled
    obtain ⟨texts, htexts, hwords⟩ :=
      formatStatements_value hindent hasErrors split layOut statements 0
    refine ⟨⟨String.ofList (assemble (separatorOf (options.count .statementBreaks)) text.toList
      texts), hasErrors dialect text⟩, ?_, rfl, ?_⟩
    · have hstatements : statementsOf (.ofAnswers hasErrors split layOut) text = statements := rfl
      simp only [format, formatWith, hfilled, hstatements, htexts, separator_value]
      rfl
    · rw [String.toList_ofList, words_assemble, hwords]

/-- Options that leave as little as they can between words: no indent, no line end between
statements, and every step on lines at work. -/
def tightOptions : Options where
  indent := ""
  count := fun
    | .spacesPerTab => 0
    | .clauseBreaks => 2
    | _ => 0
  toggle := fun _ => true

theorem words_formatWith_tightOptions :
    allBlank tightOptions.indent.toList = true ∧
      ∃ result, formatWith (.ofAnswers (fun _ _ => true) (fun text => [text, " ", text])
          fun _ _ statement => "SELECT " ++ statement ++ "\n  LEFT JOIN u\tON v")
          ⟨tightOptions.value, none⟩ "a" = .ok result ∧ result.hadErrors = true ∧
        (words result.text.toList).map String.ofList =
          ["SELECT", "a", "LEFT", "JOIN", "u", "ON", "v", "SELECT", "a", "LEFT", "JOIN", "u", "ON",
            "v"] := by
  have hindent : allBlank tightOptions.indent.toList = true := by decide
  obtain ⟨result, hresult, herrors, hwords⟩ := (words_formatWith tightOptions none hindent
    (fun _ _ => true) (fun text => [text, " ", text])
    (fun _ _ statement => "SELECT " ++ statement ++ "\n  LEFT JOIN u\tON v") "a").2 (by decide)
  refine ⟨hindent, result, hresult, herrors, ?_⟩
  rw [hwords]
  decide

end SqlDesk.Engine
