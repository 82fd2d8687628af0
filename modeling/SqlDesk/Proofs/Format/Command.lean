/-
What the format command does to a plain document.

`formatText_cases` lists the ways in which a document that is to be formatted can end: the engine
fails, the prompt about errors fails or is declined, or the document is replaced. Everything but the
last leaves the document as it was, and what the last does to it is `replaceSpan_selection` and
`replaceSpan_whole`. `formatLaw_run` puts them together for every run of a command.
-/
import SqlDesk.Format.Command
import SqlDesk.Proofs.Format.Span

namespace SqlDesk

/-! ## The write-back -/

namespace PlainDocument

/-- The document with the caret at an offset and nothing selected. -/
def withText (document : PlainDocument) (text : List Char) (caret : Int) : PlainDocument :=
  { document with text := text, selection := ⟨caret, caret⟩ }

end PlainDocument

theorem replaceSpan_selection {document : PlainDocument} {first last : Nat} {caret : Int}
    (hfirst : first ≤ document.text.length) (hlast : last ≤ document.text.length)
    (text : List Char) :
    replaceSpan PlainDocument.view ⟨first, last, true, caret⟩ text document =
      { outcome := .ok .formattedSelection
        document := document.withText
          (document.text.take first ++ text ++ document.text.drop last) (first + text.length) } := by
  simp only [replaceSpan, if_true, PlainDocument.view, PlainDocument.replaceRange,
    Text.place_ofNat hfirst, Text.place_ofNat hlast, PlainDocument.withText]

theorem replaceSpan_whole {document : PlainDocument} {first last caret : Int} (text : List Char) :
    replaceSpan PlainDocument.view ⟨first, last, false, caret⟩ text document =
      { outcome := .ok .formattedDocument
        document := document.withText text
          (remapCaret caret document.text.length text.length) } := by
  have hlow := remapCaret_nonneg caret document.text.length (Int.natCast_nonneg text.length)
  have hhigh := remapCaret_le caret document.text.length (Int.natCast_nonneg text.length)
  simp only [replaceSpan, Bool.false_eq_true, if_false, PlainDocument.view,
    PlainDocument.setCaret, PlainDocument.replaceAll, PlainDocument.withText]
  rw [Int.max_eq_left hlow, Int.min_eq_left hhigh]

theorem replaceSpan_asks {δ : Type} (view : DocumentView δ) (span : Span) (text : List Char)
    (document : δ) : (replaceSpan view span text document).inputs = [] ∧
      (replaceSpan view span text document).prompts = [] := by
  simp only [replaceSpan]
  split
  · exact ⟨rfl, rfl⟩
  · exact ⟨rfl, rfl⟩

/-! ## The ways in which a run ends -/

/-- A document that is to be formatted is kept, because the engine fails or its errors are not
accepted, or it is replaced. The engine is asked about the span either way. -/
theorem formatText_cases {δ : Type} (view : DocumentView δ) (engine : Formatter)
    (answers : Answers) (asked : Nat) (document : δ) :
    let span := Span.of (view.text document) (view.selection document)
    let input := String.ofList (span.target (view.text document))
    let run := formatText view engine answers asked document
    run.inputs = [input] ∧
      ((run.document = document ∧
          ((∃ e, run.outcome = .error e) ∨ run.outcome = .ok .declinedParseErrors) ∧
          (∀ e, engine input = .error e → run.outcome = .error e) ∧
          ∀ result, engine input = .ok result →
            result.hadErrors = true ∧ answers asked ≠ .ok true) ∨
        ∃ result, engine input = .ok result ∧
          (result.hadErrors = true → answers asked = .ok true) ∧
          run.outcome = (replaceSpan view span result.text.toList document).outcome ∧
          run.document = (replaceSpan view span result.text.toList document).document) := by
  intro span input run
  have hreplaced : ∀ text, (replaceSpan view span text document).inputs = [] :=
    fun text => (replaceSpan_asks view span text document).1
  cases hengine : engine input with
  | error e =>
    have hrun : run = FormatRun.asking input { outcome := .error e, document := document } := by
      simp only [input, span] at hengine
      simp only [run, formatText, hengine, input, span]
    rw [hrun]
    refine ⟨rfl, .inl ⟨rfl, .inl ⟨e, rfl⟩, ?_⟩⟩
    simp [FormatRun.asking]
  | ok result =>
    cases herrors : result.hadErrors with
    | false =>
      have hrun : run = FormatRun.asking input
          (replaceSpan view span result.text.toList document) := by
        simp only [input, span] at hengine
        simp [run, formatText, hengine, herrors, input, span]
      rw [hrun]
      refine ⟨by simp [FormatRun.asking, hreplaced], .inr ⟨result, rfl, ?_⟩⟩
      simp [FormatRun.asking, herrors]
    | true =>
      cases hanswer : answers asked with
      | error e =>
        have hrun : run = FormatRun.asking input (FormatRun.after .parseErrors
            { outcome := .error e, document := document }) := by
          simp only [input, span] at hengine
          simp [run, formatText, hengine, herrors, hanswer, input, span]
        rw [hrun]
        refine ⟨rfl, .inl ?_⟩
        simp [FormatRun.asking, FormatRun.after, herrors]
      | ok yes =>
        cases yes with
        | false =>
          have hrun : run = FormatRun.asking input (FormatRun.after .parseErrors
              { outcome := .ok .declinedParseErrors, document := document }) := by
            simp only [input, span] at hengine
            simp [run, formatText, hengine, herrors, hanswer, input, span]
          rw [hrun]
          refine ⟨rfl, .inl ?_⟩
          simp [FormatRun.asking, FormatRun.after, herrors]
        | true =>
          have hrun : run = FormatRun.asking input (FormatRun.after .parseErrors
              (replaceSpan view span result.text.toList document)) := by
            simp only [input, span] at hengine
            simp [run, formatText, hengine, herrors, hanswer, input, span]
          rw [hrun]
          refine ⟨by simp [FormatRun.asking, FormatRun.after, hreplaced], .inr ⟨result, rfl, ?_⟩⟩
          simp [FormatRun.asking, FormatRun.after]

/-- A document is kept because the prompt about its type fails or is declined, or it is formatted,
which takes the extension or the consent of the user. -/
theorem formatDocument_cases {δ : Type} (view : DocumentView δ) (ext : String)
    (engine : Formatter) (answers : Answers) (document : δ) :
    let run := formatDocument view ext engine answers document
    let isSql := Path.hasExtension (view.path document) ext
    (isSql = false ∧ answers 0 ≠ .ok true ∧ run.inputs = [] ∧ run.document = document ∧
        ((∃ e, run.outcome = .error e) ∨ run.outcome = .ok .declinedFileType)) ∨
      ((isSql = false → answers 0 = .ok true) ∧
        ∃ prompts, (isSql = false → prompts.head? = some (.fileType ext)) ∧ run =
          { formatText view engine answers (if isSql then 0 else 1) document with prompts }) := by
  intro run isSql
  simp only [run, formatDocument]
  cases hsql : isSql with
  | true =>
    simp only [isSql] at hsql
    refine .inr ⟨by simp, (formatText view engine answers 0 document).prompts, by simp, ?_⟩
    simp [hsql]
  | false =>
    simp only [isSql] at hsql
    rw [hsql]
    cases hanswer : answers 0 with
    | error e => exact .inl ⟨rfl, by simp, rfl, rfl, .inl ⟨e, rfl⟩⟩
    | ok yes =>
      cases yes with
      | false => exact .inl ⟨rfl, by simp, rfl, rfl, .inr rfl⟩
      | true => exact .inr ⟨fun _ => rfl, _, fun _ => rfl, rfl⟩

/-- Whatever a run comes to, the document is as it was or has had a span replaced. -/
theorem Command.run_document {δ : Type} (command : Command) (view : DocumentView δ)
    (answers : Answers) (document : δ) :
    (command.run view answers document).document = document ∨ ∃ span text,
      (command.run view answers document).document =
        (replaceSpan view span text document).document := by
  rcases formatDocument_cases view command.sqlExtension command.engine.format answers document with
    ⟨-, -, -, hkept, -⟩ | ⟨-, prompts, -, hrun⟩
  · exact .inl hkept
  rw [Command.run, hrun]
  rcases (formatText_cases view command.engine.format answers _ document).2 with
    ⟨hkept, -⟩ | ⟨result, -, -, -, hreplaced⟩
  · exact .inl hkept
  · exact .inr ⟨_, _, hreplaced⟩

theorem formatText_prompts {δ : Type} (view : DocumentView δ) (engine : Formatter)
    (answers : Answers) (asked : Nat) (document : δ) {prompt : Prompt}
    (h : prompt ∈ (formatText view engine answers asked document).prompts) :
    prompt = .parseErrors := by
  have hreplaced : ∀ span text, (replaceSpan view span text document).prompts = [] :=
    fun span text => (replaceSpan_asks view span text document).2
  simp only [formatText, FormatRun.asking] at h
  split at h
  · simp at h
  · split at h
    · simp only [FormatRun.after, List.mem_cons] at h
      rcases h with rfl | h
      · rfl
      · split at h <;> simp [hreplaced] at h
    · simp [hreplaced] at h

theorem Command.run_of_isSql {δ : Type} {command : Command} {view : DocumentView δ}
    {document : δ} (hsql : command.isSql (view.path document) = true) (answers : Answers) :
    command.run view answers document =
      formatText view command.engine.format answers 0 document := by
  rw [Command.run, formatDocument]
  exact if_pos hsql

/-! ## Every run -/

/-- The law of the format command on a plain document. Declining a prompt or failing leaves the
document as it was. Formatting a selection changes the part that it covers and nothing else,
formatting a document all of it, and either asks the engine once and about exactly that part. A
document without the extension of the command reaches the engine only with the consent of the user,
and one that reaches it is formatted unless the engine fails or its errors are not accepted. -/
structure FormatLaw (command : Command) (answers : Answers) (document : PlainDocument)
    (run : FormatRun PlainDocument) : Prop where
  declined : run.outcome = .ok .declinedFileType ∨ run.outcome = .ok .declinedParseErrors →
    run.document = document
  failed : ∀ e, run.outcome = .error e → run.document = document
  raised : ∀ input e, run.inputs = [input] → command.engine.format input = .error e →
    run.outcome = .error e
  selection : run.outcome = .ok .formattedSelection →
    ∃ (first last : Nat) (result : FormatResult),
      document.selection.Covers document.text first last ∧
      first < last ∧ last - first < document.text.length ∧
      run.inputs = [String.ofList ((document.text.take last).drop first)] ∧
      command.engine.format (String.ofList ((document.text.take last).drop first)) = .ok result ∧
      run.document = document.withText
        (document.text.take first ++ result.text.toList ++ document.text.drop last)
        (first + result.text.toList.length)
  whole : run.outcome = .ok .formattedDocument →
    ∃ (first last : Nat) (result : FormatResult),
      document.selection.Covers document.text first last ∧
      (first = last ∨ last - first = document.text.length) ∧
      run.inputs = [String.ofList document.text] ∧
      command.engine.format (String.ofList document.text) = .ok result ∧
      run.document = document.withText result.text.toList
        (remapCaret last document.text.length result.text.toList.length)
  gate : command.isSql document.path = false → run.inputs ≠ [] →
    run.prompts.head? = some (.fileType command.sqlExtension) ∧ answers 0 = .ok true
  asks : command.isSql document.path = true ∨ answers 0 = .ok true → ∃ input, run.inputs = [input]
  formats : ∀ input result, run.inputs = [input] → command.engine.format input = .ok result →
    (result.hadErrors = true → answers (if command.isSql document.path then 0 else 1) = .ok true) →
    run.outcome = .ok .formattedSelection ∨ run.outcome = .ok .formattedDocument

namespace FormatLaw

variable {command : Command} {answers : Answers} {document : PlainDocument}
  {run : FormatRun PlainDocument}

theorem of_refused (hoff : command.isSql document.path = false) (hanswer : answers 0 ≠ .ok true)
    (hinputs : run.inputs = []) (hdocument : run.document = document)
    (houtcome : (∃ e, run.outcome = .error e) ∨ run.outcome = .ok .declinedFileType) :
    FormatLaw command answers document run where
  declined _ := hdocument
  failed _ _ := hdocument
  raised input e hinput := by simp [hinputs] at hinput
  selection h := by simp [h] at houtcome
  whole h := by simp [h] at houtcome
  gate _ hasked := absurd hinputs hasked
  asks h := by simp [hoff, hanswer] at h
  formats input result hinput := by simp [hinputs] at hinput

/-- A run that asks the engine about `input` and leaves the document as it was, because the engine
fails or its errors are not accepted. -/
theorem of_kept {input : String}
    (hgate : command.isSql document.path = false →
      run.prompts.head? = some (.fileType command.sqlExtension) ∧ answers 0 = .ok true)
    (hinputs : run.inputs = [input]) (hdocument : run.document = document)
    (houtcome : (∃ e, run.outcome = .error e) ∨ run.outcome = .ok .declinedParseErrors)
    (hraised : ∀ e, command.engine.format input = .error e → run.outcome = .error e)
    (hkept : ∀ result, command.engine.format input = .ok result → result.hadErrors = true ∧
      answers (if command.isSql document.path then 0 else 1) ≠ .ok true) :
    FormatLaw command answers document run where
  declined _ := hdocument
  failed _ _ := hdocument
  raised input' e hinput he := by
    obtain rfl : input = input' := by simpa [hinputs] using hinput
    exact hraised e he
  selection h := by simp [h] at houtcome
  whole h := by simp [h] at houtcome
  gate hoff _ := hgate hoff
  asks _ := ⟨input, hinputs⟩
  formats input' result hinput hresult haccepted := by
    obtain rfl : input = input' := by simpa [hinputs] using hinput
    obtain ⟨herrors, hrefused⟩ := hkept result hresult
    exact absurd (haccepted herrors) hrefused

theorem of_selection {first last : Nat} {result : FormatResult}
    (hgate : command.isSql document.path = false →
      run.prompts.head? = some (.fileType command.sqlExtension) ∧ answers 0 = .ok true)
    (hcovers : document.selection.Covers document.text first last) (hlt : first < last)
    (hshort : last - first < document.text.length)
    (hinputs : run.inputs = [String.ofList ((document.text.take last).drop first)])
    (hengine : command.engine.format (String.ofList ((document.text.take last).drop first)) =
      .ok result)
    (houtcome : run.outcome = .ok .formattedSelection)
    (hdocument : run.document = document.withText
      (document.text.take first ++ result.text.toList ++ document.text.drop last)
      (first + result.text.toList.length)) :
    FormatLaw command answers document run where
  declined h := by simp [houtcome] at h
  failed e h := by simp [houtcome] at h
  raised input e hinput he := by
    obtain rfl := List.singleton_inj.mp (hinputs.symm.trans hinput)
    simp [hengine] at he
  selection _ := ⟨first, last, result, hcovers, hlt, hshort, hinputs, hengine, hdocument⟩
  whole h := by simp [houtcome] at h
  gate hoff _ := hgate hoff
  asks _ := ⟨_, hinputs⟩
  formats _ _ _ _ _ := .inl houtcome

theorem of_whole {first last : Nat} {result : FormatResult}
    (hgate : command.isSql document.path = false →
      run.prompts.head? = some (.fileType command.sqlExtension) ∧ answers 0 = .ok true)
    (hcovers : document.selection.Covers document.text first last)
    (hall : first = last ∨ last - first = document.text.length)
    (hinputs : run.inputs = [String.ofList document.text])
    (hengine : command.engine.format (String.ofList document.text) = .ok result)
    (houtcome : run.outcome = .ok .formattedDocument)
    (hdocument : run.document = document.withText result.text.toList
      (remapCaret last document.text.length result.text.toList.length)) :
    FormatLaw command answers document run where
  declined h := by simp [houtcome] at h
  failed e h := by simp [houtcome] at h
  raised input e hinput he := by
    obtain rfl := List.singleton_inj.mp (hinputs.symm.trans hinput)
    simp [hengine] at he
  selection h := by simp [houtcome] at h
  whole _ := ⟨first, last, result, hcovers, hall, hinputs, hengine, hdocument⟩
  gate hoff _ := hgate hoff
  asks _ := ⟨_, hinputs⟩
  formats _ _ _ _ _ := .inr houtcome

end FormatLaw

/-- **The law of the format command** holds for every command, every document with a selection in
its text, and all answers. -/
theorem formatLaw_run (command : Command) (answers : Answers) (document : PlainDocument)
    (h : document.selection.Inside document.text) :
    FormatLaw command answers document (command.run PlainDocument.view answers document) := by
  rcases formatDocument_cases PlainDocument.view command.sqlExtension command.engine.format answers
      document with ⟨hoff, hanswer, hinputs, hdocument, houtcome⟩ |
    ⟨hconsent, prompts, hprompt, hrun⟩
  · exact .of_refused hoff hanswer hinputs hdocument houtcome
  have hgate : command.isSql document.path = false →
      prompts.head? = some (.fileType command.sqlExtension) ∧ answers 0 = .ok true :=
    fun hoff => ⟨hprompt hoff, hconsent hoff⟩
  rw [Command.run, hrun]
  obtain ⟨hinputs, hcases⟩ := formatText_cases PlainDocument.view command.engine.format answers
    (if command.isSql document.path then 0 else 1) document
  rcases hcases with ⟨hdocument, houtcome, hraised, hkept⟩ |
    ⟨result, hengine, -, houtcome, hdocument⟩
  · exact .of_kept hgate hinputs hdocument houtcome hraised hkept
  obtain ⟨first, last, hcovers, hspan⟩ := Span.of_eq h
  have hle := hcovers.le
  have hlast := hcovers.last_le h
  change Span.of (PlainDocument.view.text document) (PlainDocument.view.selection document) = _
    at hspan
  rw [hspan] at hinputs hengine houtcome hdocument
  by_cases hpart : first < last ∧ last - first < document.text.length
  · have honly : (decide (first < last) && decide (last - first < document.text.length)) = true := by
      simpa using hpart
    have htarget : Span.target ⟨first, last, true, last⟩ (PlainDocument.view.text document) =
        (document.text.take last).drop first := by
      simp only [Span.target, if_true]
      exact Text.slice_ofNat document.text (by omega) hlast
    rw [honly, htarget] at hinputs hengine
    rw [honly] at houtcome hdocument
    rw [replaceSpan_selection (by omega) hlast] at houtcome hdocument
    exact .of_selection hgate hcovers hpart.1 hpart.2 hinputs hengine houtcome hdocument
  · have honly : (decide (first < last) && decide (last - first < document.text.length)) = false := by
      simp only [Bool.and_eq_false_iff, decide_eq_false_iff_not]
      exact Classical.not_and_iff_not_or_not.mp hpart
    have htarget : Span.target ⟨first, last, false, last⟩ (PlainDocument.view.text document) =
        document.text := rfl
    rw [honly, htarget] at hinputs hengine
    rw [honly, replaceSpan_whole] at houtcome hdocument
    exact .of_whole hgate hcovers (by omega) hinputs hengine houtcome hdocument

/-- A selection made backwards, over a line end, in a document of another type. -/
theorem formatLaw_run_backwards :
    let command := Command.configured .factory (some fun text => .ok ⟨text ++ text, true⟩)
    let document : PlainDocument := ⟨"notes.txt", "ab c\nd".toList, ⟨5, 1⟩⟩
    let run := command.run PlainDocument.view (fun _ => .ok true) document
    document.selection.Inside document.text ∧
      FormatLaw command (fun _ => .ok true) document run ∧
      run.outcome.toOption = some .formattedSelection ∧
      run.document = document.withText "ab cb c\nd".toList 7 :=
  ⟨by decide, formatLaw_run _ _ _ (by decide), by decide +kernel, by decide +kernel⟩

end SqlDesk
