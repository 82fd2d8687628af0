/-
A document in the editor is formatted as the plain document that it shows.

The command sees both through a view, and all it learns from one is the path, the text and the
selection. So two documents on which these agree are formatted alike, up to what their views make of
the change (`formatDocument_related`). What the editor makes of it mirrors what the plain document
does: the texts are the same and the cursor is at the position of the caret
(`Mirrors.replaceRange`, `Mirrors.replaceAll`, `Mirrors.setCaret`).
-/
import SqlDesk.Proofs.Format.Command
import SqlDesk.Proofs.Text.Utf16

namespace SqlDesk

/-! ## Two views -/

/-- Whether a document was rewritten. -/
def Outcome.Rewrites (outcome : Except Failure Outcome) : Prop :=
  outcome = .ok .formattedSelection ∨ outcome = .ok .formattedDocument

theorem replaceSpan_rewrites {δ : Type} (view : DocumentView δ) (span : Span) (text : List Char)
    (document : δ) : Outcome.Rewrites (replaceSpan view span text document).outcome := by
  simp only [replaceSpan]
  split
  · exact .inl rfl
  · exact .inr rfl

/-- Two runs that end alike, ask the same things, and leave related documents. How the documents are
related may depend on the outcome. -/
structure FormatRun.Related {α β : Type} (R : Except Failure Outcome → α → β → Prop)
    (run : FormatRun α) (run' : FormatRun β) : Prop where
  outcome : run.outcome = run'.outcome
  prompts : run.prompts = run'.prompts
  inputs : run.inputs = run'.inputs
  documents : R run.outcome run.document run'.document

namespace FormatRun.Related

variable {α β : Type} {R : Except Failure Outcome → α → β → Prop} {run : FormatRun α}
  {run' : FormatRun β}

theorem after (h : Related R run run') (prompt : Prompt) :
    Related R (run.after prompt) (run'.after prompt) :=
  ⟨h.outcome, congrArg (prompt :: ·) h.prompts, h.inputs, h.documents⟩

theorem asking (h : Related R run run') (input : String) :
    Related R (run.asking input) (run'.asking input) :=
  ⟨h.outcome, h.prompts, congrArg (input :: ·) h.inputs, h.documents⟩

end FormatRun.Related

section

variable {α β : Type} {v : DocumentView α} {w : DocumentView β} {a : α} {b : β}
  {R : Except Failure Outcome → α → β → Prop}

theorem formatText_related (htext : v.text a = w.text b)
    (hselection : v.selection a = w.selection b)
    (hkept : ∀ outcome, ¬ Outcome.Rewrites outcome → R outcome a b)
    (hreplaced : ∀ text, FormatRun.Related R
      (replaceSpan v (Span.of (v.text a) (v.selection a)) text a)
      (replaceSpan w (Span.of (v.text a) (v.selection a)) text b))
    (engine : Formatter) (answers : Answers) (asked : Nat) :
    FormatRun.Related R (formatText v engine answers asked a)
      (formatText w engine answers asked b) := by
  have hfailed : ∀ e, FormatRun.Related R { outcome := .error e, document := a }
      { outcome := .error e, document := b } :=
    fun e => ⟨rfl, rfl, rfl, hkept _ (by simp [Outcome.Rewrites])⟩
  have hdeclined : FormatRun.Related R { outcome := .ok .declinedParseErrors, document := a }
      { outcome := .ok .declinedParseErrors, document := b } :=
    ⟨rfl, rfl, rfl, hkept _ (by simp [Outcome.Rewrites])⟩
  simp only [formatText, ← htext, ← hselection]
  refine .asking ?_ _
  split
  · exact hfailed _
  · next result _ =>
    split
    · refine .after ?_ _
      split
      · exact hfailed _
      · exact hdeclined
      · exact hreplaced _
    · exact hreplaced _

/-- **Documents that agree are formatted alike**: on the path, the text and the selection. -/
theorem formatDocument_related (hpath : v.path a = w.path b) (htext : v.text a = w.text b)
    (hselection : v.selection a = w.selection b)
    (hkept : ∀ outcome, ¬ Outcome.Rewrites outcome → R outcome a b)
    (hreplaced : ∀ text, FormatRun.Related R
      (replaceSpan v (Span.of (v.text a) (v.selection a)) text a)
      (replaceSpan w (Span.of (v.text a) (v.selection a)) text b))
    (ext : String) (engine : Formatter) (answers : Answers) :
    FormatRun.Related R (formatDocument v ext engine answers a)
      (formatDocument w ext engine answers b) := by
  have hformatted := formatText_related htext hselection hkept hreplaced engine answers
  simp only [formatDocument, ← hpath]
  split
  · exact hformatted 0
  · refine .after ?_ _
    split
    · exact ⟨rfl, rfl, rfl, hkept _ (by simp [Outcome.Rewrites])⟩
    · exact ⟨rfl, rfl, rfl, hkept _ (by simp [Outcome.Rewrites])⟩
    · exact hformatted 1

end

/-! ## The widget -/

theorem Text.exists_parts {text : List Char} {first last : Nat} (hle : first ≤ last)
    (hlast : last ≤ text.length) : ∃ front middle back, text = front ++ middle ++ back ∧
      front.length = first ∧ (front ++ middle).length = last := by
  refine ⟨text.take first, (text.take last).drop first, text.drop last, ?_, ?_, ?_⟩
  · have hsplit := List.take_append_drop first (text.take last)
    rw [List.take_take, Nat.min_eq_left hle] at hsplit
    rw [hsplit, List.take_append_drop]
  · rw [List.length_take, Nat.min_eq_left (Nat.le_trans hle hlast)]
  · simp only [List.length_append, List.length_take, List.length_drop]
    omega

namespace TextWidget

theorem moveTo_eq {widget : TextWidget} {position : Nat} (h : position ≤ widget.size) :
    widget.moveTo position = { widget with anchor := position, position := position } := by
  simp [moveTo, position?, h]

theorem select_eq {widget : TextWidget} {anchor position : Nat} (hanchor : anchor ≤ widget.size)
    (hposition : position ≤ widget.size) :
    widget.select anchor position = { widget with anchor := anchor, position := position } := by
  have hsize : position ≤
      ({ widget with anchor := anchor, position := anchor } : TextWidget).size := hposition
  rw [select, moveTo_eq hanchor]
  simp [extendTo, position?, hsize]

theorem insert_eq {widget : TextWidget} {front middle back : List Char}
    (htext : widget.text = front ++ middle ++ back)
    (hanchor : widget.anchor = Text.Utf16.size front)
    (hposition : widget.position = Text.Utf16.size (front ++ middle)) (text : List Char) :
    widget.insert text = ⟨front ++ text ++ back, Text.Utf16.size (front ++ text),
      Text.Utf16.size (front ++ text), true⟩ := by
  have hsize := Text.Utf16.size_append front middle
  have hmin : min (widget.anchor : Int) widget.position = Text.Utf16.size front := by omega
  have hmax : max (widget.anchor : Int) widget.position = Text.Utf16.size (front ++ middle) := by
    omega
  have hbefore : widget.before = front := by
    rw [before, hmin, htext, List.append_assoc, Text.Utf16.toOffset_append, List.take_left]
  have hafter : widget.after = back := by
    rw [after, hmax, htext, Text.Utf16.toOffset_append, List.drop_left]
  rw [insert, hbefore, hafter]

end TextWidget

/-! ## The editor -/

namespace EditorDocument

/-- The plain document that the editor shows: offsets of characters in the place of positions. -/
def plain (document : EditorDocument) : PlainDocument :=
  ⟨document.path, document.text, document.selection⟩

theorem selection_inside (document : EditorDocument) :
    document.selection.Inside document.text := by
  have hanchor := Text.Utf16.toOffset_le document.text document.widget.anchor
  have hposition := Text.Utf16.toOffset_le document.text document.widget.position
  simp only [Selection.Inside, Selection.start, Selection.stop, selection]
  omega

theorem modified_replaceSpan (document : EditorDocument) (span : Span) (text : List Char) :
    (replaceSpan view span text document).document.widget.modified = true := by
  have hmoved : ∀ (widget : TextWidget) (position : Int),
      (widget.moveTo position).modified = widget.modified := by
    intro widget position
    simp only [TextWidget.moveTo]
    split <;> rfl
  simp only [replaceSpan]
  split
  · rfl
  · exact hmoved _ _

/-- The editor shows a plain document in which nothing is selected, with the cursor at the position
of the caret. -/
structure Mirrors (document : EditorDocument) (plain : PlainDocument) : Prop where
  path : document.path = plain.path
  text : document.text = plain.text
  caret : ∃ n ≤ plain.text.length, plain.selection = ⟨n, n⟩ ∧
    document.widget.anchor = Text.Utf16.ofOffset plain.text n ∧
    document.widget.position = Text.Utf16.ofOffset plain.text n

namespace Mirrors

variable {document : EditorDocument} {plain : PlainDocument}

/-- What the cursor shows is the caret, so nothing was lost on the way to the position. -/
theorem plain_eq (h : Mirrors document plain) : document.plain = plain := by
  obtain ⟨n, hn, hselection, hanchor, hposition⟩ := h.caret
  have hback := Text.Utf16.toOffset_ofOffset hn
  have hshown : document.selection = plain.selection := by
    rw [selection, h.text, hanchor, hposition, hback, hselection]
  rw [EditorDocument.plain, h.path, h.text, hshown]

theorem replaceRange (hpath : document.path = plain.path) (htext : document.text = plain.text)
    {first last : Nat} (hle : first ≤ last) (hlast : last ≤ plain.text.length) (text : List Char) :
    Mirrors (document.replaceRange first last text) (plain.replaceRange first last text) := by
  have hfirst : first ≤ plain.text.length := Nat.le_trans hle hlast
  have hsize : document.widget.size = Text.Utf16.size plain.text := congrArg _ htext
  have hselect : document.widget.select (document.positionOf first) (document.positionOf last) =
      { document.widget with
        anchor := Text.Utf16.ofOffset plain.text first
        position := Text.Utf16.ofOffset plain.text last } := by
    rw [positionOf, positionOf, htext]
    exact TextWidget.select_eq (hsize ▸ Text.Utf16.ofOffset_le_size _ _)
      (hsize ▸ Text.Utf16.ofOffset_le_size _ _)
  obtain ⟨front, middle, back, hparts, hfront, hmiddle⟩ := Text.exists_parts hle hlast
  have htake : plain.text.take first = front := by
    rw [hparts, List.append_assoc, ← hfront, List.take_left]
  have hdrop : plain.text.drop last = back := by
    rw [hparts, ← hmiddle, List.drop_left]
  have hanchor : Text.Utf16.ofOffset plain.text first = Text.Utf16.size front := by
    rw [hparts, List.append_assoc, ← hfront, Text.Utf16.ofOffset_append]
  have hposition : Text.Utf16.ofOffset plain.text last = Text.Utf16.size (front ++ middle) := by
    rw [hparts, ← hmiddle, Text.Utf16.ofOffset_append]
  have hinsert : (document.widget.select (document.positionOf first)
      (document.positionOf last)).insert text =
      ⟨front ++ text ++ back, Text.Utf16.size (front ++ text), Text.Utf16.size (front ++ text),
        true⟩ := by
    rw [hselect]
    refine TextWidget.insert_eq (?_ : _ = front ++ middle ++ back) hanchor hposition text
    exact htext.trans hparts
  have hcaret : (front ++ text).length = first + text.length := by
    rw [List.length_append, hfront]
  have hcursor := Text.Utf16.ofOffset_append (front ++ text) back
  have hplain : plain.replaceRange first last text =
      ⟨plain.path, front ++ text ++ back, (front ++ text).length, (front ++ text).length⟩ := by
    simp only [PlainDocument.replaceRange, Text.place_ofNat hfirst, Text.place_ofNat hlast, hcaret,
      Int.natCast_add, htake, hdrop]
  rw [hplain, EditorDocument.replaceRange, hinsert]
  have hinside : (front ++ text).length ≤ (front ++ text ++ back).length :=
    (List.prefix_append _ _).length_le
  exact ⟨hpath, rfl, (front ++ text).length, hinside, rfl, hcursor.symm, hcursor.symm⟩

theorem replaceAll (hpath : document.path = plain.path) (text : List Char) :
    Mirrors (document.replaceAll text) (plain.replaceAll text) := by
  have hselect : document.widget.select 0 document.widget.size =
      { document.widget with anchor := 0, position := document.widget.size } :=
    TextWidget.select_eq (Nat.zero_le _) (Nat.le_refl _)
  have hinsert : (document.widget.select 0 document.widget.size).insert text =
      ⟨[] ++ text ++ [], Text.Utf16.size ([] ++ text), Text.Utf16.size ([] ++ text), true⟩ := by
    refine TextWidget.insert_eq (?_ : _ = [] ++ document.widget.text ++ []) ?_ ?_ text
    · rw [hselect, List.nil_append, List.append_nil]
    · rw [hselect]
      rfl
    · rw [hselect]
      rfl
  have hcursor := Text.Utf16.ofOffset_append text []
  rw [List.nil_append, List.append_nil] at hinsert
  rw [List.append_nil] at hcursor
  simp only [EditorDocument.replaceAll, TextWidget.replaceAll, hinsert, PlainDocument.replaceAll]
  exact ⟨hpath, rfl, text.length, Nat.le_refl _, rfl, hcursor.symm, hcursor.symm⟩

theorem setCaret (hpath : document.path = plain.path) (htext : document.text = plain.text)
    (offset : Int) : Mirrors (document.setCaret offset) (plain.setCaret offset) := by
  have hsize : document.widget.size = Text.Utf16.size plain.text := congrArg _ htext
  have hmove : document.widget.moveTo (document.positionOf offset) =
      { document.widget with
        anchor := Text.Utf16.ofOffset plain.text offset
        position := Text.Utf16.ofOffset plain.text offset } := by
    rw [positionOf, htext]
    exact TextWidget.moveTo_eq (hsize ▸ Text.Utf16.ofOffset_le_size _ _)
  obtain ⟨n, hn⟩ : ∃ n : Nat, min (max offset 0) (plain.text.length : Int) = n :=
    Int.eq_ofNat_of_zero_le (by omega)
  have hclamp := Text.Utf16.ofOffset_clamp plain.text offset
  rw [hn] at hclamp
  simp only [EditorDocument.setCaret, hmove, PlainDocument.setCaret, hn]
  exact ⟨hpath, htext, n, by simp only; omega, rfl, hclamp.symm, hclamp.symm⟩

/-- A span inside the text is replaced in the editor as in the plain document. -/
theorem replaceSpan (hpath : document.path = plain.path) (htext : document.text = plain.text)
    {first last : Nat} (hle : first ≤ last) (hlast : last ≤ plain.text.length) (only : Bool)
    (caret : Int) (text : List Char) :
    FormatRun.Related (fun _ => Mirrors)
      (replaceSpan EditorDocument.view ⟨first, last, only, caret⟩ text document)
      (replaceSpan PlainDocument.view ⟨first, last, only, caret⟩ text plain) := by
  cases only with
  | true => exact ⟨rfl, rfl, rfl, replaceRange hpath htext hle hlast text⟩
  | false =>
    have hwhole : Mirrors (document.replaceAll text) (plain.replaceAll text) :=
      replaceAll hpath text
    have hmoved := setCaret hwhole.path hwhole.text
      (remapCaret caret plain.text.length text.length)
    refine ⟨rfl, rfl, rfl, ?_⟩
    simp only [SqlDesk.replaceSpan, Bool.false_eq_true, if_false, EditorDocument.view,
      PlainDocument.view, htext]
    exact hmoved

end Mirrors

end EditorDocument

/-! ## Every run -/

/-- A run on a document of the editor does what a run on a plain document does. The editor shows the
plain document in the end; if it was rewritten, the cursor is at the position of the caret, and if
it was not, neither document has changed. -/
structure Refines (document : EditorDocument) (run : FormatRun EditorDocument)
    (run' : FormatRun PlainDocument) : Prop where
  outcome : run.outcome = run'.outcome
  prompts : run.prompts = run'.prompts
  inputs : run.inputs = run'.inputs
  shows : run.document.plain = run'.document
  rewritten : Outcome.Rewrites run.outcome →
    run.document.widget.anchor = run.document.widget.position ∧
    run.document.widget.position =
      Text.Utf16.ofOffset run'.document.text run'.document.selection.position
  kept : ¬ Outcome.Rewrites run.outcome →
    run.document = document ∧ run'.document = document.plain

/-- How the two documents stand after a run from a document of the editor: rewritten alike, or as
they were. -/
def EditorDocument.EndsAs (document : EditorDocument) (outcome : Except Failure Outcome)
    (left : EditorDocument) (right : PlainDocument) : Prop :=
  (Outcome.Rewrites outcome → Mirrors left right) ∧
    (¬ Outcome.Rewrites outcome → left = document ∧ right = document.plain)

theorem EditorDocument.replaceSpan_related (document : EditorDocument) (text : List Char) :
    FormatRun.Related document.EndsAs
      (replaceSpan EditorDocument.view (Span.of document.text document.selection) text document)
      (replaceSpan PlainDocument.view (Span.of document.text document.selection) text
        document.plain) := by
  obtain ⟨first, last, hcovers, hspan⟩ := Span.of_eq document.selection_inside
  have hlast : last ≤ document.plain.text.length := hcovers.last_le document.selection_inside
  have hmirrors := Mirrors.replaceSpan (rfl : document.path = document.plain.path) rfl hcovers.le
    hlast (decide (first < last) && decide (last - first < document.text.length)) last text
  rw [hspan]
  exact ⟨hmirrors.outcome, hmirrors.prompts, hmirrors.inputs, fun _ => hmirrors.documents,
    fun hkept => absurd (replaceSpan_rewrites _ _ _ _) hkept⟩

/-- **A document in the editor is formatted as the plain document that it shows**, for every text,
every cursor, every engine and all answers. -/
theorem Command.run_refines (command : Command) (answers : Answers) (document : EditorDocument) :
    Refines document (command.run EditorDocument.view answers document)
      (command.run PlainDocument.view answers document.plain) := by
  have hrelated := formatDocument_related (v := EditorDocument.view) (w := PlainDocument.view)
    (a := document) (b := document.plain) (R := document.EndsAs) rfl rfl rfl
    (fun _ hkept => ⟨fun h => absurd h hkept, fun _ => ⟨rfl, rfl⟩⟩) document.replaceSpan_related
    command.sqlExtension command.engine.format answers
  obtain ⟨hmirrors, hkept⟩ := hrelated.documents
  refine ⟨hrelated.outcome, hrelated.prompts, hrelated.inputs, ?_, ?_, hkept⟩
  · by_cases hrewrites : Outcome.Rewrites (command.run EditorDocument.view answers document).outcome
    · exact (hmirrors hrewrites).plain_eq
    · obtain ⟨hleft, hright⟩ := hkept hrewrites
      exact (congrArg EditorDocument.plain hleft).trans hright.symm
  · intro hrewrites
    obtain ⟨n, -, hselection, hanchor, hposition⟩ := (hmirrors hrewrites).caret
    refine ⟨hanchor.trans hposition.symm, hposition.trans ?_⟩
    exact congrArg (Text.Utf16.ofOffset _ <| Selection.position ·) hselection.symm

end SqlDesk
