/-
The words of a text that is put together from parts.

Words part at a blank (`words_append_blank`), and everything else follows: blanks at either end of a
text say nothing, and parts with a blank between neighbours have the words of the parts in order.
-/
import SqlDesk.Text.Blank
import SqlDesk.Text.Newline

namespace SqlDesk.Text

theorem allBlank_cons {c : Char} {cs : List Char} :
    allBlank (c :: cs) = true ↔ isBlank c = true ∧ allBlank cs = true := by
  simp [allBlank]

theorem allBlank_replicate {c : Char} (hc : isBlank c = true) (n : Nat) :
    allBlank (List.replicate n c) = true := by
  simp [allBlank, hc]

theorem allBlank_flatten {parts : List (List Char)} (h : ∀ part ∈ parts, allBlank part = true) :
    allBlank parts.flatten = true := by
  simp only [allBlank, List.all_eq_true, List.mem_flatten] at h ⊢
  rintro c ⟨part, hpart, hc⟩
  exact h part hpart c hc

/-- **Words part at a blank.** -/
theorem words_append_blank {c : Char} (hc : isBlank c = true) (as bs : List Char) :
    words (as ++ c :: bs) = words as ++ words bs := by
  induction as with
  | nil => simpa using words_cons_of_isBlank hc bs
  | cons a as ih =>
    cases ha : isBlank a with
    | true =>
      rw [List.cons_append, words_cons_of_isBlank ha, words_cons_of_isBlank ha, ih]
    | false =>
      cases as with
      | nil => simp [words, ha, hc, words_cons_of_isBlank hc]
      | cons d as =>
        simp only [List.cons_append] at ih ⊢
        simp only [words, ha, Bool.false_eq_true, if_false]
        cases hd : isBlank d with
        | true => simp only [if_true, List.cons_append, ih]
        | false =>
          obtain ⟨w, ws, hw⟩ := List.exists_cons_of_ne_nil (words_cons_ne_nil hd as)
          simp only [Bool.false_eq_true, if_false, ih, hw, List.cons_append]

theorem words_append_left {blanks : List Char} (h : allBlank blanks = true) (cs : List Char) :
    words (blanks ++ cs) = words cs := by
  induction blanks with
  | nil => rfl
  | cons c blanks ih =>
    obtain ⟨hc, hrest⟩ := allBlank_cons.mp h
    rw [List.cons_append, words_cons_of_isBlank hc, ih hrest]

/-- Blanks between two texts keep their words apart. -/
theorem words_append_between {blanks : List Char} (hne : blanks ≠ [])
    (h : allBlank blanks = true) (as bs : List Char) :
    words (as ++ blanks ++ bs) = words as ++ words bs := by
  obtain ⟨c, rest, rfl⟩ := List.exists_cons_of_ne_nil hne
  obtain ⟨hc, hrest⟩ := allBlank_cons.mp h
  rw [List.append_assoc, List.cons_append, words_append_blank hc, words_append_left hrest]

theorem words_append_right (cs : List Char) {blanks : List Char} (h : allBlank blanks = true) :
    words (cs ++ blanks) = words cs := by
  cases blanks with
  | nil => rw [List.append_nil]
  | cons c rest =>
    obtain ⟨hc, hrest⟩ := allBlank_cons.mp h
    rw [words_append_blank hc, words_eq_nil_iff.mpr hrest, List.append_nil]

/-- Texts with blanks between neighbours have their words in order. -/
theorem words_intercalate {blanks : List Char} (hne : blanks ≠ []) (h : allBlank blanks = true)
    (texts : List (List Char)) : words (blanks.intercalate texts) = texts.flatMap words := by
  induction texts with
  | nil => rfl
  | cons text rest ih =>
    cases rest with
    | nil => simp [List.intercalate]
    | cons next rest =>
      have step : blanks.intercalate (text :: next :: rest) =
          text ++ blanks ++ blanks.intercalate (next :: rest) := by
        simp [List.intercalate]
      rw [step, words_append_between hne h, ih]
      simp only [List.flatMap_cons]

theorem words_joinLines (lines : List (List Char)) :
    words (joinLines lines) = lines.flatMap words := by
  induction lines with
  | nil => rfl
  | cons line rest ih =>
    cases rest with
    | nil => simp [joinLines]
    | cons next rest =>
      have hbreak : isBlank '\n' = true := by decide
      have step : joinLines (line :: next :: rest) = line ++ '\n' :: joinLines (next :: rest) := by
        simp [joinLines]
      rw [step, words_append_blank hbreak, ih]
      simp only [List.flatMap_cons]

theorem flatMap_words_splitLines (cs : List Char) : (splitLines cs).flatMap words = words cs := by
  rw [← words_joinLines, joinLines_splitLines]

end SqlDesk.Text
