/-
The lines of texts that are put together.

Where two texts meet, the last line of the one goes on in the first line of the other
(`splitLines_append`, `joinLines_append`). Lines without a line feed in them are the only ones of their
number, or of any larger one, that give their text (`eq_of_joinLines_eq`).
-/
import SqlDesk.Text.Newline

namespace SqlDesk.Text

/-! ## Joining -/

theorem joinLines_cons {lines : List (List Char)} (h : lines ≠ []) (line : List Char) :
    joinLines (line :: lines) = line ++ '\n' :: joinLines lines := by
  obtain ⟨next, rest, rfl⟩ := List.exists_cons_of_ne_nil h
  rfl

theorem joinLines_cons_cons (c : Char) (line : List Char) (lines : List (List Char)) :
    joinLines ((c :: line) :: lines) = c :: joinLines (line :: lines) := by
  cases lines with
  | nil => rfl
  | cons next rest => rfl

theorem joinLines_append (front rest : List (List Char)) (last first : List Char) :
    joinLines (front ++ (last ++ first) :: rest) =
      joinLines (front ++ [last]) ++ joinLines (first :: rest) := by
  induction front with
  | nil =>
    cases rest with
    | nil => rfl
    | cons next rest => simp [joinLines]
  | cons line front ih =>
    simp only [List.cons_append]
    rw [joinLines_cons (by simp), joinLines_cons (by simp), ih, List.append_assoc, List.cons_append]

theorem joinLines_append_cons (last first : List Char) (rest : List (List Char)) :
    joinLines ((last ++ first) :: rest) = last ++ joinLines (first :: rest) :=
  joinLines_append [] rest last first

theorem joinLines_append_lines {front rest : List (List Char)} (hfront : front ≠ [])
    (hrest : rest ≠ []) : joinLines (front ++ rest) = joinLines front ++ '\n' :: joinLines rest := by
  induction front with
  | nil => exact absurd rfl hfront
  | cons line front ih =>
    by_cases hne : front = []
    · subst hne
      exact joinLines_cons hrest line
    · rw [List.cons_append, joinLines_cons (List.append_ne_nil_of_left_ne_nil hne rest), ih hne,
        joinLines_cons hne, List.append_assoc, List.cons_append]

theorem count_joinLines {lines : List (List Char)} (h : lines ≠ []) :
    (joinLines lines).count '\n' + 1 = lines.length + lines.flatten.count '\n' := by
  induction lines with
  | nil => exact absurd rfl h
  | cons line rest ih =>
    cases rest with
    | nil => simp [joinLines, Nat.add_comm]
    | cons next rest =>
      have hrest := ih (List.cons_ne_nil next rest)
      rw [joinLines_cons (List.cons_ne_nil next rest), List.count_append, List.count_cons_self,
        List.flatten_cons, List.count_append, List.length_cons]
      omega

/-! ## Splitting -/

theorem splitLines_cons {cs first : List Char} {rest : List (List Char)} {c : Char}
    (h : splitLines cs = first :: rest) : splitLines (c :: cs) =
      if c = '\n' then [] :: first :: rest else (c :: first) :: rest := by
  simp only [splitLines, h]

/-- The last line of a text goes on in the first line of the text behind it. -/
theorem splitLines_append {as bs last first : List Char} {front rest : List (List Char)}
    (has : splitLines as = front ++ [last]) (hbs : splitLines bs = first :: rest) :
    splitLines (as ++ bs) = front ++ (last ++ first) :: rest := by
  induction as generalizing front last with
  | nil =>
    obtain ⟨rfl, hlast⟩ := List.append_inj' (show [] ++ [[]] = front ++ [last] from has) rfl
    obtain rfl := List.singleton_inj.mp hlast
    exact hbs
  | cons c as ih =>
    obtain ⟨line, lines, hlines⟩ := List.exists_cons_of_ne_nil (splitLines_ne_nil as)
    rw [splitLines_cons hlines] at has
    split at has
    · next hc =>
      cases front with
      | nil =>
        obtain ⟨-, hnil⟩ := List.cons.inj has
        cases hnil
      | cons line' front =>
        obtain ⟨rfl, hfront⟩ := List.cons.inj has
        have hrest := ih (hlines.trans hfront)
        simp only [List.cons_append, splitLines, hrest, if_pos hc]
    · next hc =>
      cases front with
      | nil =>
        obtain ⟨rfl, rfl⟩ := List.cons.inj has
        have hrest : splitLines (as ++ bs) = [] ++ (line ++ first) :: rest := ih hlines
        simp only [List.nil_append, List.cons_append] at hrest ⊢
        rw [splitLines_cons hrest, if_neg hc]
      | cons line' front =>
        obtain ⟨rfl, rfl⟩ := List.cons.inj has
        have hrest : splitLines (as ++ bs) = line :: front ++ (last ++ first) :: rest := ih hlines
        simp only [List.cons_append] at hrest ⊢
        rw [splitLines_cons hrest, if_neg hc]

theorem not_mem_of_mem_splitLines {cs line : List Char} (h : line ∈ splitLines cs) :
    '\n' ∉ line := by
  induction cs generalizing line with
  | nil =>
    obtain rfl := List.mem_singleton.mp h
    exact List.not_mem_nil
  | cons c cs ih =>
    obtain ⟨first, rest, hlines⟩ := List.exists_cons_of_ne_nil (splitLines_ne_nil cs)
    rw [hlines] at ih
    rw [splitLines_cons hlines] at h
    split at h
    · rcases List.mem_cons.mp h with rfl | h
      · exact List.not_mem_nil
      · exact ih h
    · next hc =>
      rcases List.mem_cons.mp h with rfl | h
      · rw [List.mem_cons, not_or]
        exact ⟨Ne.symm hc, ih List.mem_cons_self⟩
      · exact ih (List.mem_cons_of_mem _ h)

theorem splitLines_of_not_mem {cs : List Char} (h : '\n' ∉ cs) : splitLines cs = [cs] := by
  induction cs with
  | nil => rfl
  | cons c cs ih =>
    rw [List.mem_cons, not_or] at h
    rw [splitLines_cons (ih h.2), if_neg (Ne.symm h.1)]

theorem splitLines_joinLines {lines : List (List Char)} (hne : lines ≠ [])
    (h : ∀ line ∈ lines, '\n' ∉ line) : splitLines (joinLines lines) = lines := by
  induction lines with
  | nil => exact absurd rfl hne
  | cons line rest ih =>
    have hline := splitLines_of_not_mem (h line List.mem_cons_self)
    cases rest with
    | nil => exact hline
    | cons next rest =>
      have hrest := ih (List.cons_ne_nil _ _) fun line hmem => h line (List.mem_cons_of_mem _ hmem)
      have hfeed : splitLines ('\n' :: joinLines (next :: rest)) = [] :: next :: rest := by
        rw [splitLines_cons hrest, if_pos rfl]
      have hmeet : splitLines (line ++ '\n' :: joinLines (next :: rest)) =
          [] ++ (line ++ []) :: next :: rest := splitLines_append hline hfeed
      rw [joinLines_cons (List.cons_ne_nil next rest), hmeet, List.append_nil, List.nil_append]

/-- No other lines, of which there are at least as many, give the text of lines without a line feed.
-/
theorem eq_of_joinLines_eq {lines lines' : List (List Char)} (hne : lines ≠ [])
    (h : ∀ line ∈ lines, '\n' ∉ line) (hle : lines.length ≤ lines'.length)
    (heq : joinLines lines' = joinLines lines) : lines' = lines := by
  have hne' : lines' ≠ [] := by
    rintro rfl
    exact hne (List.length_eq_zero_iff.mp (Nat.le_zero.mp hle))
  have h' : ∀ line ∈ lines', '\n' ∉ line := by
    have hnone : lines.flatten.count '\n' = 0 := by
      rw [List.count_eq_zero, List.mem_flatten]
      rintro ⟨line, hmem, hfeed⟩
      exact h line hmem hfeed
    -- there is no line feed left for the inside of a line
    have hcount := count_joinLines hne
    have hcount' := count_joinLines hne'
    have hnone' : lines'.flatten.count '\n' = 0 := by
      rw [heq] at hcount'
      omega
    intro line hmem hfeed
    exact List.count_eq_zero.mp hnone' (List.mem_flatten.mpr ⟨line, hmem, hfeed⟩)
  rw [← splitLines_joinLines hne' h', heq, splitLines_joinLines hne h]

end SqlDesk.Text
