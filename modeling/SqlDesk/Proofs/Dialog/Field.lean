/-
What is shown in a box is read from it again.

A count is shown by its digits. An indent string is shown with a backslash and a letter for each tab
and each space, so one that has such a pair of its own is read as another one, with a tab or a space
for each pair (`unescapeIndent_eq`); but no indent string that was read from a box has a pair
(`isPlain_unescapeIndent`). So just the indent strings without a pair come back.
-/
import SqlDesk.Dialog.Field
import SqlDesk.Proofs.Text.Numeral
import SqlDesk.Proofs.Text.Replace

namespace SqlDesk.Dialog

/-! ## Indent strings -/

/-- No backslash of an indent string has a `t` or an `s` after it. -/
structure IsPlain (indent : List Char) : Prop where
  tab : ¬ ['\\', 't'] <:+: indent
  space : ¬ ['\\', 's'] <:+: indent

/-- **What is read from a box** has no shown tab and no shown space left. -/
theorem isPlain_unescapeIndent (shown : List Char) : IsPlain (unescapeIndent shown) := by
  constructor
  · refine Text.not_infix_replaceAll (by decide) (by decide) (.inr ?_)
    exact Text.not_infix_replaceAll (by decide) (by decide) (.inl rfl)
  · exact Text.not_infix_replaceAll (by decide) (by decide) (.inl rfl)

/-- What is shown for an indent string is read as the indent string itself would be. -/
theorem unescapeIndent_escapeIndent (indent : List Char) :
    unescapeIndent (escapeIndent indent) = unescapeIndent indent := by
  -- tabs are read before spaces, but they were shown before them as well
  have hcomm := Text.replaceAll_comm (a := '\\') (b := 't') (r := '\t') (q := ' ') (d := 's')
    (by decide) (by decide) (by decide) (by decide) (by decide) (by decide)
  rw [unescapeIndent, escapeIndent, hcomm,
    Text.replaceAll_replaceAll (by decide) (by decide) (by decide),
    Text.replaceAll_replaceAll (by decide) (by decide) (by decide), unescapeIndent]

theorem unescapeIndent_of_isPlain {indent : List Char} (h : IsPlain indent) :
    unescapeIndent indent = indent := by
  rw [unescapeIndent, Text.replaceAll_eq_self h.tab, Text.replaceAll_eq_self h.space]

/-- An indent string with a tab for each backslash that has a `t` after it, and with a space for each
that has an `s`. -/
def unmarked : List Char → List Char
  | '\\' :: 't' :: rest => '\t' :: unmarked rest
  | '\\' :: 's' :: rest => ' ' :: unmarked rest
  | c :: rest => c :: unmarked rest
  | [] => []

/-- Tabs and spaces are read in one pass, though first the ones are looked for and then the others.
-/
theorem unescapeIndent_eq (shown : List Char) : unescapeIndent shown = unmarked shown := by
  unfold unescapeIndent
  fun_induction unmarked shown with
  | case1 rest ih =>
    rw [Text.replaceAll_two_match, List.singleton_append,
      Text.replaceAll_two_other (by simp [List.cons_prefix_cons]), ih]
  | case2 rest ih =>
    have hkept : Text.replaceAll ['\\', 't'] ['\t'] ('\\' :: 's' :: rest) =
        '\\' :: 's' :: Text.replaceAll ['\\', 't'] ['\t'] rest := by
      rw [Text.replaceAll_two_other (by simp [List.cons_prefix_cons]),
        Text.replaceAll_two_other (by simp [List.cons_prefix_cons])]
    rw [hkept, Text.replaceAll_two_match, List.singleton_append, ih]
  | case3 c rest htab hspace ih =>
    have hnoTab : ¬ ['\\', 't'] <+: c :: rest := by
      rintro ⟨more, hmore⟩
      cases hmore
      exact htab more rfl rfl
    have hnoSpace : ¬ ['\\', 's'] <+: c :: rest := by
      rintro ⟨more, hmore⟩
      cases hmore
      exact hspace more rfl rfl
    rw [Text.replaceAll_two_other hnoTab, Text.replaceAll_two_other fun hpre =>
      hnoSpace (Text.prefix_of_shorten (by decide) hpre), ih]
  | case4 => simp

theorem unmarked_unmarked (indent : List Char) : unmarked (unmarked indent) = unmarked indent := by
  simp only [← unescapeIndent_eq]
  exact unescapeIndent_of_isPlain (isPlain_unescapeIndent indent)

/-- **Which indent strings come back from a box**: just those without a backslash in front of a `t`
or an `s`. Whatever is typed, an indent string that was read from a box is one of them; so what came
back once comes back again. -/
theorem escapeIndent_comes_back :
    (∀ indent, unescapeIndent (escapeIndent indent) = indent ↔ IsPlain indent) ∧
      (∀ shown, IsPlain (unescapeIndent shown)) ∧
      (∀ shown, unescapeIndent (escapeIndent (unescapeIndent shown)) = unescapeIndent shown) ∧
      ∀ indent, unescapeIndent (escapeIndent (unescapeIndent (escapeIndent indent))) =
        unescapeIndent (escapeIndent indent) := by
  have hiff : ∀ indent, unescapeIndent (escapeIndent indent) = indent ↔ IsPlain indent := by
    intro indent
    rw [unescapeIndent_escapeIndent]
    constructor
    · intro h
      rw [← h]
      exact isPlain_unescapeIndent indent
    · exact unescapeIndent_of_isPlain
  have hread : ∀ shown, unescapeIndent (escapeIndent (unescapeIndent shown)) = unescapeIndent shown :=
    fun shown => (hiff _).mpr (isPlain_unescapeIndent shown)
  exact ⟨hiff, isPlain_unescapeIndent, hread, fun indent => hread (escapeIndent indent)⟩

/-- Of two backslashes the one in front of the letter stands for a space with it. -/
example : unescapeIndent (escapeIndent ['\\', '\\', 's']) = ['\\', ' '] := by decide

/-! ## Counts -/

/-- A count is a whole number that is not negative, whatever the label of its box. -/
theorem parseCount_eq_ok_iff {label text : String} {n : Nat} :
    parseCount label text = .ok n ↔ Text.integer? text.toList = some (n : Int) := by
  unfold parseCount
  cases Text.integer? text.toList with
  | none => simp
  | some m =>
    by_cases hnegative : m < 0
    · simp only [hnegative, if_true, Option.some.injEq, reduceCtorEq, false_iff]
      omega
    · simp only [hnegative, if_false, Except.ok.injEq, Option.some.injEq]
      omega

/-- **A count is read back** from what is shown for it, if it can be shown. -/
theorem parseCount_toString {n : Nat} (h : Text.isWritable n = true) (label : String) :
    parseCount label (toString n) = .ok n := by
  rw [parseCount_eq_ok_iff, Text.toList_toString, Text.integer?_toDigits h]

theorem isWritable_of_parseCount {label text : String} {n : Nat}
    (h : parseCount label text = .ok n) : Text.isWritable n = true :=
  Text.isWritable_of_integer? (parseCount_eq_ok_iff.mp h)

end SqlDesk.Dialog
