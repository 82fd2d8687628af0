/-
Replacing a phrase of two characters by one character, and back.

Replacing `a b` by `r` leaves no `a` with a `b` after it (`not_infix_replaceAll`), and it undoes
replacing `r` by `a b` (`replaceAll_replaceAll`). Two such pairs with the same
first character do not get into each other's way (`replaceAll_comm`).

A character is kept or not by what comes after it, so each proof has to see that replacing does not
bring a `b` in front of the rest (`prefix_of_shorten`, `prefix_of_expand`).
-/
import SqlDesk.Text.Replace

namespace SqlDesk.Text

/-! ## One step -/

@[simp] theorem replaceAll_nil (phrase replacement : List Char) :
    replaceAll phrase replacement [] = [] := by
  unfold replaceAll
  cases phrase <;> rfl

theorem replaceAll_one_match (r : Char) (replacement cs : List Char) :
    replaceAll [r] replacement (r :: cs) = replacement ++ replaceAll [r] replacement cs := by
  simp [replaceAll, replaceFrom]

theorem replaceAll_one_other {r c : Char} (h : c ≠ r) (replacement cs : List Char) :
    replaceAll [r] replacement (c :: cs) = c :: replaceAll [r] replacement cs := by
  simp [replaceAll, replaceFrom, Ne.symm h]

theorem replaceAll_two_match (a b : Char) (replacement cs : List Char) :
    replaceAll [a, b] replacement (a :: b :: cs) =
      replacement ++ replaceAll [a, b] replacement cs := by
  simp [replaceAll, replaceFrom]

theorem replaceAll_two_other {a b c : Char} {cs : List Char} (h : ¬ [a, b] <+: c :: cs)
    (replacement : List Char) :
    replaceAll [a, b] replacement (c :: cs) = c :: replaceAll [a, b] replacement cs := by
  have hno : [a, b].isPrefixOf (c :: cs) = false := by
    rw [← Bool.not_eq_true, List.isPrefixOf_iff_prefix]
    exact h
  simp only [replaceAll, replaceFrom, hno, Bool.false_eq_true, if_false]

/-- The phrase is in front of a text, or the first character of the text stands for itself. -/
@[elab_as_elim]
theorem two_induction {a b : Char} {motive : List Char → Prop} (nil : motive [])
    (found : ∀ rest, motive rest → motive (a :: b :: rest))
    (other : ∀ c rest, ¬ [a, b] <+: c :: rest → motive rest → motive (c :: rest)) :
    ∀ cs, motive cs
  | [] => nil
  | [c] => other c [] (by simp [List.cons_prefix_cons]) nil
  | c :: d :: rest => by
    by_cases h : [a, b] <+: c :: d :: rest
    · obtain ⟨rfl, rfl⟩ : a = c ∧ b = d := by simpa [List.cons_prefix_cons] using h
      exact found rest (two_induction nil found other rest)
    · exact other c (d :: rest) h (two_induction nil found other (d :: rest))

/-! ## What comes first after a replacement -/

variable {a b d r c : Char} {cs : List Char}

theorem prefix_of_shorten (hr : r ≠ b) (h : [a, b] <+: c :: replaceAll [a, d] [r] cs) :
    [a, b] <+: c :: cs := by
  cases cs using two_induction (a := a) (b := d) with
  | nil => simp at h
  | found rest =>
    rw [replaceAll_two_match] at h
    simp only [List.singleton_append, List.cons_prefix_cons] at h
    exact absurd h.2.1.symm hr
  | other e rest hother =>
    rw [replaceAll_two_other hother] at h
    simpa [List.cons_prefix_cons] using h

theorem prefix_of_expand (hab : a ≠ b) (h : [a, b] <+: c :: replaceAll [r] [a, d] cs) :
    [a, b] <+: c :: cs := by
  cases cs with
  | nil => simp at h
  | cons e rest =>
    by_cases he : e = r
    · rw [he, replaceAll_one_match] at h
      simp only [List.cons_append, List.cons_prefix_cons] at h
      exact absurd h.2.1.symm hab
    · rw [replaceAll_one_other he] at h
      simpa [List.cons_prefix_cons] using h

/-! ## Both ways -/

/-- Where `a d` has been replaced, `a b` is left only if it was there and is another phrase. -/
theorem not_infix_replaceAll (ha : r ≠ a) (hb : r ≠ b) (h : d = b ∨ ¬ [a, b] <:+: cs) :
    ¬ [a, b] <:+: replaceAll [a, d] [r] cs := by
  induction cs using two_induction (a := a) (b := d) with
  | nil => simp
  | found rest ih =>
    have hrest : d = b ∨ ¬ [a, b] <:+: rest :=
      h.imp_right fun hno hin => hno (hin.trans (List.suffix_append [a, d] rest).isInfix)
    rw [replaceAll_two_match, List.singleton_append, List.infix_cons_iff, not_or]
    refine ⟨fun hpre => ?_, ih hrest⟩
    exact ha (List.cons_prefix_cons.mp hpre).1.symm
  | other e rest hother ih =>
    have hrest : d = b ∨ ¬ [a, b] <:+: rest :=
      h.imp_right fun hno hin => hno (List.infix_cons hin)
    rw [replaceAll_two_other hother, List.infix_cons_iff, not_or]
    refine ⟨fun hpre => ?_, ih hrest⟩
    have hfront := prefix_of_shorten hb hpre
    rcases h with rfl | hno
    · exact hother hfront
    · exact hno hfront.isInfix

theorem replaceAll_eq_self (h : ¬ [a, b] <:+: cs) (replacement : List Char) :
    replaceAll [a, b] replacement cs = cs := by
  induction cs with
  | nil => simp
  | cons e rest ih =>
    rw [replaceAll_two_other fun hpre => h hpre.isInfix, ih fun hin => h (List.infix_cons hin)]

/-- **Shortening undoes expanding**: what is shortened after it is what would be shortened without it.
-/
theorem replaceAll_replaceAll (har : a ≠ r) (hbr : b ≠ r) (hab : a ≠ b) (cs : List Char) :
    replaceAll [a, b] [r] (replaceAll [r] [a, b] cs) = replaceAll [a, b] [r] cs := by
  induction cs using two_induction (a := a) (b := b) with
  | nil => simp
  | found rest ih =>
    rw [replaceAll_one_other har, replaceAll_one_other hbr, replaceAll_two_match,
      replaceAll_two_match, ih]
  | other e rest hother ih =>
    rw [replaceAll_two_other hother]
    by_cases he : e = r
    · rw [he, replaceAll_one_match, List.cons_append, List.singleton_append, replaceAll_two_match,
        ih, List.singleton_append]
    · have hnot : ¬ [a, b] <+: e :: replaceAll [r] [a, b] rest := fun hpre =>
        hother (prefix_of_expand hab hpre)
      rw [replaceAll_one_other he, replaceAll_two_other hnot, ih]

/-- Shortening one phrase and expanding to another with the same first character commute. -/
theorem replaceAll_comm {q : Char} (hab : a ≠ b) (hdb : d ≠ b) (hda : d ≠ a) (hqa : q ≠ a)
    (hqb : q ≠ b) (hrq : r ≠ q) (cs : List Char) :
    replaceAll [a, b] [r] (replaceAll [q] [a, d] cs) =
      replaceAll [q] [a, d] (replaceAll [a, b] [r] cs) := by
  induction cs using two_induction (a := a) (b := b) with
  | nil => simp
  | found rest ih =>
    rw [replaceAll_one_other hqa.symm, replaceAll_one_other hqb.symm, replaceAll_two_match,
      replaceAll_two_match, ih, List.singleton_append, List.singleton_append,
      replaceAll_one_other hrq]
  | other e rest hother ih =>
    rw [replaceAll_two_other hother]
    by_cases he : e = q
    · have hfirst : ¬ [a, b] <+: a :: d :: replaceAll [q] [a, d] rest := fun hpre =>
        hdb (List.cons_prefix_cons.mp (List.cons_prefix_cons.mp hpre).2).1.symm
      have hsecond : ¬ [a, b] <+: d :: replaceAll [q] [a, d] rest := fun hpre =>
        hda (List.cons_prefix_cons.mp hpre).1.symm
      rw [he, replaceAll_one_match, replaceAll_one_match, List.cons_append, List.singleton_append,
        replaceAll_two_other hfirst, replaceAll_two_other hsecond, ih]
      rfl
    · have hnot : ¬ [a, b] <+: e :: replaceAll [q] [a, d] rest := fun hpre =>
        hother (prefix_of_expand hab hpre)
      rw [replaceAll_one_other he, replaceAll_one_other he, replaceAll_two_other hnot, ih]

end SqlDesk.Text
