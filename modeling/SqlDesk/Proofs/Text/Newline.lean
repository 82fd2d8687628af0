/-
Texts whose line ends are unified.

What reading a text file does in one pass is two replacements, one after the other: each carriage
return with its line feed, and then each that is left (`unifyNewlines_eq_withLineFeeds`). No carriage
return is left after it, so it changes a text just if there is one in it, and only once.
-/
import SqlDesk.Text.Newline
import SqlDesk.Proofs.Text.Replace

namespace SqlDesk.Text

/-- A text with a line feed in the place of each carriage return that has one behind it, and then in
the place of each other one. -/
def withLineFeeds (cs : List Char) : List Char :=
  replaceAll ['\r'] ['\n'] (replaceAll ['\r', '\n'] ['\n'] cs)

theorem unifyNewlines_cons_other {c : Char} (h : c ≠ '\r') (rest : List Char) :
    unifyNewlines (c :: rest) = c :: unifyNewlines rest := by
  rw [unifyNewlines]
  · rintro _ rfl
    exact absurd rfl h
  · rintro rfl
    exact absurd rfl h

theorem unifyNewlines_cons_return {rest : List Char} (h : ¬ ['\r', '\n'] <+: '\r' :: rest) :
    unifyNewlines ('\r' :: rest) = '\n' :: unifyNewlines rest := by
  rw [unifyNewlines]
  rintro more rfl
  exact h (List.prefix_append ['\r', '\n'] more)

theorem unifyNewlines_eq_withLineFeeds (cs : List Char) : unifyNewlines cs = withLineFeeds cs := by
  unfold withLineFeeds
  induction cs using two_induction (a := '\r') (b := '\n') with
  | nil => rw [unifyNewlines, replaceAll_nil, replaceAll_nil]
  | found rest ih =>
    rw [unifyNewlines, replaceAll_two_match, List.singleton_append,
      replaceAll_one_other (by decide), ih]
  | other c rest hother ih =>
    rw [replaceAll_two_other hother]
    by_cases hc : c = '\r'
    · subst hc
      rw [unifyNewlines_cons_return hother, replaceAll_one_match, List.singleton_append, ih]
    · rw [unifyNewlines_cons_other hc, replaceAll_one_other hc, ih]

theorem not_mem_unifyNewlines (cs : List Char) : '\r' ∉ unifyNewlines cs := by
  induction cs using two_induction (a := '\r') (b := '\n') with
  | nil => exact List.not_mem_nil
  | found rest ih =>
    rw [unifyNewlines]
    exact List.not_mem_cons_of_ne_of_not_mem (by decide) ih
  | other c rest hother ih =>
    by_cases hc : c = '\r'
    · subst hc
      rw [unifyNewlines_cons_return hother]
      exact List.not_mem_cons_of_ne_of_not_mem (by decide) ih
    · rw [unifyNewlines_cons_other hc]
      exact List.not_mem_cons_of_ne_of_not_mem (Ne.symm hc) ih

theorem unifyNewlines_eq {cs : List Char} (h : '\r' ∉ cs) : unifyNewlines cs = cs := by
  induction cs with
  | nil => rfl
  | cons c cs ih =>
    simp only [List.mem_cons, not_or] at h
    rw [unifyNewlines_cons_other (Ne.symm h.1), ih h.2]

theorem unifyNewlines_eq_self_iff {cs : List Char} : unifyNewlines cs = cs ↔ '\r' ∉ cs := by
  constructor
  · intro h
    rw [← h]
    exact not_mem_unifyNewlines cs
  · exact unifyNewlines_eq

theorem unifyNewlines_unifyNewlines (cs : List Char) :
    unifyNewlines (unifyNewlines cs) = unifyNewlines cs :=
  unifyNewlines_eq (not_mem_unifyNewlines cs)

end SqlDesk.Text
