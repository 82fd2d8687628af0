/-
Small letters and the marks between them.

Below the first capital letter there are digits, signs and punctuation only. Small letters are never
one of these: neither is one lost when a text is put in small letters, nor does one come in
(`count_lower`).
-/
import SqlDesk.Text.Lowercase
import Mathlib.Data.List.Basic

namespace SqlDesk.Text

/-- A character below the first capital letter, other than the null character. -/
structure IsMark (c : Char) : Prop where
  ne_null : c ≠ '\x00'
  lt_capital : c.toNat < 0x41

namespace Lowercase

theorem le_of_mem_capitalRuns {first last step : Nat} {shift : Int}
    (h : (first, last, step, shift) ∈ capitalRuns) : 0x41 ≤ first ∧ 0x41 ≤ (first : Int) + shift := by
  have hall : ∀ run ∈ capitalRuns, 0x41 ≤ run.1 ∧ 0x41 ≤ (run.1 : Int) + run.2.2.2 := by
    decide +kernel
  exact hall _ h

/-- A character is its own small letter, or a capital. -/
theorem smallLetter_cases (c : Char) : smallLetter c = c ∨
    0x41 ≤ c.toNat ∧ ∃ n, 0x41 ≤ n ∧ smallLetter c = Char.ofNat n := by
  unfold smallLetter
  split
  · next first last step shift hfind =>
    obtain ⟨hfirst, hshift⟩ := le_of_mem_capitalRuns (List.mem_of_find?_eq_some hfind)
    have hrange := List.find?_some hfind
    simp only [Bool.and_eq_true, decide_eq_true_eq] at hrange
    exact .inr ⟨by omega, _, by omega, rfl⟩
  · exact .inl rfl

theorem length_le_lowerAfter (before cs : List Char) :
    cs.length ≤ (lowerAfter before cs).length := by
  induction cs generalizing before with
  | nil => exact Nat.le_refl _
  | cons c rest ih =>
    have hrest := ih (c :: before)
    simp only [lowerAfter, List.length_append, List.length_cons]
    split
    · rw [List.length_singleton]
      omega
    · split
      · simp only [List.length_cons]
        omega
      · rw [List.length_singleton]
        omega

variable {mark : Char} (hmark : IsMark mark)
include hmark

theorem ne_mark_of_le {c : Char} (h : 0x41 ≤ c.toNat) : c ≠ mark := by
  rintro rfl
  exact absurd hmark.lt_capital (Nat.not_lt.mpr h)

theorem ofNat_ne_mark {n : Nat} (h : 0x41 ≤ n) : Char.ofNat n ≠ mark := by
  by_cases hvalid : n.isValidChar
  · rw [Char.ofNat, dif_pos hvalid]
    exact ne_mark_of_le hmark h
  · rw [Char.ofNat, dif_neg hvalid]
    exact hmark.ne_null.symm

theorem smallLetter_eq_mark_iff {c : Char} : smallLetter c = mark ↔ c = mark := by
  rcases smallLetter_cases c with hself | ⟨hcapital, n, hn, hsmall⟩
  · rw [hself]
  · rw [hsmall]
    exact iff_of_false (ofNat_ne_mark hmark hn) (ne_mark_of_le hmark hcapital)

theorem count_lowerAfter (before cs : List Char) :
    (lowerAfter before cs).count mark = cs.count mark := by
  induction cs generalizing before with
  | nil => rfl
  | cons c rest ih =>
    have hletter : ∀ {c : Char}, 0x41 ≤ c.toNat → (c == mark) = false := fun h =>
      beq_false_of_ne (ne_mark_of_le hmark h)
    simp only [lowerAfter, List.count_append, ih, List.count_cons]
    rw [Nat.add_comm, Nat.add_left_cancel_iff]
    split
    · next hsigma =>
      rw [hsigma, hletter (by decide), List.count_singleton]
      split <;> rw [hletter (by decide)]
    · split
      · next hdotted =>
        rw [hdotted, hletter (by decide), List.count_cons, List.count_singleton,
          hletter (by decide), hletter (by decide)]
        rfl
      · rw [List.count_singleton]
        simp only [beq_iff_eq, smallLetter_eq_mark_iff hmark]

end Lowercase

theorem length_le_lower (cs : List Char) : cs.length ≤ (lower cs).length :=
  Lowercase.length_le_lowerAfter [] cs

/-- **Marks are kept in small letters**, and none comes in. -/
theorem count_lower {mark : Char} (hmark : IsMark mark) (cs : List Char) :
    (lower cs).count mark = cs.count mark :=
  Lowercase.count_lowerAfter hmark [] cs

end SqlDesk.Text
