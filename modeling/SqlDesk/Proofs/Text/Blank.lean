/-
Blank characters among the others.

A blank is no character of a word and no digit, of whatever script. A search along a text that does
not go past blanks ends at the first one.
-/
import SqlDesk.Text.Blank
import SqlDesk.Text.Digit
import SqlDesk.Text.Word

namespace SqlDesk.Text

/-! ## Lists -/

section

variable {α : Type} {p : α → Bool} {a : α}

/-- A search along a list ends at the first member that it does not go past. -/
theorem takeWhile_append_cons (h : p a = false) (xs ys : List α) :
    (xs ++ a :: ys).takeWhile p = xs.takeWhile p := by
  induction xs with
  | nil => rw [List.nil_append, List.takeWhile_cons, h, if_neg Bool.false_ne_true, List.takeWhile_nil]
  | cons x xs ih => rw [List.cons_append, List.takeWhile_cons, List.takeWhile_cons, ih]

theorem dropWhile_append_cons (h : p a = false) (xs ys : List α) :
    (xs ++ a :: ys).dropWhile p = xs.dropWhile p ++ a :: ys := by
  induction xs with
  | nil =>
    rw [List.nil_append, List.dropWhile_cons, h, if_neg Bool.false_ne_true]
    rfl
  | cons x xs ih =>
    rw [List.cons_append, List.dropWhile_cons, List.dropWhile_cons, ih]
    split <;> rfl

theorem takeWhile_append_of_stop {xs ys : List α} (hxs : ∀ a ∈ xs, p a = true)
    (hys : ∀ a ∈ ys.head?, p a = false) : (xs ++ ys).takeWhile p = xs := by
  rw [List.takeWhile_append_of_pos hxs]
  cases ys with
  | nil => exact List.append_nil xs
  | cons b ys => rw [List.takeWhile_cons, hys b rfl, if_neg Bool.false_ne_true, List.append_nil]

theorem dropWhile_append_of_stop {xs ys : List α} (hxs : ∀ a ∈ xs, p a = true)
    (hys : ∀ a ∈ ys.head?, p a = false) : (xs ++ ys).dropWhile p = ys := by
  rw [List.dropWhile_append_of_pos hxs]
  cases ys with
  | nil => rfl
  | cons b ys => rw [List.dropWhile_cons, hys b rfl, if_neg Bool.false_ne_true]

theorem drop_length_takeWhile (p : α → Bool) (xs : List α) :
    xs.drop (xs.takeWhile p).length = xs.dropWhile p := by
  have hdrop : (xs.takeWhile p ++ xs.dropWhile p).drop (xs.takeWhile p).length = xs.dropWhile p :=
    List.drop_left
  rwa [List.takeWhile_append_dropWhile] at hdrop

end

theorem getLast?_ne_of_cons {α : Type} {a b : α} {xs : List α} (h : (b :: xs).getLast? ≠ some a) :
    xs.getLast? ≠ some a := by
  cases xs with
  | nil => nofun
  | cons c xs => simpa using h

theorem cases_of_append_cons_eq {α : Type} {xs ys xs' ys' : List α} {a a' : α}
    (h : xs ++ a :: ys = xs' ++ a' :: ys') :
    (∃ zs, xs' = xs ++ a :: zs) ∨ (xs = xs' ∧ a = a') ∨ ∃ zs, xs = xs' ++ a' :: zs := by
  rcases List.append_eq_append_iff.mp h with ⟨zs, hxs, hrest⟩ | ⟨zs, hxs, hrest⟩
  · cases zs with
    | nil => exact .inr (.inl ⟨(hxs.trans (List.append_nil _)).symm, (List.cons.inj hrest).1⟩)
    | cons z zs =>
      rw [← (List.cons.inj hrest).1] at hxs
      exact .inl ⟨zs, hxs⟩
  · cases zs with
    | nil => exact .inr (.inl ⟨hxs.trans (List.append_nil _), (List.cons.inj hrest).1.symm⟩)
    | cons z zs =>
      rw [← (List.cons.inj hrest).1] at hxs
      exact .inr (.inr ⟨zs, hxs⟩)

/-! ## Characters -/

/-- The code points of the blanks. -/
def blankCodes : List Nat :=
  [0x9, 0xA, 0xB, 0xC, 0xD, 0x1C, 0x1D, 0x1E, 0x1F, 0x20, 0x85, 0xA0, 0x1680, 0x2000, 0x2001, 0x2002,
    0x2003, 0x2004, 0x2005, 0x2006, 0x2007, 0x2008, 0x2009, 0x200A, 0x2028, 0x2029, 0x202F, 0x205F,
    0x3000]

theorem toNat_mem_blankCodes {c : Char} (h : isBlank c = true) : c.toNat ∈ blankCodes := by
  simp only [isBlank, Bool.or_eq_true, Bool.and_eq_true, decide_eq_true_eq, beq_iff_eq] at h
  simp only [blankCodes, List.mem_cons, List.not_mem_nil, or_false]
  omega

theorem isWordChar_of_isBlank {c : Char} (h : isBlank c = true) : isWordChar c = false := by
  have hcodes : ∀ n ∈ blankCodes, (wordRanges.any fun r => r.1 ≤ n && n ≤ r.2) = false := by
    decide +kernel
  exact hcodes c.toNat (toNat_mem_blankCodes h)

theorem digit?_of_isBlank {c : Char} (h : isBlank c = true) : digit? c = none := by
  have hcodes : ∀ n ∈ blankCodes, (digitZeros.find? fun z => z ≤ n && n ≤ z + 9) = none := by
    decide +kernel
  rw [digit?, hcodes c.toNat (toNat_mem_blankCodes h), Option.map_none]

theorem ne_of_isBlank {c d : Char} (h : isBlank c = true) (hd : isBlank d = false) : c ≠ d := by
  rintro rfl
  rw [h] at hd
  cases hd

end SqlDesk.Text
