/-
Offsets and positions of a text.

The position at the end of a part in front is the offset of its end (`toOffset_append`), so going
from an offset to its position and back changes nothing (`toOffset_ofOffset`). The two ways are
adjoint (`ofOffset_le_iff`): going from a position to its offset and back leads down to the start of
the character that covers it (`ofOffset_toOffset`).
-/
import SqlDesk.Text.Utf16
import Mathlib.Order.Bounds.Basic

namespace SqlDesk.Text.Utf16

theorem toOffset_le (cs : List Char) (position : Int) : toOffset cs position ≤ cs.length := by
  induction cs generalizing position with
  | nil => exact Nat.le_refl 0
  | cons c cs ih =>
    simp only [toOffset, List.length_cons]
    split
    · omega
    · exact Nat.succ_le_succ (ih _)

theorem toOffset_of_nonpos (cs : List Char) {position : Int} (h : position ≤ 0) :
    toOffset cs position = 0 := by
  cases cs with
  | nil => rfl
  | cons c cs =>
    have hwidth := width_pos c
    rw [toOffset, if_pos (by omega)]

/-- The position where a part in front ends is the offset where it ends. -/
theorem toOffset_append (as bs : List Char) : toOffset (as ++ bs) (size as) = as.length := by
  induction as with
  | nil => exact toOffset_of_nonpos bs (Int.le_refl 0)
  | cons a as ih =>
    have hrest : ((size (a :: as) : Nat) : Int) - width a = size as := by
      rw [size_cons]
      omega
    rw [List.cons_append, toOffset, hrest, ih, if_neg, List.length_cons]
    rw [size_cons]
    omega

theorem toOffset_ofOffset {cs : List Char} {n : Nat} (h : n ≤ cs.length) :
    toOffset cs (ofOffset cs n) = n := by
  have hfront := toOffset_append (cs.take n) (cs.drop n)
  rw [List.take_append_drop, List.length_take, Nat.min_eq_left h] at hfront
  exact hfront

theorem ofOffset_le_size (cs : List Char) (offset : Int) : ofOffset cs offset ≤ size cs := by
  have hsize := size_append (cs.take offset.toNat) (cs.drop offset.toNat)
  rw [List.take_append_drop] at hsize
  rw [ofOffset]
  omega

theorem ofOffset_append (as bs : List Char) : ofOffset (as ++ bs) as.length = size as := by
  simp [ofOffset]

/-- An offset outside the text has the position of the nearest end. -/
theorem ofOffset_clamp (cs : List Char) (offset : Int) :
    ofOffset cs (min (max offset 0) cs.length) = ofOffset cs offset := by
  have htake : cs.take (min (max offset 0) (cs.length : Int)).toNat = cs.take offset.toNat := by
    rw [List.take_eq_take_iff]
    omega
  rw [ofOffset, htake, ofOffset]

/-! ## Positions and offsets are adjoint -/

/-- **The two ways are adjoint**: the position of an offset is not behind another position just if
the offset is not behind that of the other position. -/
theorem ofOffset_le_iff {cs : List Char} {n : Nat} (hn : n ≤ cs.length) {position : Int}
    (hposition : 0 ≤ position) : (ofOffset cs n : Int) ≤ position ↔ n ≤ toOffset cs position := by
  induction cs generalizing n position with
  | nil =>
    obtain rfl : n = 0 := Nat.le_zero.mp hn
    exact ⟨fun _ => Nat.zero_le _, fun _ => hposition⟩
  | cons c cs ih =>
    cases n with
    | zero => exact ⟨fun _ => Nat.zero_le _, fun _ => hposition⟩
    | succ n =>
      have hsucc : ofOffset (c :: cs) ((n + 1 : Nat) : Int) = width c + ofOffset cs n := rfl
      rw [hsucc, toOffset]
      by_cases hcovers : position < width c
      · rw [if_pos hcovers]
        omega
      · have hbehind : 0 ≤ position - width c := by omega
        have hrest := ih (Nat.le_of_succ_le_succ hn) hbehind
        rw [if_neg hcovers]
        omega

/-- A position in a text at which a character starts, or the text ends. -/
def IsBoundary (cs : List Char) (position : Nat) : Prop :=
  ∃ front back, cs = front ++ back ∧ position = size front

theorem isBoundary_iff {cs : List Char} {position : Nat} :
    IsBoundary cs position ↔ ∃ n : Nat, n ≤ cs.length ∧ position = ofOffset cs n := by
  constructor
  · rintro ⟨front, back, rfl, rfl⟩
    exact ⟨front.length, by simp, (ofOffset_append front back).symm⟩
  · rintro ⟨n, -, rfl⟩
    exact ⟨cs.take n, cs.drop n, (List.take_append_drop n cs).symm, rfl⟩

theorem ofOffset_mono (cs : List Char) {offset offset' : Int} (hle : offset ≤ offset') :
    ofOffset cs offset ≤ ofOffset cs offset' := by
  obtain ⟨rest, hrest⟩ := List.take_prefix_take_left (l := cs) (Int.toNat_le_toNat hle)
  rw [ofOffset, ofOffset, ← hrest, size_append]
  exact Nat.le_add_right _ _

theorem toOffset_mono (cs : List Char) {position position' : Int} (hle : position ≤ position') :
    toOffset cs position ≤ toOffset cs position' := by
  by_cases hneg : position < 0
  · rw [toOffset_of_nonpos cs (by omega)]
    exact Nat.zero_le _
  · have hself := (ofOffset_le_iff (toOffset_le cs position) (by omega)).mpr (Nat.le_refl _)
    exact (ofOffset_le_iff (toOffset_le cs position) (by omega)).mp (Int.le_trans hself hle)

/-- **From a position to its offset and back**: that is the greatest boundary up to the position, or
up to the end of the text that is nearest to it. -/
theorem ofOffset_toOffset (cs : List Char) (position : Int) :
    IsGreatest {b : Nat | IsBoundary cs b ∧ (b : Int) ≤ min (max position 0) (size cs)}
      (ofOffset cs (toOffset cs position)) := by
  have hsize := ofOffset_le_size cs (toOffset cs position)
  have hoffset := toOffset_le cs position
  constructor
  · refine ⟨isBoundary_iff.mpr ⟨_, hoffset, rfl⟩, ?_⟩
    by_cases hneg : position < 0
    · have hstart : ofOffset cs (toOffset cs position) = 0 := by
        rw [toOffset_of_nonpos cs (by omega)]
        rfl
      omega
    · have hself := (ofOffset_le_iff hoffset (by omega)).mpr (Nat.le_refl _)
      omega
  · rintro b ⟨hboundary, hle⟩
    obtain ⟨n, hn, rfl⟩ := isBoundary_iff.mp hboundary
    by_cases hneg : position < 0
    · omega
    · have hposition : 0 ≤ position := by omega
      have hbelow := (ofOffset_le_iff hn hposition).mp (by omega)
      exact ofOffset_mono cs (Int.ofNat_le.mpr hbelow)

/-- How offsets and positions of a text are converted. An offset comes back from its position, a
position goes down to the greatest boundary; either way keeps the order and ends in the text,
wherever it starts. The positions in two texts together are those of the first, and those of the
second behind the size of the first. -/
structure Converts (cs : List Char) : Prop where
  back : ∀ offset : Int, 0 ≤ offset → offset ≤ cs.length →
    (toOffset cs (ofOffset cs offset) : Int) = offset
  floor : ∀ position : Int,
    IsGreatest {b : Nat | IsBoundary cs b ∧ (b : Int) ≤ min (max position 0) (size cs)}
      (ofOffset cs (toOffset cs position))
  mono_offset : ∀ position position' : Int, position ≤ position' →
    toOffset cs position ≤ toOffset cs position'
  mono_position : ∀ offset offset' : Int, offset ≤ offset' →
    ofOffset cs offset ≤ ofOffset cs offset'
  offset_le : ∀ position, toOffset cs position ≤ cs.length
  position_le : ∀ offset, ofOffset cs offset ≤ size cs
  front : ∀ (bs : List Char) (offset : Int), 0 ≤ offset → offset ≤ cs.length →
    ofOffset (cs ++ bs) offset = ofOffset cs offset
  behind : ∀ (bs : List Char) (offset : Int), 0 ≤ offset → offset ≤ bs.length →
    ofOffset (cs ++ bs) (cs.length + offset) = size cs + ofOffset bs offset

/-- **Offsets and positions of every text are converted so.** -/
theorem converts (cs : List Char) : Converts cs where
  back offset hlow hhigh := by
    obtain ⟨n, rfl⟩ := Int.eq_ofNat_of_zero_le hlow
    rw [toOffset_ofOffset (Int.ofNat_le.mp hhigh)]
  floor := ofOffset_toOffset cs
  mono_offset _ _ := toOffset_mono cs
  mono_position _ _ := ofOffset_mono cs
  offset_le := toOffset_le cs
  position_le := ofOffset_le_size cs
  front bs offset _ hhigh := by
    rw [ofOffset, List.take_append_of_le_length (by omega), ofOffset]
  behind bs offset hlow _ := by
    have hbehind : (cs.length + offset).toNat = cs.length + offset.toNat := by omega
    rw [ofOffset, hbehind, List.take_length_add_append, size_append, ofOffset]

/-- A position inside the pair of units of a character goes down to its start. -/
example : ofOffset ['a', '😀', 'b'] (toOffset ['a', '😀', 'b'] 2) = 1 := by decide

end SqlDesk.Text.Utf16
