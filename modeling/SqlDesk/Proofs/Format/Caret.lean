/-
Where a caret goes when its text gets another length.

A caret in the text goes to the offset nearest to its share of the new text, the larger one of two
that are as near (`remapCaret_eq_round`). What else is to be said of it follows from that: the ends
of the text stay its ends, the order of carets is kept, and a caret comes back from a longer text to
where it was.
-/
import SqlDesk.Format.Caret
import Mathlib.Algebra.Order.Round
import Mathlib.Data.Rat.Floor
import Mathlib.Tactic.FieldSimp
import Mathlib.Tactic.Linarith

namespace SqlDesk

/-! ## Rounding -/

/-- An integer is nearest to a number, and the larger one if two are as near. -/
structure IsNearest (x : ℚ) (n : ℤ) : Prop where
  near : ∀ k : ℤ, |x - n| ≤ |x - k|
  tie : ∀ k : ℤ, |x - k| = |x - n| → k ≤ n

theorem isNearest_round (x : ℚ) : IsNearest x (round x) := by
  refine ⟨round_le x, fun k htie => ?_⟩
  by_contra hlt
  have hnext : ((round x : ℤ) : ℚ) + 1 ≤ k := by exact_mod_cast not_le.mp hlt
  have hhalf := abs_sub_round x
  have hlow := sub_half_lt_round x
  have hfar : x - k ≤ 0 := by linarith
  rw [← htie, abs_of_nonpos hfar] at hhalf
  linarith

theorem round_mono {x y : ℚ} (hle : x ≤ y) : round x ≤ round y := by
  rw [round_eq, round_eq]
  exact Int.floor_mono (by linarith)

/-! ## The caret as a rounded share -/

theorem remapCaret_clamped (caret old new : Int) :
    remapCaret caret old new = remapCaret (min (max caret 0) old) old new := by
  have hclamp : 0 < old → min (max (min (max caret 0) old) 0) old = min (max caret 0) old := by
    omega
  unfold remapCaret
  split
  · rfl
  · rw [hclamp (by omega)]

section

variable {caret old new : Int}

/-- A caret in the text is moved by a single division. -/
theorem remapCaret_of_inside (hold : 0 < old) (hnew : 0 ≤ new) (hlow : 0 ≤ caret)
    (hhigh : caret ≤ old) : remapCaret caret old new = (2 * caret * new + old) / (2 * old) := by
  have hshare : 0 ≤ caret * new := Int.mul_nonneg hlow hnew
  have hwhole : caret * new ≤ old * new := Int.mul_le_mul_of_nonneg_right hhigh hnew
  have hnonneg : 0 ≤ (2 * caret * new + old) / (2 * old) := by
    apply Int.ediv_nonneg
    · linarith
    · omega
  have hle : (2 * caret * new + old) / (2 * old) < new + 1 := by
    apply Int.ediv_lt_of_lt_mul
    · omega
    · linarith
  have hcaret : min (max caret 0) old = caret := by omega
  rw [remapCaret, if_neg (by omega)]
  simp only [hcaret]
  omega

/-- **A caret goes to its share of the new text, rounded.** -/
theorem remapCaret_eq_round (hold : 0 < old) (hnew : 0 ≤ new) (hlow : 0 ≤ caret)
    (hhigh : caret ≤ old) : remapCaret caret old new = round ((caret * new : ℚ) / old) := by
  have hpos : (0 : ℚ) < old := by exact_mod_cast hold
  rw [remapCaret_of_inside hold hnew hlow hhigh, eq_comm, round_eq_iff]
  have hbelow := Int.ediv_mul_le (2 * caret * new + old) (b := 2 * old) (by omega)
  have habove := Int.lt_ediv_add_one_mul_self (2 * caret * new + old) (b := 2 * old) (by omega)
  generalize (2 * caret * new + old) / (2 * old) = n at hbelow habove
  have hbelow' : (n : ℚ) * (2 * old) ≤ 2 * caret * new + old := by exact_mod_cast hbelow
  have habove' : 2 * caret * new + old < ((n : ℚ) + 1) * (2 * old) := by exact_mod_cast habove
  constructor
  · rw [le_div_iff₀ hpos]
    linarith
  · rw [div_lt_iff₀ hpos]
    linarith

end

/-! ## No division by zero -/

/-- A quotient, if there is one. -/
def quotient? (n d : Int) : Option Int :=
  if d = 0 then none else some (n / d)

/-- Where a caret goes, or nothing if a division by zero is met on the way. -/
def remapCaret? (caret old new : Int) : Option Int :=
  if old ≤ 0 then some 0
  else
    let caret := min (max caret 0) old
    (quotient? (2 * caret * new + old) (2 * old)).map fun position => min (max position 0) new

theorem remapCaret?_eq_some (caret old new : Int) :
    remapCaret? caret old new = some (remapCaret caret old new) := by
  simp only [remapCaret?, remapCaret, quotient?]
  split
  · rfl
  · have hdivisor : 2 * old ≠ 0 := by omega
    rw [if_neg hdivisor, Option.map_some]

/-! ## What follows -/

/-- How the carets of a text of length `old` move when it gets the length `new`. Each goes to the
offset nearest to its share of the new text, and so keeps to the text, to the order of carets and
to the ends. A caret outside the text moves as the end that is nearest to it. A text that does not
get shorter and is then given its old length has its carets back. -/
structure Moves (old new : Int) : Prop where
  nearest : ∀ caret, 0 ≤ caret → caret ≤ old →
    IsNearest ((caret * new : ℚ) / old) (remapCaret caret old new)
  nonneg : ∀ caret, 0 ≤ remapCaret caret old new
  le : ∀ caret, remapCaret caret old new ≤ new
  mono : ∀ caret caret', caret ≤ caret' → remapCaret caret old new ≤ remapCaret caret' old new
  mono_length : ∀ caret new', new ≤ new' → remapCaret caret old new ≤ remapCaret caret old new'
  start : remapCaret 0 old new = 0
  stop : remapCaret old old new = new
  same : new = old → ∀ caret, 0 ≤ caret → caret ≤ old → remapCaret caret old new = caret
  clamped : ∀ caret, remapCaret caret old new = remapCaret (min (max caret 0) old) old new
  back : old ≤ new → ∀ caret, 0 ≤ caret → caret ≤ old →
    remapCaret (remapCaret caret old new) new old = caret

section

variable {old new : Int} (hold : 0 < old) (hnew : 0 ≤ new)
include hold hnew

theorem remapCaret_mono {caret caret' : Int} (hle : caret ≤ caret') :
    remapCaret caret old new ≤ remapCaret caret' old new := by
  rw [remapCaret_clamped caret, remapCaret_clamped caret',
    remapCaret_eq_round hold hnew (by omega) (by omega),
    remapCaret_eq_round hold hnew (by omega) (by omega)]
  apply round_mono
  have hclamped : min (max caret 0) old ≤ min (max caret' 0) old := by omega
  gcongr

theorem remapCaret_mono_length {new' : Int} (hle : new ≤ new') (caret : Int) :
    remapCaret caret old new ≤ remapCaret caret old new' := by
  rw [remapCaret_clamped caret old new, remapCaret_clamped caret old new',
    remapCaret_eq_round hold hnew (by omega) (by omega),
    remapCaret_eq_round hold (by omega) (by omega) (by omega)]
  apply round_mono
  have hclamped : (0 : ℚ) ≤ ((min (max caret 0) old : ℤ) : ℚ) := by
    exact_mod_cast (by omega : 0 ≤ min (max caret 0) old)
  have hlength : (new : ℚ) ≤ new' := by exact_mod_cast hle
  gcongr

theorem remapCaret_zero : remapCaret 0 old new = 0 := by
  rw [remapCaret_eq_round hold hnew (by omega) (by omega)]
  simp

theorem remapCaret_end : remapCaret old old new = new := by
  have hpos : (old : ℚ) ≠ 0 := by exact_mod_cast hold.ne'
  rw [remapCaret_eq_round hold hnew (by omega) (by omega), mul_div_cancel_left₀ _ hpos,
    round_intCast]

omit hnew in
theorem remapCaret_same {caret : Int} (hlow : 0 ≤ caret) (hhigh : caret ≤ old) :
    remapCaret caret old old = caret := by
  have hpos : (old : ℚ) ≠ 0 := by exact_mod_cast hold.ne'
  rw [remapCaret_eq_round hold hold.le hlow hhigh, mul_div_cancel_right₀ _ hpos, round_intCast]

/-- **A caret comes back from a text that is not shorter.** Its share there is rounded by half an
offset at most, which is less than that in the shorter text. -/
theorem remapCaret_remapCaret (hle : old ≤ new) {caret : Int} (hlow : 0 ≤ caret)
    (hhigh : caret ≤ old) : remapCaret (remapCaret caret old new) new old = caret := by
  rcases Int.lt_or_eq_of_le hle with hlt | rfl
  · have hold' : (0 : ℚ) < old := by exact_mod_cast hold
    have hlt' : (old : ℚ) < new := by exact_mod_cast hlt
    have hnew' : (0 : ℚ) < new := lt_trans hold' hlt'
    have hshare : (caret * new : ℚ) / old * old = caret * new := div_mul_cancel₀ _ hold'.ne'
    have hbelow := sub_half_lt_round ((caret * new : ℚ) / old)
    have habove := round_le_add_half ((caret * new : ℚ) / old)
    rw [remapCaret_eq_round (by omega) (by omega) (remapCaret_nonneg _ _ hnew)
      (remapCaret_le _ _ hnew), remapCaret_eq_round hold hnew hlow hhigh, round_eq_iff]
    generalize round ((caret * new : ℚ) / old) = moved at hbelow habove
    constructor
    · rw [le_div_iff₀ hnew']
      nlinarith
    · rw [div_lt_iff₀ hnew']
      nlinarith
  · rw [remapCaret_same hold hlow hhigh, remapCaret_same hold hlow hhigh]

end

/-- **How carets move.** For no integers is there a division by zero on the way. -/
theorem remapCaret_moves :
    (∀ caret old new : Int, remapCaret? caret old new = some (remapCaret caret old new)) ∧
      ∀ old new : Int, 0 < old → 0 ≤ new → Moves old new := by
  refine ⟨remapCaret?_eq_some, fun old new hold hnew => ?_⟩
  exact
    { nearest := fun caret hlow hhigh => by
        rw [remapCaret_eq_round hold hnew hlow hhigh]
        exact isNearest_round _
      nonneg := fun caret => remapCaret_nonneg caret old hnew
      le := fun caret => remapCaret_le caret old hnew
      mono := fun caret caret' hle => remapCaret_mono hold hnew hle
      mono_length := fun caret new' hle => remapCaret_mono_length hold hnew hle caret
      start := remapCaret_zero hold hnew
      stop := remapCaret_end hold hnew
      same := by
        rintro rfl caret hlow hhigh
        exact remapCaret_same hold hlow hhigh
      clamped := fun caret => remapCaret_clamped caret old new
      back := fun hle caret hlow hhigh => remapCaret_remapCaret hold hnew hle hlow hhigh }

/-- The middle of two characters goes to the second of three, half an offset up, and back. -/
theorem remapCaret_moves_middle :
    ((0 : Int) < 2 ∧ (0 : Int) ≤ 3) ∧ IsNearest (((1 : Int) * (3 : Int) : ℚ) / (2 : Int)) 2 ∧
      remapCaret? 1 2 3 = some 2 ∧ remapCaret 2 3 2 = 1 := by
  have hmoves := remapCaret_moves.2 2 3 (by decide) (by decide)
  have hmoved : remapCaret 1 2 3 = 2 := by decide
  have hnearest := hmoves.nearest 1 (by decide) (by decide)
  have hback := hmoves.back (by decide) 1 (by decide) (by decide)
  rw [hmoved] at hnearest hback
  exact ⟨by decide, hnearest, by rw [remapCaret_moves.1, hmoved], hback⟩

end SqlDesk
