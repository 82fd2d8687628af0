/-
Slices by signed offsets.

An offset counts from the start of a text; a negative one counts from its end. Offsets outside the
text are moved to its nearest end, so a slice always exists and is empty when its ends are out of
order.
-/
namespace SqlDesk.Text

/-- The place in a text of length `length` that a signed offset denotes. -/
def place (length : Nat) (offset : Int) : Nat :=
  if offset < 0 then (offset + length).toNat else min offset.toNat length

theorem place_ofNat {length n : Nat} (h : n ≤ length) : place length (n : Int) = n := by
  unfold place
  rw [if_neg (by omega)]
  omega

/-- The part of a text between two signed offsets. -/
def slice {α : Type} (xs : List α) (start stop : Int) : List α :=
  (xs.take (place xs.length stop)).drop (place xs.length start)

theorem slice_ofNat {α : Type} (xs : List α) {start stop : Nat} (hs : start ≤ xs.length)
    (he : stop ≤ xs.length) : slice xs start stop = (xs.take stop).drop start := by
  simp only [slice, place_ofNat hs, place_ofNat he]

end SqlDesk.Text
