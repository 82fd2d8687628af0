/-
Offsets in characters and positions in UTF-16 units.

A character above U+FFFF takes two units, any other one. `ofOffset` sends a character offset to the
position of that character's first unit; `toOffset` sends a position to the character that covers
it, so a position between the two units of a character falls back to its start. Both clamp to the
text.
-/
namespace SqlDesk.Text.Utf16

/-- The number of UTF-16 units of a character. -/
def width (c : Char) : Nat :=
  if c.toNat > 0xFFFF then 2 else 1

theorem width_pos (c : Char) : 0 < width c := by
  unfold width
  split <;> omega

/-- The number of UTF-16 units of a text. -/
def size : List Char → Nat
  | [] => 0
  | c :: cs => width c + size cs

@[simp] theorem size_nil : size [] = 0 := rfl

@[simp] theorem size_cons (c : Char) (cs : List Char) : size (c :: cs) = width c + size cs := rfl

@[simp] theorem size_append (as bs : List Char) : size (as ++ bs) = size as + size bs := by
  induction as with
  | nil => simp
  | cons c as ih => rw [List.cons_append, size_cons, size_cons, ih, Nat.add_assoc]

/-- The offset of the character that covers a position, or of the nearest end of the text. -/
def toOffset : List Char → Int → Nat
  | [], _ => 0
  | c :: cs, position =>
    if position < width c then 0 else toOffset cs (position - width c) + 1

/-- The position of the first unit of the character at an offset, clamped to the text. -/
def ofOffset (cs : List Char) (offset : Int) : Nat :=
  size (cs.take offset.toNat)

end SqlDesk.Text.Utf16
