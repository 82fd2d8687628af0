/-
Where the caret goes when a text is replaced by one of another length.

The caret keeps its share of the text: it goes to the nearest offset, a half counting upwards.
-/
namespace SqlDesk

/-- The offset, in a text of length `new`, of a caret that was at an offset in a text of length
`old`. -/
def remapCaret (caret old new : Int) : Int :=
  if old ≤ 0 then 0
  else
    let caret := min (max caret 0) old
    min (max ((2 * caret * new + old) / (2 * old)) 0) new

theorem remapCaret_nonneg (caret old : Int) {new : Int} (hnew : 0 ≤ new) :
    0 ≤ remapCaret caret old new := by
  simp only [remapCaret]
  split <;> omega

theorem remapCaret_le (caret old : Int) {new : Int} (hnew : 0 ≤ new) :
    remapCaret caret old new ≤ new := by
  simp only [remapCaret]
  split <;> omega

end SqlDesk
