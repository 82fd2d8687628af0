/-
Line ends.

`unifyNewlines` is what reading a text file does: a carriage return with its line feed, or alone,
becomes one line feed. `lineCount` counts the lines of an editor, which only a line feed separates.
-/
namespace SqlDesk.Text

/-- A text with every line end written as one line feed. -/
def unifyNewlines : List Char → List Char
  | [] => []
  | '\r' :: '\n' :: rest => '\n' :: unifyNewlines rest
  | '\r' :: rest => '\n' :: unifyNewlines rest
  | c :: rest => c :: unifyNewlines rest

/-- The pieces of a text between its line feeds; there is always at least one. -/
def splitLines : List Char → List (List Char)
  | [] => [[]]
  | c :: rest =>
    if c = '\n' then [] :: splitLines rest
    else
      match splitLines rest with
      | [] => [[c]]
      | line :: lines => (c :: line) :: lines

/-- Lines put together again, with a line feed between neighbours. -/
def joinLines : List (List Char) → List Char
  | [] => []
  | [line] => line
  | line :: lines => line ++ '\n' :: joinLines lines

theorem splitLines_ne_nil (cs : List Char) : splitLines cs ≠ [] := by
  cases cs with
  | nil => simp [splitLines]
  | cons c rest =>
    simp only [splitLines]
    split
    · simp
    · split <;> simp

/-- Splitting loses nothing. -/
theorem joinLines_splitLines (cs : List Char) : joinLines (splitLines cs) = cs := by
  induction cs with
  | nil => rfl
  | cons c rest ih =>
    simp only [splitLines]
    split
    · next h =>
      cases hs : splitLines rest with
      | nil => exact absurd hs (splitLines_ne_nil rest)
      | cons line lines =>
        rw [hs] at ih
        simp [joinLines, ih, h]
    · cases hs : splitLines rest with
      | nil => exact absurd hs (splitLines_ne_nil rest)
      | cons line lines =>
        rw [hs] at ih
        cases lines with
        | nil => simpa [joinLines] using ih
        | cons l ls => simpa [joinLines] using ih

/-- The number of lines of a text in an editor. -/
def lineCount (cs : List Char) : Nat :=
  cs.count '\n' + 1

/-- Whether a character ends a line of running text. -/
def isLineBreak (c : Char) : Bool :=
  let n := c.toNat
  (0xA ≤ n && n ≤ 0xD) || (0x1C ≤ n && n ≤ 0x1E) || n == 0x85 || n == 0x2028 || n == 0x2029

/-- The first line of a message, up to its first line break. -/
def firstLine (s : String) : String :=
  String.ofList (s.toList.takeWhile (!isLineBreak ·))

end SqlDesk.Text
