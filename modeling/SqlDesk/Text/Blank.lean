/-
Blank characters, and what is left of a text once they are set aside.

`isBlank` is white space in the Unicode sense together with the four information separators and the
next-line control; a zero-width space or a byte order mark is not blank. `words` is the view of a
text in which only its runs of other characters count: two texts with the same words differ in
blanks only.
-/
namespace SqlDesk.Text

/-- Whether a character is blank. -/
def isBlank (c : Char) : Bool :=
  let n := c.toNat
  (0x9 ≤ n && n ≤ 0xD) || (0x1C ≤ n && n ≤ 0x20) || n == 0x85 || n == 0xA0 || n == 0x1680 ||
    (0x2000 ≤ n && n ≤ 0x200A) || n == 0x2028 || n == 0x2029 || n == 0x202F || n == 0x205F ||
    n == 0x3000

/-- Whether a text has no character that is not blank. -/
def allBlank (cs : List Char) : Bool :=
  cs.all isBlank

/-- A text without its leading blanks. -/
def trimLeft (cs : List Char) : List Char :=
  cs.dropWhile isBlank

/-- A text without its trailing blanks. -/
def trimRight (cs : List Char) : List Char :=
  (cs.reverse.dropWhile isBlank).reverse

/-- A text without leading and trailing blanks. -/
def trim (cs : List Char) : List Char :=
  trimRight (trimLeft cs)

/-- A string without leading and trailing blanks. -/
def strip (s : String) : String :=
  String.ofList (trim s.toList)

/-- The words of a text: its maximal runs of characters that are not blank, in order. -/
def words : List Char → List (List Char)
  | [] => []
  | [c] => if isBlank c then [] else [[c]]
  | c :: d :: rest =>
    if isBlank c then words (d :: rest)
    else if isBlank d then [c] :: words (d :: rest)
    else
      match words (d :: rest) with
      | [] => [[c]]
      | w :: ws => (c :: w) :: ws

@[simp] theorem words_nil : words [] = [] := rfl

theorem words_cons_of_isBlank {c : Char} (h : isBlank c = true) (rest : List Char) :
    words (c :: rest) = words rest := by
  cases rest <;> simp [words, h]

theorem words_cons_ne_nil {c : Char} (h : isBlank c = false) (rest : List Char) :
    words (c :: rest) ≠ [] := by
  cases rest with
  | nil => simp [words, h]
  | cons d rest =>
    simp only [words, h, Bool.false_eq_true, if_false]
    split
    · simp
    · split <;> simp

theorem words_eq_nil_iff {cs : List Char} : words cs = [] ↔ allBlank cs = true := by
  induction cs with
  | nil => simp [allBlank]
  | cons c rest ih =>
    cases h : isBlank c with
    | true =>
      rw [words_cons_of_isBlank h, ih]
      simp [allBlank, h]
    | false => simp [words_cons_ne_nil h, allBlank, h]

end SqlDesk.Text
