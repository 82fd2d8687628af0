/-
Small letters of a text.

Every capital has one small letter, with two exceptions: the dotted capital I becomes a plain i
under a dot of its own, and the capital sigma becomes its final form at the end of a word. A sigma
ends a word when, marks and modifiers passed over, a cased letter stands before it and none after
it.
-/
import SqlDesk.Text.Range
import SqlDesk.Text.Lowercase.Table

namespace SqlDesk.Text.Lowercase

/-- Whether a character is passed over when the case of its neighbour is asked for. -/
def isIgnorable (c : Char) : Bool :=
  inRanges ignorableRanges c

/-- Whether the first character that is not passed over is a cased letter. -/
def meetsCased (cs : List Char) : Bool :=
  match cs.dropWhile isIgnorable with
  | [] => false
  | c :: _ => inRanges casedRanges c

/-- The small letter of a capital, and any other character itself. -/
def smallLetter (c : Char) : Char :=
  match capitalRuns.find? fun (first, last, step, _) =>
      first ≤ c.toNat && c.toNat ≤ last && (c.toNat - first) % step == 0 with
  | some (_, _, _, shift) => Char.ofNat ((c.toNat : Int) + shift).toNat
  | none => c

/-- The small letters of a text that follows `before`, read backwards. -/
def lowerAfter (before : List Char) : List Char → List Char
  | [] => []
  | c :: rest =>
    let small :=
      if c = 'Σ' then
        [if meetsCased before && !meetsCased rest then 'ς' else 'σ']
      else if c = 'İ' then ['i', '\u0307']
      else [smallLetter c]
    small ++ lowerAfter (c :: before) rest

end SqlDesk.Text.Lowercase

namespace SqlDesk.Text

/-- A text in small letters. -/
def lower (cs : List Char) : List Char :=
  Lowercase.lowerAfter [] cs

end SqlDesk.Text
