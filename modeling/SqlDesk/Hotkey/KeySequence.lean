/-
Key sequences.

A sequence is one to four chords with a comma and a space in between. A chord is a key after any
number of modifiers: a capital letter, a digit, or a function key up to F99.
-/
import SqlDesk.Text.Replace

namespace SqlDesk.KeySequence

/-- The keys that are held down with another one. -/
def modifiers : List String := ["Ctrl+", "Alt+", "Shift+", "Meta+"]

/-- Whether a text is the name of a key. -/
def isKey : List Char → Bool
  | [c] => c.isUpper || c.isDigit
  | ['F', c] => c.isDigit && c ≠ '0'
  | ['F', c, d] => c.isDigit && c ≠ '0' && d.isDigit
  | _ => false

/-- A chord without its first modifier. -/
def dropModifier? (chord : List Char) : Option (List Char) :=
  modifiers.findSome? fun modifier =>
    if modifier.toList.isPrefixOf chord then some (chord.drop modifier.length) else none

/-- Whether a text is a chord with at most `fuel` modifiers. -/
def isChordWithin : Nat → List Char → Bool
  | 0, chord => isKey chord
  | fuel + 1, chord =>
    match dropModifier? chord with
    | some rest => isChordWithin fuel rest
    | none => isKey chord

/-- Whether a text is a chord. -/
def isChord (chord : List Char) : Bool :=
  isChordWithin chord.length chord

/-- Whether a text consists of at most `count` chords. -/
def isSequenceOf : Nat → List Char → Bool
  | 0, _ => false
  | count + 1, cs =>
    match Text.cut? [',', ' '] cs with
    | some (chord, rest) => isChord chord && isSequenceOf count rest
    | none => isChord cs

/-- The key sequence that a text denotes; empty if it denotes none. -/
def ofText (text : String) : String :=
  if isSequenceOf 4 text.toList then text else ""

end SqlDesk.KeySequence
