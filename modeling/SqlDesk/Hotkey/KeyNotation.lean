/-
How a host writes key sequences.

A host reads a text as a key sequence and spells the sequences that it has. How it does so is its own
affair: it may take several texts for one sequence, and a text that it does not know for none or for
some unknown one. What is proved of hosts and windows holds for every notation. The program runs here
in a plain one, which spells a sequence as it was read.
-/
import SqlDesk.Hotkey
import SqlDesk.Hotkey.KeySequence
import SqlDesk.Failure

namespace SqlDesk

/-- How the key sequences of a host are read and spelt. Not every text is read as a sequence; what it
is read as then is empty. -/
class KeyNotation (κ : Type) where
  read : String → κ
  spell : κ → String
  isEmpty : κ → Bool

namespace KeyNotation

/-- The notation in which a sequence is spelt as it was read. -/
instance verbatim : KeyNotation String where
  read := KeySequence.ofText
  spell := id
  isEmpty sequence := sequence = ""

variable {κ : Type}

/-- The key sequences of some bindings, or the first keys that are none. -/
def sequences (keys : KeyNotation κ) : List String → Except Failure (List κ)
  | [] => .ok []
  | binding :: rest =>
    if keys.isEmpty (keys.read (Hotkey.keys binding)) then
      .error (.keySequence (Hotkey.keys binding))
    else
      match sequences keys rest with
      | .error e => .error e
      | .ok more => .ok (keys.read (Hotkey.keys binding) :: more)

end KeyNotation

end SqlDesk
