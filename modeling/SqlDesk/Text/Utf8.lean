/-
Texts as bytes, in UTF-8.

`decode` reads the shortest form of each code point and nothing else. A refusal says where it
happened: from which byte on, over how many bytes, and whether the bytes were wrong or too few.
-/
import SqlDesk.Text.Quoted

namespace SqlDesk.Text.Utf8

/-- The bytes of a character. -/
def encodeChar (c : Char) : List UInt8 :=
  let n := c.toNat
  let continuation (m : Nat) : UInt8 := (0x80 + m % 64).toUInt8
  if n < 0x80 then [n.toUInt8]
  else if n < 0x800 then [(0xC0 + n / 64).toUInt8, continuation n]
  else if n < 0x10000 then [(0xE0 + n / 4096).toUInt8, continuation (n / 64), continuation n]
  else
    [(0xF0 + n / 262144).toUInt8, continuation (n / 4096), continuation (n / 64), continuation n]

/-- The bytes of a text. -/
def encode (cs : List Char) : List UInt8 :=
  cs.flatMap encodeChar

/-- What is wrong with bytes that are no UTF-8 text. -/
inductive Flaw where
  | invalidStart
  | invalidContinuation
  | unexpectedEnd
  deriving DecidableEq, Repr

/-- Where bytes stop being UTF-8 text: the place of the character's first byte, that byte, and the
number of bytes that belong to the refusal. -/
structure Malformed where
  position : Nat
  first : UInt8
  span : Nat
  flaw : Flaw
  deriving DecidableEq, Repr

/-- The wording of a refusal. -/
def Malformed.message (m : Malformed) : String :=
  let reason := match m.flaw with
    | .invalidStart => "invalid start byte"
    | .invalidContinuation => "invalid continuation byte"
    | .unexpectedEnd => "unexpected end of data"
  let place :=
    if m.span = 1 then
      s!"byte 0x{String.ofList (hexDigits 2 m.first.toNat)} in position {m.position}"
    else s!"bytes in position {m.position}-{m.position + m.span - 1}"
  s!"'utf-8' codec can't decode {place}: {reason}"

/-- How many bytes follow a first byte, the range the second byte must lie in, and the bits that the
first byte adds to the code point. -/
def lead? (b : UInt8) : Option (Nat × Nat × Nat × Nat) :=
  let n := b.toNat
  if n < 0x80 then some (0, 0x80, 0xBF, n)
  else if n < 0xC2 then none
  else if n < 0xE0 then some (1, 0x80, 0xBF, n - 0xC0)
  else if n = 0xE0 then some (2, 0xA0, 0xBF, 0)
  else if n = 0xED then some (2, 0x80, 0x9F, 0xD)
  else if n < 0xF0 then some (2, 0x80, 0xBF, n - 0xE0)
  else if n = 0xF0 then some (3, 0x90, 0xBF, 0)
  else if n < 0xF4 then some (3, 0x80, 0xBF, n - 0xF0)
  else if n = 0xF4 then some (3, 0x80, 0x8F, 4)
  else none

/-- The state between two bytes: either before a character, or inside one that began at `position`
with `first`, of which `seen` bytes are read and `missing` more are due, the next one between `low`
and `high`. -/
inductive State where
  | between
  | inside (position : Nat) (first : UInt8) (seen missing low high bits : Nat)

/-- Decodes the bytes from `position` on. -/
def decodeFrom : State → Nat → List UInt8 → Except Malformed (List Char)
  | .between, _, [] => .ok []
  | .inside start first seen _ _ _ _, _, [] => .error ⟨start, first, seen, .unexpectedEnd⟩
  | .between, position, b :: rest =>
    match lead? b with
    | none => .error ⟨position, b, 1, .invalidStart⟩
    | some (0, _, _, bits) => (decodeFrom .between (position + 1) rest).map (Char.ofNat bits :: ·)
    | some (missing + 1, low, high, bits) =>
      decodeFrom (.inside position b 1 (missing + 1) low high bits) (position + 1) rest
  | .inside start first seen missing low high bits, position, b :: rest =>
    if low ≤ b.toNat && b.toNat ≤ high then
      let bits := 64 * bits + (b.toNat - 0x80)
      match missing with
      | 0 | 1 => (decodeFrom .between (position + 1) rest).map (Char.ofNat bits :: ·)
      | left + 2 =>
        decodeFrom (.inside start first (seen + 1) (left + 1) 0x80 0xBF bits) (position + 1) rest
    else .error ⟨start, first, seen, .invalidContinuation⟩

/-- The text that bytes encode. -/
def decode (bytes : List UInt8) : Except Malformed (List Char) :=
  decodeFrom .between 0 bytes

end SqlDesk.Text.Utf8
