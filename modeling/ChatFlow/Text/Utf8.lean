/-!
# Bytes as text

Bytes are read as UTF-8.  Bytes that are none become replacement characters, one
for each longest start of a character that is not finished.
-/

namespace ChatFlow.Text

/-- The character that stands for bytes that are none. -/
def replacement : Char := '\uFFFD'

/-- How many bytes follow a first byte, the bounds of the second one, and the bits of the first. -/
def leadOf (b : Nat) : Option (Nat × Nat × Nat × Nat) :=
  if 0xC2 ≤ b ∧ b ≤ 0xDF then some (1, 0x80, 0xBF, b - 0xC0)
  else if b = 0xE0 then some (2, 0xA0, 0xBF, 0)
  else if b = 0xED then some (2, 0x80, 0x9F, 0xD)
  else if 0xE1 ≤ b ∧ b ≤ 0xEF then some (2, 0x80, 0xBF, b - 0xE0)
  else if b = 0xF0 then some (3, 0x90, 0xBF, 0)
  else if b = 0xF4 then some (3, 0x80, 0x8F, 4)
  else if 0xF1 ≤ b ∧ b ≤ 0xF3 then some (3, 0x80, 0xBF, b - 0xF0)
  else none

/-- What is known of a character whose first bytes have been read: how many bytes are due, the bounds
of the next one, and the bits so far. -/
structure Begun where
  due : Nat
  low : Nat
  high : Nat
  bits : Nat

/-- The characters of bytes, where a character may have been begun. -/
def readUtf8 : Option Begun → List Nat → List Char
  | none, [] => []
  | some _, [] => [replacement]
  | none, b :: rest =>
    if b < 0x80 then Char.ofNat b :: readUtf8 none rest
    else match leadOf b with
      | some (due, low, high, bits) => readUtf8 (some ⟨due, low, high, bits⟩) rest
      | none => replacement :: readUtf8 none rest
  | some c, b :: rest =>
    if c.low ≤ b ∧ b ≤ c.high then
      let bits := c.bits * 64 + (b - 0x80)
      if c.due ≤ 1 then Char.ofNat bits :: readUtf8 none rest
      else readUtf8 (some ⟨c.due - 1, 0x80, 0xBF, bits⟩) rest
    else if b < 0x80 then replacement :: Char.ofNat b :: readUtf8 none rest
    else match leadOf b with
      | some (due, low, high, bits) => replacement :: readUtf8 (some ⟨due, low, high, bits⟩) rest
      | none => replacement :: replacement :: readUtf8 none rest

/-- The text that bytes are. -/
def ofBytes (bytes : List Nat) : String := String.ofList (readUtf8 none bytes)

end ChatFlow.Text
