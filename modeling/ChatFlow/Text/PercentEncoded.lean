import ChatFlow.Text.Base64

/-!
# Percent encoding

Letters, digits, the four marks `_`, `.`, `-` and `~`, and further characters
that are named stand for themselves; every other byte is written as a percent
sign and two hexadecimal digits.
-/

namespace ChatFlow.Text

/-- A hexadecimal digit as a capital. -/
def hexCapital (n : Nat) : Char := if n < 10 then Char.ofNat (48 + n) else Char.ofNat (55 + n)

/-- Whether a character always stands for itself. -/
def isUnreserved (c : Char) : Bool :=
  c.isAlphanum || c = '_' || c = '.' || c = '-' || c = '~'

/-- One character; those in `safe` stand for themselves. -/
def percentChar (safe : List Char) (c : Char) : List Char :=
  if isUnreserved c || safe.contains c then [c]
  else (bytesOf (String.singleton c)).flatMap fun b => ['%', hexCapital (b / 16), hexCapital (b % 16)]

/-- A text in percent encoding; the characters in `safe` stand for themselves. -/
def percentEncoded (safe : List Char) (s : String) : String :=
  String.ofList (s.toList.flatMap (percentChar safe))

end ChatFlow.Text
