import ChatFlow.Text.Utf8

/-!
# Characters of several bytes

Two further ways in which bytes are characters: units of 16 bits, where two
surrogates make one character, and units of 32 bits.  The bytes of a unit stand
in one of two orders.  What is no character is shown as `none` in its place, and
so is a unit that is cut off at the end.
-/

namespace ChatFlow.Text

/-- Which byte of a unit comes first. -/
inductive ByteOrder where
  | highFirst
  | lowFirst
  deriving DecidableEq, Repr

/-- The number that the bytes of a unit make. -/
def ByteOrder.number (order : ByteOrder) (bytes : List Nat) : Nat :=
  match order with
  | highFirst => bytes.foldl (fun n b => n * 256 + b) 0
  | lowFirst => bytes.foldr (fun b n => n * 256 + b) 0

/-- Whether a unit is the first of two that make one character. -/
def isHighSurrogate (unit : Nat) : Bool := 0xD800 ≤ unit && unit < 0xDC00

/-- Whether a unit is the second of two that make one character. -/
def isLowSurrogate (unit : Nat) : Bool := 0xDC00 ≤ unit && unit < 0xE000

/-- The character that two surrogates make. -/
def joinSurrogates (high low : Nat) : Char :=
  Char.ofNat (0x10000 + (high - 0xD800) * 0x400 + (low - 0xDC00))

/-- The characters of bytes in units of 16 bits. -/
def readUtf16 (order : ByteOrder) : List Nat → List (Option Char)
  | a :: b :: c :: d :: rest =>
    let unit := order.number [a, b]
    let after := order.number [c, d]
    if isHighSurrogate unit && isLowSurrogate after then
      some (joinSurrogates unit after) :: readUtf16 order rest
    else if isHighSurrogate unit || isLowSurrogate unit then
      none :: readUtf16 order (c :: d :: rest)
    else some (Char.ofNat unit) :: readUtf16 order (c :: d :: rest)
  | a :: b :: rest =>
    let unit := order.number [a, b]
    if isHighSurrogate unit then [none]
    else if isLowSurrogate unit then none :: rest.map fun _ => none
    else some (Char.ofNat unit) :: rest.map fun _ => none
  | [_] => [none]
  | [] => []
termination_by s => s.length

/-- The characters of bytes in units of 32 bits. -/
def readUtf32 (order : ByteOrder) : List Nat → List (Option Char)
  | a :: b :: c :: d :: rest =>
    let unit := order.number [a, b, c, d]
    let isCharacter := unit < 0xD800 || (0xE000 ≤ unit && unit < 0x110000)
    (if isCharacter then some (Char.ofNat unit) else none) :: readUtf32 order rest
  | [] => []
  | _ => [none]

/-- Characters as a text, with replacement characters for those that are none. -/
def withReplacements (chars : List (Option Char)) : String :=
  String.ofList (chars.map fun c => c.getD replacement)

/-- Both surrogates of a pair are needed, in this order. -/
example : readUtf16 .highFirst [0xD8, 0x3D, 0xDE, 0x00, 0xDE, 0x00, 0, 65]
    = [some '😀', none, some 'A'] := by decide +kernel

end ChatFlow.Text
