import ChatFlow.Text.Blank
import ChatFlow.Text.Digit
import ChatFlow.Decimal.Binary

/-!
# Reading numbers

Numbers as people type them: blanks around, an optional sign, digits of any
script, single underscores between digits.  `readFloat?` also takes a point, an
exponent and the names of the values without digits; `readInt?` takes digits
only, and no more of them than `mostDigits`.
-/

namespace ChatFlow.Decimal

open ChatFlow.Text

/-- The value of digits read from left to right, after the value of those already read. -/
def natOfDigits (acc : Nat) : List Char → Nat
  | [] => acc
  | c :: rest => natOfDigits (acc * 10 + (c.toNat - 48)) rest

/-- The double nearest to `± n · 10 ^ e`. -/
def ofScaled (negative : Bool) (n : Nat) (e : Int) : Float :=
  let places : Int := (Nat.toDigits 10 n).length
  if n = 0 then nearest negative 0 1
  else if 400 < e + places then infinite negative
  else if e + places < -400 then nearest negative 0 1
  else match e with
    | .ofNat k => nearest negative (n * tenTo k) 1
    | .negSucc k => nearest negative n (tenTo (k + 1))

/-- Every digit of another script as the ASCII digit of the same value. -/
def asciiDigits (s : List Char) : List Char :=
  s.map fun c => if c.toNat < 128 then c else
    match digitValue? c with
    | some n => digitChar n
    | none => c

/-- The text without its underscores, if each of them stands between two digits. -/
def dropUnderscores (previous : Char) : List Char → Option (List Char)
  | [] => if previous = '_' then none else some []
  | c :: rest =>
    if c = '_' then
      if previous.isDigit then dropUnderscores c rest else none
    else if previous = '_' && !c.isDigit then none
    else (dropUnderscores c rest).map (c :: ·)

/-- A leading sign and what follows it. -/
def splitSign : List Char → Bool × List Char
  | '-' :: rest => (true, rest)
  | '+' :: rest => (false, rest)
  | s => (false, s)

/-- An exponent after its mark: an optional sign and at least one digit. -/
def readExponent? (s : List Char) : Option Int :=
  let (negative, ds) := splitSign s
  if ds.isEmpty || !ds.all Char.isDigit then none
  else
    let n : Int := natOfDigits 0 ds
    some (if negative then -n else n)

/-- An unsigned decimal: digits with an optional point, at least one digit, and an optional
exponent. -/
def readUnsigned? (negative : Bool) (s : List Char) : Option Float :=
  let whole := s.takeWhile Char.isDigit
  let rest := s.dropWhile Char.isDigit
  let (part, rest) :=
    match rest with
    | '.' :: r => (r.takeWhile Char.isDigit, r.dropWhile Char.isDigit)
    | r => ([], r)
  if whole.isEmpty && part.isEmpty then none
  else
    let value (e : Int) := ofScaled negative (natOfDigits 0 (whole ++ part)) (e - part.length)
    match rest with
    | [] => some (value 0)
    | c :: r => if c = 'e' || c = 'E' then (readExponent? r).map value else none

/-- A number without blanks around it. -/
def readNumber? (s : List Char) : Option Float :=
  let (negative, body) := splitSign s
  let word := body.map Char.toLower
  if word = "nan".toList then some nan
  else if word = "inf".toList || word = "infinity".toList then
    some (infinite negative)
  else readUnsigned? negative body

/-- A number with blanks around it, digits of any script and underscores between digits. -/
def readFloat? (s : String) : Option Float :=
  (dropUnderscores ' ' (asciiDigits (stripChars s.toList))).bind readNumber?

/-- The longest row of digits that is read as an integer. -/
def mostDigits : Nat := 4300

/-- An integer with blanks around it, digits of any script and underscores between digits. -/
def readInt? (s : String) : Option Int :=
  (dropUnderscores ' ' (asciiDigits (stripChars s.toList))).bind fun t =>
    let (negative, ds) := splitSign t
    if ds.isEmpty || mostDigits < ds.length || !ds.all Char.isDigit then none
    else
      let n : Int := natOfDigits 0 ds
      some (if negative then -n else n)

end ChatFlow.Decimal
