import ChatFlow.Decimal.Shortest

/-!
# The written form of a double

A double is written with the digits of its shortest decimal.  A `Layout` says
how: between which exponents the digits stand around a point, how an exponent
is written, and what the values without digits are called.
-/

namespace ChatFlow.Decimal

/-- The choices that fix the written form of a double. -/
structure Layout where
  /-- The least exponent of ten that is written with a point only. -/
  leastPlain : Int
  /-- The greatest exponent of ten that is written with a point only. -/
  greatestPlain : Int
  /-- Whether an integral number keeps a zero after the point. -/
  keepZero : Bool
  /-- The least number of digits of an exponent. -/
  exponentDigits : Nat
  nan : String
  infinity : String

/-- Numbers are written around a point from `0.0001` up to `10 ^ 16`, integral ones with `.0`;
beyond, with an exponent of a sign and at least two digits. -/
def plain : Layout where
  leastPlain := -4
  greatestPlain := 15
  keepZero := true
  exponentDigits := 2
  nan := "nan"
  infinity := "inf"

/-- The same written form with the capitalised names that structured text gives to the values
without digits. -/
def structured : Layout := { plain with nan := "NaN", infinity := "Infinity" }

/-- The decimal digits of a natural number. -/
def natChars (n : Nat) : List Char := Nat.toDigits 10 n

/-- The decimal digits of an integer, a minus sign in front of a negative one. -/
def intChars : Int → List Char
  | .ofNat n => natChars n
  | .negSucc n => '-' :: natChars (n + 1)

/-- The decimal digits of an integer. -/
def intText (n : Int) : String := String.ofList (intChars n)

/-- The digits without the zeros at their end. -/
def dropEndZeros : List Char → List Char
  | [] => []
  | c :: rest =>
    match dropEndZeros rest with
    | [] => if c = '0' then [] else [c]
    | kept => c :: kept

/-- An exponent: mark, sign and digits. -/
def exponentChars (l : Layout) (e : Int) : List Char :=
  let ds := natChars e.natAbs
  ['e', if e < 0 then '-' else '+'] ++ List.replicate (l.exponentDigits - ds.length) '0' ++ ds

/-- The digits `ds`, the first one of which stands at the place `e`, written as `l` says. -/
def placeDigits (l : Layout) (ds : List Char) (e : Int) : List Char :=
  if l.leastPlain ≤ e ∧ e ≤ l.greatestPlain then
    match e with
    | .ofNat k =>
      let whole := ds.take (k + 1) ++ List.replicate (k + 1 - ds.length) '0'
      match ds.drop (k + 1) with
      | [] => if l.keepZero then whole ++ ['.', '0'] else whole
      | part => whole ++ '.' :: part
    | .negSucc k => ['0', '.'] ++ List.replicate k '0' ++ ds
  else
    match ds with
    | [] => []
    | [d] => d :: exponentChars l e
    | d :: part => d :: '.' :: part ++ exponentChars l e

/-- A double in the written form `l`. -/
def write (l : Layout) (x : Float) : List Char :=
  match decode? x with
  | none =>
    if x.isNaN then l.nan.toList
    else if x < 0 then '-' :: l.infinity.toList
    else l.infinity.toList
  | some d =>
    let body :=
      if d.mantissa = 0 then
        if l.keepZero then ['0', '.', '0'] else ['0']
      else
        let s := shortest d.mantissa d.exponent
        let all := natChars s.coefficient
        placeDigits l (dropEndZeros all) (s.scale + all.length - 1)
    if d.negative then '-' :: body else body

/-- A double as text. -/
def text (x : Float) : String := String.ofList (write plain x)

end ChatFlow.Decimal
