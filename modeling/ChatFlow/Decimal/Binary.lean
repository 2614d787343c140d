/-!
# Doubles as exact numbers

A finite double is `± m · 2 ^ q` with natural `m`; `decode?` gives the two
numbers and `nearest` goes back: it is the double nearest to a given ratio, a
tie going to the even neighbour.  All arithmetic in between is exact.
-/

namespace ChatFlow.Decimal

/-- A power of two. -/
def twoTo (k : Nat) : Nat := Nat.pow 2 k

/-- A power of ten. -/
def tenTo (k : Nat) : Nat := Nat.pow 10 k

/-- The double that is not a number. -/
def nan : Float := Float.ofBits 0x7FF8000000000000

/-- The double beyond all numbers, on one of the two sides. -/
def infinite (negative : Bool) : Float :=
  Float.ofBits (if negative then 0xFFF0000000000000 else 0x7FF0000000000000)

/-- The number `± mantissa · 2 ^ exponent`. -/
structure Dyadic where
  negative : Bool
  mantissa : Nat
  exponent : Int
  deriving DecidableEq, Repr

/-- The exact value of a finite double; none for the infinities and NaN. -/
def decode? (x : Float) : Option Dyadic :=
  let bits : Nat := x.toBits.toNat
  let field : Nat := bits / twoTo 52 % twoTo 11
  let fraction : Nat := bits % twoTo 52
  let negative : Bool := bits / twoTo 63 == 1
  if field = 2047 then none
  else if field = 0 then some ⟨negative, fraction, -1074⟩
  else some ⟨negative, twoTo 52 + fraction, (field : Int) - 1075⟩

/-- The quotient rounded to the nearest natural number, a tie to the even one. -/
def roundDiv (num den : Nat) : Nat :=
  let q := num / den
  let r := num % den
  if 2 * r < den then q
  else if den < 2 * r then q + 1
  else if q % 2 = 0 then q else q + 1

/-- `num / den` scaled by `2 ^ (-q)` and rounded. -/
def scaledRound (num den : Nat) (q : Int) : Nat :=
  match q with
  | .ofNat k => roundDiv num (den * twoTo k)
  | .negSucc k => roundDiv (num * twoTo (k + 1)) den

/-- The exponent of the last binary place that a double near `num / den` has. -/
def lastPlace (num den : Nat) : Int :=
  let guess : Int := (Nat.log2 num : Int) - Nat.log2 den
  let top : Int :=
    match guess with
    | .ofNat k => if num < den * twoTo k then guess - 1 else guess
    | .negSucc k => if num * twoTo (k + 1) < den then guess - 1 else guess
  max (top - 52) (-1074)

/-- The double nearest to `± num / den`; what is too large becomes infinite. -/
def nearest (negative : Bool) (num den : Nat) : Float :=
  let sign : Nat := if negative then twoTo 63 else 0
  if num = 0 then Float.ofBits (UInt64.ofNat sign)
  else
    let q := lastPlace num den
    let bits := (q + 1074).toNat * twoTo 52 + scaledRound num den q
    let bounded := min bits (2047 * twoTo 52)
    Float.ofBits (UInt64.ofNat (sign + bounded))

/-- The double nearest to an integer, if the integer is not too large. -/
def ofInt? (n : Int) : Option Float :=
  let x := nearest (n < 0) n.natAbs 1
  if (decode? x).isSome then some x else none

/-- The integer that a double is equal to, if there is one. -/
def toInt? (x : Float) : Option Int :=
  (decode? x).bind fun d =>
    let magnitude? : Option Nat :=
      match d.exponent with
      | .ofNat k => some (d.mantissa * twoTo k)
      | .negSucc k => if d.mantissa % twoTo (k + 1) = 0 then some (d.mantissa / twoTo (k + 1)) else none
    magnitude?.map fun n => if d.negative then -(n : Int) else n

/-- The integer part of a finite double. -/
def truncate? (x : Float) : Option Int :=
  (decode? x).map fun d =>
    let magnitude : Nat :=
      match d.exponent with
      | .ofNat k => d.mantissa * twoTo k
      | .negSucc k => d.mantissa / twoTo (k + 1)
    if d.negative then -(magnitude : Int) else magnitude

/-- Whether the double is neither an infinity nor NaN. -/
def isFinite (x : Float) : Bool := (decode? x).isSome

end ChatFlow.Decimal
