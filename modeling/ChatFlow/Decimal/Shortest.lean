import ChatFlow.Decimal.Binary

/-!
# The shortest decimal of a double

The reals that round to a double form an interval around it.  `shortest` looks
for a decimal with as few digits as possible in that interval: for one digit,
two digits and so on it tests the two neighbours of the double on the grid of
decimals with so many digits, and the first grid with a hit gives the answer.
Seventeen digits always suffice.
-/

namespace ChatFlow.Decimal

/-- The number `coefficient · 10 ^ scale`. -/
structure Scaled where
  coefficient : Nat
  scale : Int
  deriving DecidableEq, Repr

/-- The doubles' rounding interval in exact terms: `low`, `value` and `high` are
numerators over `den`, and the ends belong to the interval iff `closed`. -/
structure Interval where
  low : Nat
  value : Nat
  high : Nat
  den : Nat
  closed : Bool

/-- The interval of the reals that round to `m · 2 ^ q`; below a power of two the
next double is only half as far. -/
def roundingInterval (m : Nat) (q : Int) : Interval :=
  let below := if m = twoTo 52 ∧ q ≠ -1074 then 1 else 2
  let unit : Nat × Nat :=
    match q with
    | .ofNat k => (twoTo k, 4)
    | .negSucc k => (1, 4 * twoTo (k + 1))
  ⟨(4 * m - below) * unit.1, 4 * m * unit.1, (4 * m + 2) * unit.1, unit.2, m % 2 = 0⟩

/-- Whether `num / den` lies in the interval. -/
def Interval.holds (i : Interval) (num den : Nat) : Bool :=
  if i.closed then i.low * den ≤ num * i.den && num * i.den ≤ i.high * den
  else i.low * den < num * i.den && num * i.den < i.high * den

/-- `10 ^ k` as a fraction. -/
def tenPower (k : Int) : Nat × Nat :=
  match k with
  | .ofNat n => (tenTo n, 1)
  | .negSucc n => (1, tenTo (n + 1))

/-- The number of decimal digits of a natural number, none for zero. -/
def digitCount (n : Nat) : Nat := if n = 0 then 0 else (Nat.toDigits 10 n).length

/-- The place of the leading digit of `num / den`: the `p` with `10 ^ p ≤ num / den < 10 ^ (p + 1)`.
At most `fuel` places after the point are looked at. -/
def leadingPlace (num den : Nat) : Nat → Int
  | 0 => (digitCount (num / den) : Int) - 1
  | fuel + 1 =>
    if den ≤ num then (digitCount (num / den) : Int) - 1
    else leadingPlace (num * 10) den fuel - 1

/-- The decimal on the grid `10 ^ k` that lies in the interval, the nearer one of two and of two
equally near ones the even one. -/
def gridPoint? (i : Interval) (k : Int) : Option Scaled :=
  let t := tenPower k
  let c := i.value * t.2 / (i.den * t.1)
  let inside (c : Nat) : Bool := i.holds (c * t.1) t.2
  let downGap := i.value * t.2 - c * t.1 * i.den
  let upGap := (c + 1) * t.1 * i.den - i.value * t.2
  match inside c, inside (c + 1) with
  | false, false => none
  | true, false => some ⟨c, k⟩
  | false, true => some ⟨c + 1, k⟩
  | true, true =>
    if downGap < upGap then some ⟨c, k⟩
    else if upGap < downGap then some ⟨c + 1, k⟩
    else if c % 2 = 0 then some ⟨c, k⟩ else some ⟨c + 1, k⟩

/-- The decimal with the fewest digits that reads back as `m · 2 ^ q`, for positive `m`. -/
def shortest (m : Nat) (q : Int) : Scaled :=
  let i := roundingInterval m q
  let p := leadingPlace i.value i.den 400
  ((List.range 17).findSome? fun (n : Nat) => gridPoint? i (p - n)).getD ⟨m, 0⟩

end ChatFlow.Decimal
