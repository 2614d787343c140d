import ChatFlow.Decimal.Places

/-!
# Division of doubles with a remainder

`remainder` is exact: the difference between a double and the nearest multiple
of another one toward zero is itself a double.  `floorRemainder` takes the
multiple below instead, and `timesIn` counts how often one positive double fits
into another, as doubles count it.
-/

namespace ChatFlow.Decimal

/-- What is left of a double when another one is taken away from its size as often as it fits. -/
def remainder (x y : Float) : Float :=
  match decode? x, decode? y with
  | some a, some b =>
    let (m, d) := a.fraction
    let (n, e) := b.fraction
    if n = 0 then nan else nearest a.negative (m * e % (n * d)) (d * e)
  | some _, none => if y.isNaN then nan else x
  | none, _ => nan

/-- The remainder that has the sign of the double taken away. -/
def floorRemainder (x y : Float) : Float :=
  let r := remainder x y
  if r == 0 then nearest (y < 0) 0 1
  else if (y < 0) != (r < 0) then r + y
  else r

/-- How often the positive double `y` fits into the double `x`, which is not negative. -/
def timesIn (x y : Float) : Float :=
  let q := (x - remainder x y) / y
  let whole := q.floor
  if q - whole > 0.5 then whole + 1 else whole

end ChatFlow.Decimal
