import ChatFlow.Decimal.Layout

/-!
# Doubles with a given number of digits

Where a text asks for so many digits, a double is rounded to them exactly, a tie
going to the even neighbour.  `fixedChars` counts the digits after the point,
`exponentForm` those after the first one, and `generalChars` all of them, choosing
between the two forms by the size of the number.  Signs are left to the caller.
-/

namespace ChatFlow.Decimal

/-- The exact size of a finite double as a fraction. -/
def Dyadic.fraction (d : Dyadic) : Nat × Nat :=
  match d.exponent with
  | .ofNat k => (d.mantissa * twoTo k, 1)
  | .negSucc k => (d.mantissa, twoTo (k + 1))

/-- A part behind a point; the point stands only before digits, or if it is `kept`. -/
def pointed (kept : Bool) (part : List Char) : List Char :=
  if part.isEmpty && !kept then [] else '.' :: part

/-- A fraction with so many digits after the point. -/
def fixedChars (kept : Bool) (places num den : Nat) : List Char :=
  let all := natChars (roundDiv (num * tenTo places) den)
  let all := List.replicate (places + 1 - all.length) '0' ++ all
  all.take (all.length - places) ++ pointed kept (all.drop (all.length - places))

/-- The first `count` digits of a fraction, and the place of the first one. -/
def leadingDigits (count num den : Nat) : List Char × Int :=
  if num = 0 then (List.replicate count '0', 0)
  else
    let place := leadingPlace num den 400
    let t := tenPower (place + 1 - count)
    let rounded := roundDiv (num * t.2) (den * t.1)
    if rounded = tenTo count then (natChars (tenTo (count - 1)), place + 1)
    else (natChars rounded, place)

/-- Digits with the point after the first one, and the exponent. -/
def exponentForm (kept : Bool) (digits : List Char) (place : Int) : List Char :=
  digits.take 1 ++ pointed kept (digits.drop 1) ++ exponentChars plain place

/-- A fraction with so many digits after its first one, and the exponent. -/
def scientificChars (kept : Bool) (places num den : Nat) : List Char :=
  let (digits, place) := leadingDigits (places + 1) num den
  exponentForm kept digits place

/-- A fraction with so many digits in all, but no zeros at the end unless the point is `kept`: with an
exponent if it is small or its whole part has more digits. -/
def generalChars (kept : Bool) (count num den : Nat) : List Char :=
  let count := max count 1
  let (digits, place) := leadingDigits count num den
  let digits := if kept then digits else digits.take 1 ++ dropEndZeros (digits.drop 1)
  if place < -4 || (count : Int) ≤ place then exponentForm kept digits place
  else
    match place with
    | .ofNat k =>
      digits.take (k + 1) ++ List.replicate (k + 1 - digits.length) '0'
        ++ pointed kept (digits.drop (k + 1))
    | .negSucc k => ['0', '.'] ++ List.replicate k '0' ++ digits

/-- A half goes to the even neighbour. -/
example : fixedChars false 0 5 2 = ['2'] ∧ fixedChars true 1 7 20 = "0.4".toList := by
  decide +kernel

end ChatFlow.Decimal
