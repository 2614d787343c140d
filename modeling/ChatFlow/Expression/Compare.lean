import ChatFlow.Expression.Datum

/-!
# Comparing the values of expressions

Equality and order are strict about kinds: where two kinds cannot be compared
there is no verdict.  Given whole numbers and given doubles compare with their
own kind only; made numbers and truth values are free.  Which side a datum
stands on matters: a whole number on the left is stricter than on the right.

Lists and maps are equal when their parts are.  A part that differs decides, even
if others have no verdict; only between two made lists the first part that is
not equal decides alone.
-/

namespace ChatFlow.Expression

/-! ### Numbers -/

/-- Whether a whole number is equal to a double. -/
def wholeEqBroken (n : Int) (x : Float) : Bool := Decimal.toInt? x == some n

/-- Whether a whole number is less than a double, exactly. -/
def wholeLtBroken (n : Int) (x : Float) : Bool :=
  match Decimal.truncate? x with
  | some k => if Decimal.toInt? x = some k then n < k else if x < 0 then n < k else n ≤ k
  | none => x > 0

/-- Whether a double is less than a whole number, exactly. -/
def brokenLtWhole (x : Float) (n : Int) : Bool :=
  match Decimal.truncate? x with
  | some k => if Decimal.toInt? x = some k then k < n else if x < 0 then k ≤ n else k < n
  | none => x < 0

/-- Whether two numbers are equal. -/
def Numeric.eq : Numeric → Numeric → Bool
  | whole m, whole n => m == n
  | whole m, broken x => wholeEqBroken m x
  | broken x, whole m => wholeEqBroken m x
  | broken x, broken y => x == y

/-- Whether one number is less than another. -/
def Numeric.lt : Numeric → Numeric → Bool
  | whole m, whole n => m < n
  | whole m, broken x => wholeLtBroken m x
  | broken x, whole m => brokenLtWhole x m
  | broken x, broken y => x < y

/-! ### Equality -/

/-- Whether a datum refuses to be compared with another kind. -/
def Datum.refuses : Datum → Bool
  | int _ .given | double _ .given | list _ .given | map _ => true
  | _ => false

/-- Whether two data are equal that are not both lists and not both maps. -/
def scalarsEqual (a b : Datum) : Option Bool :=
  match a, b with
  | .text s _, .text t _ => some (s == t)
  | .null, .null => some true
  | a, b =>
    match a.numeric?, b.numeric? with
    | some x, some y =>
      if (a.isGivenDouble && !b.isDouble) || (b.isGivenDouble && !a.isDouble) then none
      else if a.isGivenInt && !b.isInt then none
      else some (x.eq y)
    | _, _ => if a.refuses || b.refuses then none else some false

/-- The number by which a key finds its place in a map; the empty text has the place of zero. -/
def Datum.place? : Datum → Option Numeric
  | text s _ => if s = "" then some (.whole 0) else none
  | d => d.numeric?

/-- Whether one key stands where another would stand in a map: equal numbers share their place. -/
def sharePlace (a b : Datum) : Bool :=
  match a, b with
  | .text s _, .text t _ => s == t
  | .null, .null => true
  | a, b =>
    match a.place?, b.place? with
    | some x, some y => x.eq y
    | _, _ => false

/-- What a map has under a key; no verdict if the key in its place cannot be compared with it. -/
def lookUp (key : Datum) : List (Datum × Datum) → Option (Option Datum)
  | [] => some none
  | (k, d) :: rest =>
    if sharePlace k key then
      (scalarsEqual k key).bind fun same => if same then some (some d) else lookUp key rest
    else lookUp key rest

/-- Joins the verdicts on parts: a false part decides, else one that cannot be told. -/
def allVerdicts (a b : Option Bool) : Option Bool :=
  match a, b with
  | some false, _ | _, some false => some false
  | some true, v => v
  | none, some true => none
  | none, none => none

mutual

/-- Whether two data are equal; none when their kinds cannot be compared.  If they are `swapped`, the
second one stands on the left. -/
def Datum.equal (swapped : Bool) : Datum → Datum → Option Bool
  | .list xs o, .list ys p =>
    if xs.length ≠ ys.length then some false
    else if o = .made ∧ p = .made then Datum.equalInTurn swapped xs ys
    else
      let left := if swapped then p else o
      Datum.equalItems (if left = .made then !swapped else swapped) xs ys
  | .map xs, .map ys => if xs.length = ys.length then Datum.equalEntries swapped xs ys else some false
  | a, b => if swapped then scalarsEqual b a else scalarsEqual a b

/-- Whether lists of data are equal item by item. -/
def Datum.equalItems (swapped : Bool) : List Datum → List Datum → Option Bool
  | x :: xs, y :: ys => allVerdicts (Datum.equal swapped x y) (Datum.equalItems swapped xs ys)
  | _, _ => some true

/-- Whether lists of data are equal, the first items that are not equal deciding. -/
def Datum.equalInTurn (swapped : Bool) : List Datum → List Datum → Option Bool
  | x :: xs, y :: ys =>
    match Datum.equal swapped x y with
    | some true => Datum.equalInTurn swapped xs ys
    | verdict => verdict
  | _, _ => some true

/-- Whether every entry of the first map has an equal one under its key in the second. -/
def Datum.equalEntries (swapped : Bool) :
    List (Datum × Datum) → List (Datum × Datum) → Option Bool
  | [], _ => some true
  | (k, x) :: xs, ys =>
    match lookUp k ys with
    | some (some y) => allVerdicts (Datum.equal swapped x y) (Datum.equalEntries swapped xs ys)
    | some none => some false
    | none => none

end

/-- Whether the datum on the left is equal to the one on the right. -/
def Datum.equals (a b : Datum) : Option Bool := Datum.equal false a b

/-! ### Order -/

/-- The relations of order. -/
inductive Order where
  | less | atMost | greater | atLeast
  deriving DecidableEq, Repr

/-- Whether a relation holds of two things, given whether the first is less than, equal to and greater
than the second. -/
def Order.holds (r : Order) (less equal greater : Bool) : Bool :=
  match r with
  | .less => less
  | .atMost => less || equal
  | .greater => greater
  | .atLeast => greater || equal

mutual

/-- Whether two data stand in a relation of order; none when their kinds have no order. -/
def Datum.ordered (r : Order) : Datum → Datum → Option Bool
  | .list xs .made, .list ys .made => Datum.orderedItems r xs ys
  | .text s _, .text t _ => some (r.holds (s.toList < t.toList) (s == t) (t.toList < s.toList))
  | a, b => do
    let x ← a.numeric?
    let y ← b.numeric?
    if a.isGivenInt && !b.isInt then none
    else return r.holds (x.lt y) (x.eq y) (y.lt x)

/-- Whether lists of data stand in a relation of order: the first items that are not equal decide, else
the lengths. -/
def Datum.orderedItems (r : Order) : List Datum → List Datum → Option Bool
  | x :: xs, y :: ys =>
    match Datum.equals x y with
    | some true => Datum.orderedItems r xs ys
    | some false => Datum.ordered r x y
    | none => none
  | xs, ys => some (r.holds (xs.length < ys.length) (xs.length == ys.length) (ys.length < xs.length))

end

/-! ### Collections -/

/-- Whether a collection holds a datum; the items that it cannot be compared with leave that open. -/
def Datum.isIn (a b : Datum) : Option Bool := do
  let verdicts := (← b.items?).map fun x => x.equals a
  if verdicts.contains (some true) then return true
  else if verdicts.contains none then none
  else return false

/-- Whether a list holds a datum, looked for from its start. -/
def heldBy (a : Datum) : List Datum → Option Bool
  | [] => some false
  | x :: rest =>
    match x.equals a with
    | some false => heldBy a rest
    | verdict => verdict

end ChatFlow.Expression
