import ChatFlow.Decimal.Division
import ChatFlow.Expression.Compare
import ChatFlow.Pattern

/-!
# The arithmetic of expressions

A whole number that has been given keeps its kind: what it is added to, taken
from or divided by becomes a whole number of 64 bits or has no outcome.  The
operators make free numbers of truth values and of doubles.

Some operators have a meaning for texts and lists: a sum puts two of them
together, a product with a truth value or a made whole number repeats one, and
the remainder of a text fills the text as a pattern.
-/

namespace ChatFlow.Expression

/-- A datum, or nothing when an expression has no value. -/
abbrev Outcome := Option Datum

/-- A whole number as a datum, if it fits into 64 bits. -/
def wholeOutcome (n : Int) : Outcome :=
  if fits n then some (.int n .given) else none

/-- A sum, difference or product of two numbers. -/
def arithmetic (onWhole : Int → Int → Int) (onBroken : Float → Float → Float) (a b : Datum) :
    Outcome := do
  match ← a.numeric?, ← b.numeric? with
  | .whole m, .whole n =>
    if a.isGivenInt || (a.isInt && b.isGivenInt) then wholeOutcome (onWhole m n)
    else return .int (onWhole m n) .made
  | x, y =>
    if a.isGivenInt then none
    else return .double (onBroken (← x.toDouble?) (← y.toDouble?)) .made

/-- A sum; texts and lists are put together. -/
def add (a b : Datum) : Outcome :=
  match a, b with
  | .text s _, .text t _ => some (.text (s ++ t) .made)
  | .list xs _, .list ys _ => some (.list (xs ++ ys) .made)
  | a, b => arithmetic (· + ·) (· + ·) a b

/-! ### Products -/

/-- How often a datum as a factor repeats a text or a list. -/
def Datum.times? : Datum → Option Int
  | bool b => some (if b then 1 else 0)
  | int n .made => some n
  | _ => none

/-- The most characters or items that repeating makes. -/
def mostRepeated : Nat := 1000000000

/-- A list repeated so many times. -/
def repeated {α : Type} (n : Int) (items : List α) : Option (List α) :=
  if mostRepeated < n.toNat * items.length then none
  else some (List.replicate (if items.isEmpty then 0 else n.toNat) items).flatten

/-- A product; a text or a list is repeated. -/
def multiply (a b : Datum) : Outcome :=
  match a, b with
  | .text s _, d | d, .text s _ => do
    return .text (String.ofList (← repeated (← d.times?) s.toList)) .made
  | .list items _, d | d, .list items _ => do
    return .list (← repeated (← d.times?) items) .made
  | a, b => arithmetic (· * ·) (· * ·) a b

/-! ### Quotients -/

/-- A given whole number divided by a number: the quotient is cut toward zero. -/
def wholeQuotient (m : Int) (y : Numeric) : Outcome :=
  match y with
  | .whole n => if n = 0 then none else wholeOutcome (m.tdiv n)
  | .broken y => do
    if y == 0 then none
    let times ← Decimal.truncate? (Decimal.timesIn (← Decimal.ofInt? m.natAbs) y.abs)
    wholeOutcome (if (m < 0) != (y < 0) then -times else times)

/-- A double that has been given divided by another double; dividing by zero gives the double beyond all
numbers. -/
def givenQuotient (x y : Float) : Datum :=
  .double (if y == 0 then Decimal.infinite false else x / y) .given

/-- The quotient of two numbers none of which is strict. -/
def freeQuotient (x y : Numeric) : Outcome :=
  match x, y with
  | .whole m, .whole n =>
    let q := Decimal.nearest ((m < 0) != (n < 0)) m.natAbs n.natAbs
    if n = 0 || !Decimal.isFinite q then none else some (.double q .made)
  | x, y => do
    let d ← y.toDouble?
    if d == 0 then none else return .double ((← x.toDouble?) / d) .made

/-- A quotient.  Whatever is divided by a given zero with a point is beyond all numbers, except a whole
number that has been given. -/
def divide (a b : Datum) : Outcome :=
  match a, b with
  | .int m .given, b => do wholeQuotient m (← b.numeric?)
  | .int m .made, .int n .given => wholeQuotient m (.whole n)
  | .double _ .given, .int _ .given => none
  | .double x .given, b => do return givenQuotient x (← (← b.numeric?).toDouble?)
  | a, .double y .given =>
    if y == 0 then some (givenQuotient 1 y)
    else do return givenQuotient (← (← a.numeric?).toDouble?) y
  | a, b => do freeQuotient (← a.numeric?) (← b.numeric?)

/-! ### Remainders -/

/-- The remainder of a given whole number, with its sign. -/
def wholeRemainder (m : Int) (y : Numeric) : Outcome :=
  match y with
  | .whole n => if n = 0 then none else wholeOutcome (m.tmod n)
  | .broken y => do
    if y == 0 then none
    let left ← Decimal.truncate? (Decimal.remainder (← Decimal.ofInt? m.natAbs) y.abs)
    wholeOutcome (if m < 0 then -left else left)

/-- The remainder of two numbers none of which is strict, with the sign of the second one. -/
def freeRemainder (x y : Numeric) : Outcome :=
  match x, y with
  | .whole m, .whole n => if n = 0 then none else some (.int (m.fmod n) .made)
  | x, y => do
    let d ← y.toDouble?
    if d == 0 then none else return .double (Decimal.floorRemainder (← x.toDouble?) d) .made

/-- A remainder of numbers. -/
def numberRemainder (a b : Datum) : Outcome :=
  match a, b with
  | .int m .given, b => do wholeRemainder m (← b.numeric?)
  | .int m .made, .int n .given => wholeRemainder m (.whole n)
  | a, b => do
    if a.isGivenDouble || b.isGivenDouble then none
    else freeRemainder (← a.numeric?) (← b.numeric?)

/-- A datum as the argument of a pattern. -/
def Datum.argument (d : Datum) : Pattern.Argument where
  text := d.written
  shown := d.shown
  number := d.numeric?.map fun n =>
    match n with
    | .whole n => .whole n
    | .broken x => .broken x
  isText :=
    match d with
    | .text _ _ => true
    | _ => false

/-- The arguments that a datum is for a pattern: a map is a table, and a list need not be used. -/
def Datum.arguments (d : Datum) : Pattern.Arguments where
  left := [d.argument]
  named :=
    match d with
    | .map entries => some fun key =>
      match lookUp (.text key .made) entries with
      | some (some found) => .ok found.argument
      | _ => .error (.noKey (Text.quoted key))
    | .list _ _ => some fun _ => .error (.wrongKind "list indices must be integers or slices, not str")
    | _ => none

/-- A remainder; a text is filled as a pattern, and only a key that a table lacks ends the evaluation. -/
def remainder (a b : Datum) : Except Failure Outcome :=
  match a with
  | .text s _ =>
    match Pattern.fill s b.arguments with
    | .ok t => .ok (some (.text t .made))
    | .error (.noKey key) => .error (.noKey key)
    | .error _ => .ok none
  | a => .ok (numberRemainder a b)

/-- The negative of a number. -/
def negated : Datum → Outcome
  | .int n .given => wholeOutcome (-n)
  | .int n .made => some (.int (-n) .made)
  | .double x o => some (.double (-x) o)
  | _ => none

end ChatFlow.Expression
