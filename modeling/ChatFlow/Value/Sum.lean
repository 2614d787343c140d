import ChatFlow.Decimal.Binary
import ChatFlow.Failure
import ChatFlow.Value

/-!
# Adding two values

Numbers are added, a truth value counting as zero or one, texts are joined and
lists are joined; no other two values can be added.
-/

namespace ChatFlow.Value

/-- A number as a whole number or a double. -/
def number? : Value → Option (Int ⊕ Float)
  | bool b => some (.inl (if b then 1 else 0))
  | int n => some (.inl n)
  | float x => some (.inr x)
  | _ => none

/-- A whole number as a double. -/
def doubleOf (n : Int) : Except Failure Float :=
  match Decimal.ofInt? n with
  | some x => .ok x
  | none => .error .tooLarge

/-- The sum of two numbers: a whole one if both are. -/
def addNumbers : Int ⊕ Float → Int ⊕ Float → Except Failure Value
  | .inl m, .inl n => .ok (int (m + n))
  | .inl m, .inr y => (doubleOf m).map fun x => float (x + y)
  | .inr x, .inl n => (doubleOf n).map fun y => float (x + y)
  | .inr x, .inr y => .ok (float (x + y))

/-- The failure of two values that cannot be added. -/
def notAddable (a b : Value) : Failure :=
  .wrongKind <| match a with
  | str _ => "can only concatenate str (not \"" ++ b.kindName ++ "\") to str"
  | list _ => "can only concatenate list (not \"" ++ b.kindName ++ "\") to list"
  | _ => "unsupported operand type(s) for +: " ++ Text.quoted a.kindName ++ " and "
      ++ Text.quoted b.kindName

/-- The sum of two values. -/
def add (a b : Value) : Except Failure Value :=
  match a, b with
  | str s, str t => .ok (str (s ++ t))
  | list xs, list ys => .ok (list (xs ++ ys))
  | a, b =>
    match a.number?, b.number? with
    | some m, some n => addNumbers m n
    | _, _ => .error (notAddable a b)

end ChatFlow.Value
