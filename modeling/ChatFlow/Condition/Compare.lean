import ChatFlow.Failure
import ChatFlow.Text.Split
import ChatFlow.Value.Render
import ChatFlow.Decimal.Reading

/-!
# Comparing values

Conditions compare values of any kind, and a variable that is not set at all is
an operand too: `none`.  Equality is loose: texts and truth values compare with
their like, lists and objects compare by their texts with scalars and by
identity with each other, and everything else compares as numbers.  The four
order operators compare two texts by their characters and everything else as
numbers; NaN compares with nothing.
-/

namespace ChatFlow.Condition

/-- A value, or nothing for a variable that is not set. -/
abbrev Operand := Option Value

/-- The operators of a condition. -/
inductive Operator where
  | equal
  | notEqual
  | greater
  | less
  | greaterOrEqual
  | lessOrEqual
  | contains
  deriving DecidableEq, Repr

/-- The operator that is written this way. -/
def Operator.ofText? (s : String) : Option Operator :=
  [("==", equal), ("!=", notEqual), (">", greater), ("<", less), (">=", greaterOrEqual),
    ("<=", lessOrEqual), ("contains", contains)].lookup s

/-- A list as text: its items with commas between them, null giving none. -/
def listText (items : List Value) : String :=
  Text.join "," (items.map fun v => if v.isNull then "" else v.render)

/-- The number that a text stands for: zero for blanks, NaN for what is no number. -/
def textNumber (s : String) : Float :=
  if (Text.strip s).isEmpty then 0 else (Decimal.readFloat? s).getD Decimal.nan

/-- The number that an operand stands for; a whole number may be too large for one. -/
def number : Operand → Except Failure Float
  | none => .ok Decimal.nan
  | some .null => .ok 0
  | some (.bool b) => .ok (if b then 1 else 0)
  | some (.int n) =>
    match Decimal.ofInt? n with
    | some x => .ok x
    | none => .error .tooLarge
  | some (.float x) => .ok x
  | some (.str s) => .ok (textNumber s)
  | some (.list items) => .ok (textNumber (listText items))
  | some (.object _) => .ok Decimal.nan

/-- Lists and objects as texts, scalars as they are. -/
def scalar : Operand → Operand
  | some (.list items) => some (.str (listText items))
  | some (.object _) => some (.str "[object Object]")
  | v => v

/-- Whether an operand is a list or an object. -/
def isCollection : Operand → Bool
  | some (.list _) | some (.object _) => true
  | _ => false

/-- Whether an operand is not set or null. -/
def isAbsent : Operand → Bool
  | none | some .null => true
  | _ => false

/-- Equality of two scalars that are both set. -/
def scalarEquals (a b : Operand) : Except Failure Bool :=
  match a, b with
  | some (.str s), some (.str t) => .ok (s == t)
  | some (.bool p), some (.bool q) => .ok (p == q)
  | _, _ => do return (← number a) == (← number b)

/-- Loose equality; `same` says that the two operands are one and the same collection. -/
def looseEquals (same : Bool) (a b : Operand) : Except Failure Bool :=
  if isAbsent a || isAbsent b then .ok (isAbsent a && isAbsent b)
  else if isCollection a && isCollection b then .ok same
  else scalarEquals (scalar a) (scalar b)

/-- Two operands that can be ordered: both as texts, or both as numbers. -/
inductive Ordered where
  | texts (a b : String)
  | numbers (a b : Float)

/-- The operands in the form in which they are ordered; NaN has none. -/
def ordered? (a b : Operand) : Except Failure (Option Ordered) :=
  match scalar a, scalar b with
  | some (.str s), some (.str t) => .ok (some (.texts s t))
  | a, b => do
    let x ← number a
    let y ← number b
    return if x.isNaN || y.isNaN then none else some (.numbers x y)

/-- Whether the first of two ordered operands is the greater one. -/
def Ordered.greater : Ordered → Bool
  | texts a b => b.toList < a.toList
  | numbers a b => a > b

/-- Whether the first of two ordered operands is the lesser one. -/
def Ordered.less : Ordered → Bool
  | texts a b => a.toList < b.toList
  | numbers a b => a < b

/-- Whether the first of two ordered operands is at least the second. -/
def Ordered.atLeast : Ordered → Bool
  | texts a b => !(a.toList < b.toList : Bool)
  | numbers a b => a >= b

/-- Whether the first of two ordered operands is at most the second. -/
def Ordered.atMost : Ordered → Bool
  | texts a b => !(b.toList < a.toList : Bool)
  | numbers a b => a <= b

/-- The text of an operand in which another one is looked for; what is absent has none. -/
def searchText (a : Operand) : String :=
  match a with
  | none | some .null => ""
  | some v => v.render

/-- Applies an operator. -/
def Operator.apply (same : Bool) (op : Operator) (a b : Operand) : Except Failure Bool :=
  let order (test : Ordered → Bool) : Except Failure Bool := do
    return match ← ordered? a b with
      | some pair => test pair
      | none => false
  match op with
  | equal => looseEquals same a b
  | notEqual => return !(← looseEquals same a b)
  | contains => .ok (Text.contains (searchText a) (searchText b))
  | greater => order Ordered.greater
  | less => order Ordered.less
  | greaterOrEqual => order Ordered.atLeast
  | lessOrEqual => order Ordered.atMost

/-- Applies the operator that is written `op`; a text that is no operator never matches. -/
def compare (same : Bool) (a : Operand) (op : String) (b : Operand) : Except Failure Bool :=
  match Operator.ofText? op with
  | some op => op.apply same a b
  | none => .ok false

end ChatFlow.Condition
