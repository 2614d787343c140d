import ChatFlow.Expression.Arithmetic
import ChatFlow.Expression.Token
import ChatFlow.Text.Split

/-!
# Selections and functions

What an expression can ask of a datum without going through its items: a field,
the part at an index, and the functions.  A function that does not fit its
arguments has no outcome; only a double that has no whole part and a number too
large for a double end the evaluation.
-/

namespace ChatFlow.Expression

/-! ### Parts of data -/

/-- The field of a map. -/
def selected (d : Datum) (field : String) : Outcome :=
  match d with
  | .map entries => (lookUp (.text field .made) entries).join
  | _ => none

/-- The place of an item counted from the start, or from the end for a negative number. -/
def placeOf (n : Int) (length : Nat) : Option Nat :=
  if 0 ≤ n then (if n < length then some n.toNat else none)
  else if 0 ≤ n + length then some (n + length).toNat else none

/-- The number that an index is: whole, or a truth value. -/
def Datum.index? : Datum → Option Int
  | int n _ => some n
  | bool b => some (if b then 1 else 0)
  | _ => none

/-- The item of a list or the character of a text at a place, or the entry of a map under a key. -/
def indexed (d key : Datum) : Outcome :=
  match d with
  | .map entries =>
    match key with
    | .int _ .given | .bool _ | .text _ _ => (lookUp key entries).join
    | _ => none
  | .list items _ => do items[← placeOf (← key.index?) items.length]?
  | .text s _ => do
    let chars := s.toList
    let c ← chars[← placeOf (← key.index?) chars.length]?
    return .text (String.singleton c) .made
  | _ => none

/-! ### Conversions -/

/-- A whole number in hexadecimal digits, with blanks around it, a sign, a base and underscores between
digits. -/
def readHex? (s : List Char) : Option Int := do
  let (negative, ds) := Decimal.splitSign (Decimal.asciiDigits (Text.stripChars s))
  let ds :=
    match ds with
    | '0' :: x :: '_' :: rest => if x = 'x' || x = 'X' then rest else ds
    | '0' :: x :: rest => if x = 'x' || x = 'X' then rest else ds
    | ds => ds
  let ds ← joined? false ds
  if ds.isEmpty then none
  let n ← hexNumber? ds
  return if negative then -(n : Int) else n
where
  /-- The digits without the underscores, each of which follows a digit and has one behind it. -/
  joined? (mayJoin : Bool) : List Char → Option (List Char)
    | [] => if mayJoin then some [] else none
    | c :: rest =>
      if c = '_' then (if mayJoin then joined? false rest else none)
      else (joined? true rest).map (c :: ·)

/-- The whole number that a text is: decimal, or hexadecimal after `0x`. -/
def readWhole? (s : String) : Option Int :=
  match s.toList with
  | '0' :: x :: rest => if x = 'x' || x = 'X' then readHex? rest else Decimal.readInt? s
  | '-' :: '0' :: x :: rest =>
    if x = 'x' || x = 'X' then (readHex? rest).map (- ·) else Decimal.readInt? s
  | _ => Decimal.readInt? s

/-- A datum as a whole number; a double is cut toward zero, and null is zero. -/
def toWhole : Datum → Except Failure Outcome
  | .null => .ok (wholeOutcome 0)
  | .int n _ => .ok (wholeOutcome n)
  | .bool b => .ok (wholeOutcome (if b then 1 else 0))
  | .double x _ =>
    match Decimal.truncate? x with
    | some n => .ok (wholeOutcome n)
    | none => if x.isNaN then .ok none else .error .infinite
  | .text s _ => .ok ((readWhole? s).bind wholeOutcome)
  | _ => .ok none

/-- A datum as a double; null is zero. -/
def toDouble : Datum → Except Failure Outcome
  | .null => .ok (some (.double (Decimal.nearest false 0 1) .given))
  | .text s _ => .ok ((Decimal.readFloat? s).map fun x => .double x .given)
  | d =>
    match d.numeric? with
    | none => .ok none
    | some n =>
      match n.toDouble? with
      | some x => .ok (some (.double x .given))
      | none => .error .tooLarge

/-! ### Functions -/

/-- The number of characters, items or entries; null holds nothing. -/
def Datum.size? : Datum → Option Nat
  | null => some 0
  | text s _ => some s.length
  | list items _ => some items.length
  | map entries => some entries.length
  | _ => none

/-- Whether a text has a part, a list an item, or a map a key. -/
def holds (d part : Datum) : Option Bool :=
  match d, part with
  | .text s _, .text t _ => some (Text.contains s t)
  | .list items _, x => heldBy x items
  | .map _, .list _ _ | .map _, .map _ => none
  | .map entries, key => (lookUp key entries).map Option.isSome
  | _, _ => none

/-- Applies a function to data. -/
def applyFunction (f : String) (args : List Datum) : Except Failure Outcome :=
  match f, args with
  | "size", [d] => .ok (d.size?.map fun n => .int n .given)
  | "int", d :: _ => toWhole d
  | "double", [d] => toDouble d
  | "string", d :: _ => .ok (some (.text d.written .given))
  | "startsWith", [.text s _, .text t _] => .ok (some (.bool (Text.startsWith t.toList s.toList)))
  | "endsWith", [.text s _, .text t _] => .ok (some (.bool (Text.endsWith t.toList s.toList)))
  | "contains", [d, x] => .ok ((holds d x).map Datum.bool)
  | _, _ => .ok none

end ChatFlow.Expression
