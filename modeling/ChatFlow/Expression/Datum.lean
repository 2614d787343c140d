import ChatFlow.Failure
import ChatFlow.Value.Render

/-!
# The values of expressions

An expression computes with data that are stricter than the values of a run:
whole numbers fit into 64 bits, and the keys of a map are data themselves.
`ofValue` takes the values of a run in and fails on a number that does not fit;
`toValue` gives them back and writes every key as text.

What an operator makes is less strict than what is given: a made number has no
bound and compares with numbers of another kind, and the written form of a made
datum, `shown`, does not name its kind.
-/

namespace ChatFlow.Expression

/-- Where a number, a text or a list comes from. -/
inductive Origin where
  /-- It is written in the expression, comes from the run or is the value of a function. -/
  | given
  /-- An operator has put it together, or it is a character of a text. -/
  | made
  deriving DecidableEq, Repr

/-- A value that an expression computes with. -/
inductive Datum where
  | null
  | bool (b : Bool)
  | int (n : Int) (origin : Origin)
  | double (x : Float) (origin : Origin)
  | text (s : String) (origin : Origin)
  | list (items : List Datum) (origin : Origin)
  | map (entries : List (Datum × Datum))
  deriving Inhabited

/-- Whether a whole number fits into 64 bits. -/
def fits (n : Int) : Bool := -9223372036854775808 ≤ n && n ≤ 9223372036854775807

/-- The whole number `n`, if it fits into 64 bits. -/
def fitted (n : Int) : Except Failure Int :=
  if fits n then .ok n else .error .outOfRange

mutual

/-- A value of a run as a datum. -/
def Datum.ofValue : Value → Except Failure Datum
  | .null => .ok .null
  | .bool b => .ok (.bool b)
  | .int n => (fitted n).map fun n => .int n .given
  | .float x => .ok (.double x .given)
  | .str s => .ok (.text s .given)
  | .list items => (Datum.ofItems items).map fun ds => .list ds .given
  | .object fields => (Datum.ofFields fields).map Datum.map

/-- The items of a list as data. -/
def Datum.ofItems : List Value → Except Failure (List Datum)
  | [] => .ok []
  | v :: rest => do
    let d ← Datum.ofValue v
    let ds ← Datum.ofItems rest
    return d :: ds

/-- The fields of an object as entries of a map. -/
def Datum.ofFields : List (String × Value) → Except Failure (List (Datum × Datum))
  | [] => .ok []
  | (k, v) :: rest => do
    let d ← Datum.ofValue v
    let ds ← Datum.ofFields rest
    return (.text k .given, d) :: ds

end

mutual

/-- A datum as a value of a run.  Of two keys that are written alike the later one gives the value. -/
def Datum.toValue : Datum → Value
  | .null => .null
  | .bool b => .bool b
  | .int n _ => .int n
  | .double x _ => .float x
  | .text s _ => .str s
  | .list items _ => .list (Datum.toItems items)
  | .map entries => .object (Entries.ofPairs (Datum.toFields entries))

/-- Data as the items of a list. -/
def Datum.toItems : List Datum → List Value
  | [] => []
  | d :: rest => Datum.toValue d :: Datum.toItems rest

/-- The entries of a map as fields, every key in its displayed form. -/
def Datum.toFields : List (Datum × Datum) → List (String × Value)
  | [] => []
  | (k, d) :: rest => ((Datum.toValue k).display, Datum.toValue d) :: Datum.toFields rest

end

/-- Whether a datum counts as true where any datum is allowed. -/
def Datum.truthy : Datum → Bool
  | null => false
  | bool b => b
  | int n _ => n ≠ 0
  | double x _ => x != 0
  | text s _ => s ≠ ""
  | list items _ => !items.isEmpty
  | map entries => !entries.isEmpty

/-- The word for the kind of a datum; what is made has the word of the plain kind. -/
def Datum.kindName : Datum → String
  | null => "NoneType"
  | bool _ => "BoolType"
  | int _ .given => "IntType"
  | int _ .made => "int"
  | double _ .given => "DoubleType"
  | double _ .made => "float"
  | text _ .given => "StringType"
  | text _ .made => "str"
  | list _ .given => "ListType"
  | list _ .made => "list"
  | map _ => "MapType"

/-! ### Written forms -/

/-- What is inside a kind's parentheses, with them and the kind in front if the datum is given. -/
def Datum.named (d : Datum) (inside : List Char) : List Char :=
  match d with
  | null | int _ .made | double _ .made | text _ .made | list _ .made => inside
  | d => d.kindName.toList ++ '(' :: inside ++ [')']

mutual

/-- A datum as it stands inside a list or a map that is written. -/
def Datum.shownChars : Datum → List Char
  | .list items o =>
    (Datum.list items o).named ('[' :: Datum.shownItems true items ++ [']'])
  | .map entries =>
    (Datum.map entries).named ('\x7b' :: Datum.shownEntries true entries ++ ['\x7d'])
  | .null => "None".toList
  | .bool b => (Datum.bool b).named (if b then "True" else "False").toList
  | .int n o => (Datum.int n o).named (Decimal.intChars n)
  | .double x o => (Datum.double x o).named (Decimal.write Decimal.plain x)
  | .text s o => (Datum.text s o).named (Text.quoted s).toList

/-- The items of a written list; `first` says that no comma is due. -/
def Datum.shownItems (first : Bool) : List Datum → List Char
  | [] => []
  | d :: rest =>
    (if first then [] else [',', ' ']) ++ Datum.shownChars d ++ Datum.shownItems false rest

/-- The entries of a written map; `first` says that no comma is due. -/
def Datum.shownEntries (first : Bool) : List (Datum × Datum) → List Char
  | [] => []
  | (k, d) :: rest =>
    (if first then [] else [',', ' ']) ++ Datum.shownChars k ++ [':', ' '] ++ Datum.shownChars d
      ++ Datum.shownEntries false rest

end

/-- A datum in the form that names its kind. -/
def Datum.shown (d : Datum) : String := String.ofList d.shownChars

/-- A datum as a text: only the parts of lists and maps name their kinds. -/
def Datum.written : Datum → String
  | text s _ => s
  | bool b => if b then "True" else "False"
  | int n _ => Decimal.intText n
  | double x _ => Decimal.text x
  | d => d.shown

/-! ### Numbers -/

/-- A number of any kind: truth values count as zero and one. -/
inductive Numeric where
  | whole (n : Int)
  | broken (x : Float)

/-- The number that a datum is. -/
def Datum.numeric? : Datum → Option Numeric
  | bool b => some (.whole (if b then 1 else 0))
  | int n _ => some (.whole n)
  | double x _ => some (.broken x)
  | _ => none

/-- The double that a number counts as. -/
def Numeric.toDouble? : Numeric → Option Float
  | whole n => Decimal.ofInt? n
  | broken x => some x

/-- Whether a datum is a whole number that has been given. -/
def Datum.isGivenInt : Datum → Bool
  | int _ .given => true
  | _ => false

/-- Whether a datum is a double that has been given. -/
def Datum.isGivenDouble : Datum → Bool
  | double _ .given => true
  | _ => false

/-- Whether a datum is a whole number and no truth value. -/
def Datum.isInt : Datum → Bool
  | int _ _ => true
  | _ => false

/-- Whether a datum is a double. -/
def Datum.isDouble : Datum → Bool
  | double _ _ => true
  | _ => false

/-! ### Parts -/

/-- The items of a collection in their order: those of a list, the keys of a map, the characters of a
text. -/
def Datum.items? : Datum → Option (List Datum)
  | list items _ => some items
  | map entries => some (entries.map (·.1))
  | text s _ => some (s.toList.map fun c => .text (String.singleton c) .made)
  | _ => none

end ChatFlow.Expression
