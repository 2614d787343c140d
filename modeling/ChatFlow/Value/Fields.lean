import ChatFlow.Failure
import ChatFlow.Value

/-!
# Asking a value for its parts

Two ways to read the fields of an object.  The strict one, for stored records,
takes a text where a text is due and nothing else.  The lenient one, for what
others send, takes a field that is missing for null; asking a value that is no
object for a field is a failure, and `orObject` is there for those that may be
absent, empty or zero and then count as an object without fields.
-/

namespace ChatFlow.Value

/-! ### Lenient reading -/

/-- The field of an object, null if it is missing; any other value has no fields. -/
def get (v : Value) (name : String) : Except Failure Value :=
  match v with
  | object fs => .ok (ofOption (Entries.find? fs name))
  | v => .error (.noField v.kindName "get")

/-- The value itself if it is present, else the other one. -/
def orElse (v other : Value) : Value := if v.truthy then v else other

/-- The value itself if it is present, else the object without fields. -/
def orObject (v : Value) : Value := v.orElse (object [])

/-- The value itself if it is present, else the empty text. -/
def orEmpty (v : Value) : Value := v.orElse (str "")

/-- A value in which nothing can be found by its place. -/
def noPlaces (v : Value) : Failure :=
  .wrongKind (Text.quoted v.kindName ++ " object is not subscriptable")

/-- The first item of a list, or the first character of a text. -/
def first (v : Value) : Except Failure Value :=
  match v with
  | list (item :: _) => .ok item
  | list [] => .error (.wrongKind "list index out of range")
  | str s =>
    match s.toList with
    | c :: _ => .ok (str (String.singleton c))
    | [] => .error (.wrongKind "string index out of range")
  | object _ => .error (.noKey "0")
  | v => .error v.noPlaces

/-- The first items of a list, or the first characters of a text. -/
def firstItems (n : Nat) (v : Value) : Except Failure (List Value) :=
  match v with
  | list items => .ok (items.take n)
  | str s => .ok ((s.toList.take n).map fun c => str (String.singleton c))
  | object _ => .error (.wrongKind "unhashable type: 'slice'")
  | v => .error v.noPlaces

/-- What a value is made of, one after the other: items, characters, or the names of fields. -/
def elements (v : Value) : Except Failure (List Value) :=
  match v with
  | list items => .ok items
  | str s => .ok (s.toList.map fun c => str (String.singleton c))
  | object fs => .ok (fs.map fun e => str e.1)
  | v => .error (.wrongKind (Text.quoted v.kindName ++ " object is not iterable"))

/-- The fields of an object, which are asked for in this way; any other value has no fields. -/
def parts (v : Value) (asked : String) : Except Failure (Entries Value) :=
  match v with
  | object fs => .ok fs
  | v => .error (.noField v.kindName asked)

/-- The text that a value is, which is asked for in this way; any other value is no text. -/
def textFor (v : Value) (asked : String) : Except Failure String :=
  match v with
  | str s => .ok s
  | v => .error (.noField v.kindName asked)

/-- A name and what it names, out of a pair that stands at some place in a row of pairs. -/
def pairAt (place : Nat) (v : Value) : Except Failure (String × Value) :=
  let found := String.ofList (Nat.toDigits 10 place)
  match v.elements with
  | .ok [str name, item] => .ok (name, item)
  | .ok [_, _] => .error (.wrongKind "a name is due")
  | .ok items => .error (.badStatement ("dictionary update sequence element #" ++ found
      ++ " has length " ++ String.ofList (Nat.toDigits 10 items.length) ++ "; 2 is required"))
  | .error _ => .error (.wrongKind
      ("cannot convert dictionary update sequence element #" ++ found ++ " to a sequence"))

/-- The entries that pairs from some place on make. -/
def pairsFrom (place : Nat) : List Value → Except Failure (List (String × Value))
  | [] => .ok []
  | v :: rest => do
    let pair ← pairAt place v
    return pair :: (← pairsFrom (place + 1) rest)

/-- The entries of an object, or those that the pairs in a row make. -/
def paired (v : Value) : Except Failure (Entries Value) :=
  match v with
  | object fs => .ok fs
  | v => do return Entries.ofPairs (← pairsFrom 0 (← v.elements))

/-! ### Strict reading -/

/-- A text that is present. -/
def requiredText? (fields : Entries Value) (name : String) : Option String :=
  (fields.find? name).bind text?

/-- A text that may be null or left out. -/
def optionalText? (fields : Entries Value) (name : String) : Option (Option String) :=
  match fields.find? name with
  | none | some null => some none
  | some v => v.text?.map some

/-- The entries of an object that have none of these names. -/
def without (names : List String) (fields : Entries Value) : Entries Value :=
  fields.filter fun e => !names.contains e.1

/-- The failure of the fields that could not be read. -/
def unread (parts : List (String × Bool)) : Failure :=
  .fields ((parts.filter (·.2)).map (·.1))

end ChatFlow.Value
