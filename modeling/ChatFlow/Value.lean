import ChatFlow.Entries

/-!
# Values

The values that flows, messages and replies are made of: those of JSON, with
whole and broken numbers told apart and with objects that keep the order of
their fields.
-/

namespace ChatFlow

/-- A JSON value.  Whole numbers are unbounded, broken ones are doubles, and the fields of an
object stand in the order in which they were written. -/
inductive Value where
  | null
  | bool (b : Bool)
  | int (n : Int)
  | float (x : Float)
  | str (s : String)
  | list (items : List Value)
  | object (fields : List (String × Value))
  deriving Inhabited

/-- A text is a value. -/
instance : Coe String Value := ⟨Value.str⟩

namespace Value

/-- Whether a value counts as present: not null, false, zero or empty. -/
def truthy : Value → Bool
  | null => false
  | bool b => b
  | int n => n ≠ 0
  | float x => x != 0
  | str s => s ≠ ""
  | list items => !items.isEmpty
  | object fields => !fields.isEmpty

/-- The field of an object. -/
def field? (v : Value) (name : String) : Option Value :=
  match v with
  | object fields => Entries.find? fields name
  | _ => none

/-- The fields of an object, none for any other value. -/
def fields : Value → Entries Value
  | object fs => fs
  | _ => []

/-- Whether the value is an object. -/
def isObject : Value → Bool
  | object _ => true
  | _ => false

/-- Whether the value is null. -/
def isNull : Value → Bool
  | null => true
  | _ => false

/-- The text of a text value. -/
def text? : Value → Option String
  | str s => some s
  | _ => none

/-- The word for the kind of a value in a message. -/
def kindName : Value → String
  | null => "NoneType"
  | bool _ => "bool"
  | int _ => "int"
  | float _ => "float"
  | str _ => "str"
  | list _ => "list"
  | object _ => "dict"

/-- A text, or null for none. -/
def ofText? : Option String → Value
  | some s => str s
  | none => null

/-- A value, or null for none. -/
def ofOption : Option Value → Value
  | some v => v
  | none => null

mutual

/-- Whether a text in a value, at any depth, has a property. -/
def anyText (p : String → Bool) : Value → Bool
  | str s => p s
  | list items => anyTextInItems p items
  | object fields => anyTextInFields p fields
  | _ => false

/-- Whether a text in one of the items has a property. -/
def anyTextInItems (p : String → Bool) : List Value → Bool
  | [] => false
  | v :: rest => anyText p v || anyTextInItems p rest

/-- Whether a text in one of the fields has a property. -/
def anyTextInFields (p : String → Bool) : List (String × Value) → Bool
  | [] => false
  | (_, v) :: rest => anyText p v || anyTextInFields p rest

end

@[simp] theorem isObject_object (fs : List (String × Value)) : (object fs).isObject = true := rfl

theorem field?_of_not_isObject {v : Value} (h : v.isObject = false) (name : String) :
    v.field? name = none := by
  cases v <;> simp_all [field?, isObject]

end Value

end ChatFlow
