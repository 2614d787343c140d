import ChatFlow.Value.Render
import ChatFlow.Decimal.Field
import ChatFlow.Text.Split

/-!
# Forms

The settings of a node are an open object that several editions of the editor
have written in several spellings.  A form lists the fields that are understood,
each with its spellings in order of priority, the kind of value that it takes
and what it is when it is left out; null counts as left out.

`Form.fill` reads an object by a form: every field gets a value of its kind, and
the entries that no field has taken are kept beside them.  It fails with the
spellings of all fields whose value is not of their kind.
-/

namespace ChatFlow

/-! ### Values of a kind -/

namespace Value

/-- A text, a number being written out. -/
def asText? : Value → Option String
  | str s => some s
  | int n => some (Decimal.intText n)
  | float x => some (Decimal.text x)
  | _ => none

/-- A double: any number, a truth value, or the text of a number. -/
def asFloat? : Value → Option Float
  | float x => some x
  | int n => Decimal.ofInt? n
  | bool b => some (if b then 1 else 0)
  | str s => Decimal.fieldFloat? s
  | _ => none

/-- A whole number: one, a double equal to one of at most 63 bits, a truth value, or the text of
one. -/
def asInt? : Value → Option Int
  | int n => some n
  | float x => (Decimal.toInt? x).filter fun n => n.natAbs < Decimal.twoTo 63
  | bool b => some (if b then 1 else 0)
  | str s => Decimal.fieldInt? s
  | _ => none

/-- A truth value: one, a zero or a one, or a word that means yes or no. -/
def asBool? : Value → Option Bool
  | bool b => some b
  | int n => if n = 0 then some false else if n = 1 then some true else none
  | float x => if x == 0 then some false else if x == 1 then some true else none
  | str s =>
    let word := String.ofList (s.toList.map Char.toLower)
    if ["1", "true", "t", "yes", "y", "on"].contains word then some true
    else if ["0", "false", "f", "no", "n", "off"].contains word then some false
    else none
  | _ => none

end Value

/-- Keywords as a list: those of a text stand between commas, those of a list are its items; blank
ones are left out, and any other value has none. -/
def splitKeywords (v : Value) : List String :=
  let all :=
    match v with
    | .str s => Text.splitAt ',' s
    | .list items => items.map Value.display
    | _ => []
  (all.map Text.strip).filter (· ≠ "")

/-! ### Forms and how they are filled -/

/-- The kinds of value that a field takes. -/
inductive FieldKind where
  /-- Any value at all. -/
  | anything
  | text
  | number
  | whole
  | flag
  /-- A text, or else a number. -/
  | textOrNumber
  /-- A number that keeps its kind, or a text. -/
  | amount
  | object
  | objectOrText
  /-- A text, an object or a list. -/
  | body
  | texts
  | objects
  /-- A list of lists. -/
  | rows
  | keywords
  /-- A list of objects that are each filled by the fields given. -/
  | nested (fields : List (String × List String × FieldKind × Value))
  /-- An object, or a list of objects that are each filled by the fields given. -/
  | objectOrNested (fields : List (String × List String × FieldKind × Value))

/-- The fields of a form: name, spellings, kind, and value when left out. -/
abbrev Form := List (String × List String × FieldKind × Value)

/-- What a form makes of an object: the values of its fields, and the entries that belong to none. -/
structure Filled where
  fields : Entries Value
  extra : Entries Value

/-- All fields and entries in one object; an entry with the name of a field stands in its place. -/
def Filled.dump (f : Filled) : Entries Value := Entries.merge f.fields f.extra

/-- The value of a field. -/
def Filled.get (f : Filled) (name : String) : Value := (f.fields.find? name).getD .null

/-- The text of a text field. -/
def Filled.text (f : Filled) (name : String) : String := (f.get name).text?.getD ""

/-- The items of a list of texts. -/
def Filled.texts (f : Filled) (name : String) : List String :=
  match f.get name with
  | .list items => items.filterMap Value.text?
  | _ => []

/-- The spelling under which an object has a field. -/
def spellingIn? (config : Entries Value) (spellings : List String) : Option String :=
  spellings.find? config.has

/-- All values, if there are values for all. -/
def allOf {α β : Type} (f : α → Option β) : List α → Option (List β)
  | [] => some []
  | a :: rest => do
    let b ← f a
    let bs ← allOf f rest
    return b :: bs

/-- The entries of an object that are not null. -/
def withoutNulls (config : Entries Value) : Entries Value := config.filter fun e => !e.2.isNull

/-- What became of one field: the spelling that it was found under, and its value unless the one found
is not of its kind. -/
structure Reading where
  name : String
  spelling : Option String
  value : Option Value

/-- The spellings under which fields were found with wrong values. -/
def Reading.wrong (rows : List Reading) : List String :=
  rows.filterMap fun r => if r.value.isNone then r.spelling else none

/-- The fields as read, beside the entries of `given` that none of them was found under. -/
def Filled.ofReadings (rows : List Reading) (given : Entries Value) : Filled where
  fields := rows.map fun r => (r.name, r.value.getD .null)
  extra := given.filter fun e => !(rows.filterMap Reading.spelling).contains e.1

/-- An object whose fields are all right, all in one object again, given a way to read the fields. -/
def Filled.object? (read : Entries Value → List Reading) : Value → Option Value
  | .object fs =>
    let rows := read (withoutNulls fs)
    if (Reading.wrong rows).isEmpty then
      some (.object (Filled.ofReadings rows (withoutNulls fs)).dump)
    else none
  | _ => none

mutual

/-- The value that fits a kind, if it can be made to. -/
def FieldKind.fit? : FieldKind → Value → Option Value
  | .anything, v => some v
  | .text, v => v.asText?.map Value.str
  | .number, v => v.asFloat?.map Value.float
  | .whole, v => v.asInt?.map Value.int
  | .flag, v => v.asBool?.map Value.bool
  | .textOrNumber, v => match v with
    | .str s => some (.str s)
    | v => (v.asFloat?.map Value.float).orElse fun _ => v.asText?.map Value.str
  | .amount, v => match v with
    | .str s => some (.str s)
    | .float x => some (.float x)
    | v => v.asInt?.map Value.int
  | .object, v => if v.isObject then some v else none
  | .objectOrText, v => if v.isObject then some v else v.asText?.map Value.str
  | .body, v => match v with
    | .object fs => some (.object fs)
    | .list items => some (.list items)
    | v => v.asText?.map Value.str
  | .texts, v => match v with
    | .list items => (allOf Value.asText? items).map fun ss => .list (ss.map Value.str)
    | _ => none
  | .objects, v => match v with
    | .list items => if items.all Value.isObject then some (.list items) else none
    | _ => none
  | .rows, v => match v with
    | .list items => if items.all (fun r => match r with | .list _ => true | _ => false)
        then some (.list items) else none
    | _ => none
  | .keywords, v => some (.list ((splitKeywords v).map Value.str))
  | .nested fields, v => match v with
    | .list items => (allOf (Filled.object? (FieldKind.read fields)) items).map Value.list
    | _ => none
  | .objectOrNested fields, v => match v with
    | .object fs => some (.object fs)
    | .list items => (allOf (Filled.object? (FieldKind.read fields)) items).map Value.list
    | _ => none

/-- Reads the fields given from an object without nulls. -/
def FieldKind.read : List (String × List String × FieldKind × Value) → Entries Value → List Reading
  | [], _ => []
  | (name, spellings, kind, default_) :: rest, given =>
    let reading : Reading :=
      match spellingIn? given spellings with
      | some spelling =>
        ⟨name, some spelling, FieldKind.fit? kind ((given.find? spelling).getD .null)⟩
      | none => ⟨name, none, some default_⟩
    reading :: FieldKind.read rest given

end

/-- Reads an object by a form, or says in which spellings fields are wrong. -/
def Form.fill (form : Form) (config : Entries Value) : Except (List String) Filled :=
  let given := withoutNulls config
  let rows := FieldKind.read form given
  if (Reading.wrong rows).isEmpty then .ok (Filled.ofReadings rows given)
  else .error (Reading.wrong rows)

end ChatFlow
