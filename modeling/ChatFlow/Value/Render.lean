import ChatFlow.Json.Writer

/-!
# Values as text

A value has two forms as text.  `render` is what a reader of a message sees:
scalars without decoration, a whole double without its point, lists and objects
as compact JSON.  `display` is the form for people who debug a flow: texts
inside lists and objects are quoted, and the absent value and the truth values
are words with a capital letter.
-/

namespace ChatFlow.Value

/-- The text that a value shows in a message. -/
def render : Value → String
  | null => "null"
  | bool true => "true"
  | bool false => "false"
  | int n => Decimal.intText n
  | float x =>
    match Decimal.toInt? x with
    | some n => Decimal.intText n
    | none => Decimal.text x
  | str s => s
  | list items => Json.text Json.compact (list items)
  | object fields => Json.text Json.compact (object fields)

mutual

/-- A value as it stands inside a list or an object that is displayed. -/
def displayChars : Value → List Char
  | null => "None".toList
  | bool true => "True".toList
  | bool false => "False".toList
  | int n => Decimal.intChars n
  | float x => Decimal.write Decimal.plain x
  | str s => (Text.quoted s).toList
  | list items => '[' :: displayItems true items ++ [']']
  | object fields => '\x7b' :: displayFields true fields ++ ['\x7d']

/-- The items of a displayed list; `first` says that no comma is due. -/
def displayItems (first : Bool) : List Value → List Char
  | [] => []
  | v :: rest => (if first then [] else [',', ' ']) ++ displayChars v ++ displayItems false rest

/-- The fields of a displayed object; `first` says that no comma is due. -/
def displayFields (first : Bool) : List (String × Value) → List Char
  | [] => []
  | (k, v) :: rest =>
    (if first then [] else [',', ' ']) ++ (Text.quoted k).toList ++ [':', ' '] ++ displayChars v
      ++ displayFields false rest

end

/-- A value as it is displayed, a text in quotes. -/
def shown (v : Value) : String := String.ofList (displayChars v)

/-- The text of a text value, and the displayed form of any other. -/
def display : Value → String
  | str s => s
  | v => v.shown

@[simp] theorem render_str (s : String) : (str s).render = s := rfl
@[simp] theorem display_str (s : String) : (str s).display = s := rfl

end ChatFlow.Value
