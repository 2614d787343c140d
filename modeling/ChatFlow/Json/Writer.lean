import ChatFlow.Value
import ChatFlow.Decimal.Layout
import ChatFlow.Text.Quoted

/-!
# Values as JSON text

One writer with a `Style`: what stands between two items, what follows a key,
and whether characters outside ASCII are escaped.  Whole numbers are written
with all their digits and doubles with the fewest digits that read back.
-/

namespace ChatFlow.Json

/-- The choices left to a writer of JSON text. -/
structure Style where
  /-- What stands between two items or two fields. -/
  separator : String
  /-- What stands between a key and its value. -/
  colon : String
  /-- Whether every character outside ASCII is escaped. -/
  ascii : Bool

/-- No blanks, and every printable character as it is. -/
def compact : Style := ⟨",", ":", false⟩

/-- A blank after each comma and colon, and ASCII characters only. -/
def spaced : Style := ⟨", ", ": ", true⟩

/-- `\u` and four hexadecimal digits. -/
def unicodeEscape (n : Nat) : List Char := '\\' :: 'u' :: Text.hexDigits 4 n

/-- One character between the quotes of a JSON text. -/
def escapeChar (ascii : Bool) (c : Char) : List Char :=
  if c = '"' then ['\\', '"']
  else if c = '\\' then ['\\', '\\']
  else if c = '\n' then ['\\', 'n']
  else if c = '\r' then ['\\', 'r']
  else if c = '\t' then ['\\', 't']
  else if c.toNat = 8 then ['\\', 'b']
  else if c.toNat = 12 then ['\\', 'f']
  else if c.toNat < 32 then unicodeEscape c.toNat
  else if !ascii || c.toNat < 127 then [c]
  else if c.toNat < 0x10000 then unicodeEscape c.toNat
  else
    let n := c.toNat - 0x10000
    unicodeEscape (0xD800 + n / 0x400) ++ unicodeEscape (0xDC00 + n % 0x400)

/-- A text with its quotes. -/
def quotedText (ascii : Bool) (s : String) : List Char :=
  '"' :: s.toList.flatMap (escapeChar ascii) ++ ['"']

mutual

/-- The JSON text of a value. -/
def write (style : Style) : Value → List Char
  | .null => "null".toList
  | .bool true => "true".toList
  | .bool false => "false".toList
  | .int n => Decimal.intChars n
  | .float x => Decimal.write Decimal.structured x
  | .str s => quotedText style.ascii s
  | .list items => '[' :: writeItems style true items ++ [']']
  | .object fields => '\x7b' :: writeFields style true fields ++ ['\x7d']

/-- The items of a list; `first` says that no separator is due. -/
def writeItems (style : Style) (first : Bool) : List Value → List Char
  | [] => []
  | v :: rest =>
    (if first then [] else style.separator.toList) ++ write style v ++ writeItems style false rest

/-- The fields of an object; `first` says that no separator is due. -/
def writeFields (style : Style) (first : Bool) : List (String × Value) → List Char
  | [] => []
  | (k, v) :: rest =>
    (if first then [] else style.separator.toList) ++ quotedText style.ascii k
      ++ style.colon.toList ++ write style v ++ writeFields style false rest

end

/-- The JSON text of a value in the given style. -/
def text (style : Style) (v : Value) : String := String.ofList (write style v)

/-! ### Values for strict readers -/

mutual

/-- The value with null for every number that JSON has no form for. -/
def finite : Value → Value
  | .float x => if Decimal.isFinite x then .float x else .null
  | .list items => .list (finiteItems items)
  | .object fields => .object (finiteFields fields)
  | v => v

/-- Every item with null for numbers that JSON has no form for. -/
def finiteItems : List Value → List Value
  | [] => []
  | v :: rest => finite v :: finiteItems rest

/-- Every field with null for numbers that JSON has no form for. -/
def finiteFields : List (String × Value) → List (String × Value)
  | [] => []
  | (key, v) :: rest => (key, finite v) :: finiteFields rest

end

end ChatFlow.Json
