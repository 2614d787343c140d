import ChatFlow.Value
import ChatFlow.Decimal.Reading
import ChatFlow.Text.Base64
import ChatFlow.Text.Wide

/-!
# Reading JSON text

A reader by recursive descent over the characters.  Each step returns what it
has read and the rest of the text.  A number with a point or an exponent is a
double, any other is a whole number and has a bounded length; `NaN`, `Infinity` and `-Infinity` are
taken too.  Of two fields with one key the later value stands at the earlier
place.

The depth of nesting is bounded by the length of the text, which is the fuel
that `parse?` hands to the reader.
-/

namespace ChatFlow.Json

/-- The rest of the text after the blanks that JSON allows. -/
def skipBlanks (s : List Char) : List Char :=
  s.dropWhile fun c => c = ' ' || c = '\t' || c = '\n' || c = '\r'

/-- The value of a hexadecimal digit. -/
def hexValue? (c : Char) : Option Nat :=
  if '0' ≤ c ∧ c ≤ '9' then some (c.toNat - 48)
  else if 'a' ≤ c ∧ c ≤ 'f' then some (c.toNat - 87)
  else if 'A' ≤ c ∧ c ≤ 'F' then some (c.toNat - 55)
  else none

/-- Four hexadecimal digits. -/
def readHex4? : List Char → Option (Nat × List Char)
  | a :: b :: c :: d :: rest => do
    let a ← hexValue? a
    let b ← hexValue? b
    let c ← hexValue? c
    let d ← hexValue? d
    return (((a * 16 + b) * 16 + c) * 16 + d, rest)
  | _ => none

/-- The character of an escape with a single letter. -/
def simpleEscape? (c : Char) : Option Char :=
  if c = '"' || c = '\\' || c = '/' then some c
  else if c = 'n' then some '\n'
  else if c = 'r' then some '\r'
  else if c = 't' then some '\t'
  else if c = 'b' then some (Char.ofNat 8)
  else if c = 'f' then some (Char.ofNat 12)
  else none

/-- The character of a `\u` escape after the `u`.  Two escapes may form one character; half of such
a pair alone stands for the replacement character. -/
def readUnicode? (s : List Char) : Option (Char × List Char) := do
  let (high, rest) ← readHex4? s
  if 0xD800 ≤ high ∧ high < 0xDC00 then
    match rest with
    | '\\' :: 'u' :: more =>
      match readHex4? more with
      | some (low, rest') =>
        if 0xDC00 ≤ low ∧ low < 0xE000 then
          return (Char.ofNat (0x10000 + (high - 0xD800) * 0x400 + (low - 0xDC00)), rest')
        else return (Char.ofNat 0xFFFD, rest)
      | none => return (Char.ofNat 0xFFFD, rest)
    | _ => return (Char.ofNat 0xFFFD, rest)
  else if 0xDC00 ≤ high ∧ high < 0xE000 then return (Char.ofNat 0xFFFD, rest)
  else return (Char.ofNat high, rest)

/-- The characters of a text up to its closing quote; `acc` holds those already read, the last one
first. -/
def readChars? : Nat → List Char → List Char → Option (String × List Char)
  | 0, _, _ => none
  | _ + 1, _, [] => none
  | fuel + 1, acc, c :: rest =>
    if c = '"' then some (String.ofList acc.reverse, rest)
    else if c = '\\' then
      match rest with
      | 'u' :: more =>
        match readUnicode? more with
        | some (d, rest') => readChars? fuel (d :: acc) rest'
        | none => none
      | d :: more =>
        match simpleEscape? d with
        | some e => readChars? fuel (e :: acc) more
        | none => none
      | [] => none
    else if c.toNat < 32 then none
    else readChars? fuel (c :: acc) rest

/-- The digits that a number may begin with: a zero alone or digits that begin with another. -/
def takeWhole? (s : List Char) : Option (List Char × List Char) :=
  match s with
  | '0' :: rest => some (['0'], rest)
  | c :: _ => if c.isDigit then some (s.takeWhile Char.isDigit, s.dropWhile Char.isDigit) else none
  | [] => none

/-- The digits after a point, if there are any. -/
def takePart (s : List Char) : List Char × List Char :=
  match s with
  | '.' :: rest =>
    if (rest.takeWhile Char.isDigit).isEmpty then ([], s)
    else (rest.takeWhile Char.isDigit, rest.dropWhile Char.isDigit)
  | _ => ([], s)

/-- An exponent, if there is one. -/
def takeExponent (s : List Char) : Option Int × List Char :=
  match s with
  | c :: rest =>
    if c = 'e' || c = 'E' then
      let (negative, body) := Decimal.splitSign rest
      let ds := body.takeWhile Char.isDigit
      if ds.isEmpty then (none, s)
      else
        let n : Int := Decimal.natOfDigits 0 ds
        (some (if negative then -n else n), body.dropWhile Char.isDigit)
    else (none, s)
  | [] => (none, s)

/-- A number after its sign. -/
def readNumber? (negative : Bool) (s : List Char) : Option (Value × List Char) := do
  let (whole, rest) ← takeWhole? s
  let (part, rest) := takePart rest
  let (exponent, rest) := takeExponent rest
  match part, exponent with
  | [], none =>
    if Decimal.mostDigits < whole.length then none
    let n : Int := Decimal.natOfDigits 0 whole
    return (.int (if negative then -n else n), rest)
  | part, exponent =>
    let n := Decimal.natOfDigits 0 (whole ++ part)
    return (.float (Decimal.ofScaled negative n (exponent.getD 0 - part.length)), rest)

/-- The word `word` at the start of the text, standing for `v`. -/
def readWord? (word : String) (v : Value) (s : List Char) : Option (Value × List Char) :=
  if word.toList.isPrefixOf s then some (v, s.drop word.length) else none

/-- A value that is neither a text nor nested. -/
def readScalar? (s : List Char) : Option (Value × List Char) :=
  match s with
  | [] => none
  | 'n' :: _ => readWord? "null" .null s
  | 't' :: _ => readWord? "true" (.bool true) s
  | 'f' :: _ => readWord? "false" (.bool false) s
  | 'N' :: _ => readWord? "NaN" (.float Decimal.nan) s
  | 'I' :: _ => readWord? "Infinity" (.float (Decimal.infinite false)) s
  | '-' :: 'I' :: _ => readWord? "-Infinity" (.float (Decimal.infinite true)) s
  | '-' :: rest => readNumber? true rest
  | _ => readNumber? false s

mutual

/-- A value at the start of the text. -/
def readValue? : Nat → List Char → Option (Value × List Char)
  | 0, _ => none
  | fuel + 1, s =>
    match s with
    | '"' :: rest => (readChars? (rest.length + 1) [] rest).map fun p => (.str p.1, p.2)
    | '[' :: rest =>
      match skipBlanks rest with
      | ']' :: rest' => some (.list [], rest')
      | s' => readItems? fuel [] s'
    | '\x7b' :: rest =>
      match skipBlanks rest with
      | '\x7d' :: rest' => some (.object [], rest')
      | s' => readFields? fuel [] s'
    | _ => readScalar? s

/-- The items of a list up to its closing bracket; `acc` holds those already read, the last one
first. -/
def readItems? : Nat → List Value → List Char → Option (Value × List Char)
  | 0, _, _ => none
  | fuel + 1, acc, s =>
    match readValue? fuel s with
    | none => none
    | some (v, rest) =>
      match skipBlanks rest with
      | ',' :: rest' => readItems? fuel (v :: acc) (skipBlanks rest')
      | ']' :: rest' => some (.list (v :: acc).reverse, rest')
      | _ => none

/-- The fields of an object up to its closing brace. -/
def readFields? : Nat → Entries Value → List Char → Option (Value × List Char)
  | 0, _, _ => none
  | fuel + 1, acc, s =>
    match s with
    | '"' :: rest =>
      match readChars? (rest.length + 1) [] rest with
      | none => none
      | some (key, rest) =>
        match skipBlanks rest with
        | ':' :: rest' =>
          match readValue? fuel (skipBlanks rest') with
          | none => none
          | some (v, rest) =>
            match skipBlanks rest with
            | ',' :: rest' => readFields? fuel (acc.put key v) (skipBlanks rest')
            | '\x7d' :: rest' => some (.object (acc.put key v), rest')
            | _ => none
        | _ => none
    | _ => none

end

/-- The value that a text holds, blanks around it allowed and nothing else. -/
def parse? (s : String) : Option Value :=
  let chars := skipBlanks s.toList
  match readValue? (chars.length + 1) chars with
  | some (v, rest) => if (skipBlanks rest).isEmpty then some v else none
  | none => none

/-- The characters of units that have to be characters all of them. -/
def wholeText? (chars : List (Option Char)) : Option String :=
  if chars.contains none then none else some (String.ofList (chars.filterMap id))

/-- The value of a JSON text that came in bytes, written here as the UTF-8 text that they would be.  A
byte order mark may stand in front, and zeros among the first bytes tell of wider units: JSON begins
with two characters below 128. -/
def parseBytes? (s : String) : Option Value :=
  let bytes := Text.bytesOf s
  let wide? : Option (List (Option Char)) :=
    match bytes with
    | 0 :: 0 :: _ :: _ :: _ => some (Text.readUtf32 .highFirst bytes)
    | 0 :: _ :: _ :: _ :: _ | [0, _] => some (Text.readUtf16 .highFirst bytes)
    | _ :: 0 :: 0 :: 0 :: _ => some (Text.readUtf32 .lowFirst bytes)
    | _ :: 0 :: _ :: _ :: _ | [_, 0] => some (Text.readUtf16 .lowFirst bytes)
    | _ => none
  match wide?, s.toList with
  | some chars, _ => (wholeText? chars).bind parse?
  | none, '\uFEFF' :: rest => parse? (String.ofList rest)
  | none, _ => parse? s

end ChatFlow.Json
