import ChatFlow.Decimal.Places
import ChatFlow.Decimal.Reading
import ChatFlow.Failure

/-!
# Patterns

A pattern is a text with places for arguments.  A place begins with a percent
sign and ends with a letter that says how its argument is written; between them
may stand the name of the argument in parentheses, flags, a width and a number
of digits, each number also as a star that takes it from the arguments.  Two
percent signs stand for one.

`fill` puts arguments into their places: those of a row in order, all of which
have to be used, and those of a table by name.
-/

namespace ChatFlow.Pattern

/-- What an argument is as a number. -/
inductive Number where
  | whole (n : Int)
  | broken (x : Float)

/-- An argument of a pattern. -/
structure Argument where
  /-- The argument as text. -/
  text : String
  /-- The argument as it is shown among others. -/
  shown : String
  /-- The argument as a number, if it is one. -/
  number : Option Number
  /-- Whether the argument is a text. -/
  isText : Bool

/-- The arguments that are left: those of a table are found by name. -/
structure Arguments where
  left : List Argument
  named : Option (String → Except Failure Argument) := none

/-- A place in a pattern. -/
structure Place where
  /-- The padding stands on the right. -/
  leftmost : Bool := false
  /-- A number that is not negative has a plus sign. -/
  plus : Bool := false
  /-- A number that is not negative has a blank for its sign. -/
  blank : Bool := false
  /-- A number shows its base or its point. -/
  explicit : Bool := false
  /-- A number is padded with zeros. -/
  zeros : Bool := false
  width : Nat := 0
  digits : Option Nat := none
  letter : Char := 's'

/-! ### Reading a place -/

/-- A failure because of what an argument is. -/
def wrong {α : Type} (reason : String) : Except Failure α := .error (.wrongKind reason)

/-- A failure because of how the pattern is written. -/
def faulty {α : Type} (reason : String) : Except Failure α := .error (.badStatement reason)

/-- The next argument and those left after it. -/
def Arguments.next (args : Arguments) : Except Failure (Argument × Arguments) :=
  match args.left with
  | a :: rest => .ok (a, { args with left := rest })
  | [] => wrong "not enough arguments for format string"

/-- The characters of a name up to the parenthesis that closes it, and what follows; `depth` counts
the parentheses open inside it. -/
def readName (depth : Nat) : List Char → Except Failure (List Char × List Char)
  | [] => faulty "incomplete format key"
  | c :: rest =>
    if c = ')' then
      match depth with
      | 0 => .ok ([], rest)
      | depth + 1 => do
        let (name, rest) ← readName depth rest
        return (c :: name, rest)
    else do
      let (name, rest) ← readName (if c = '(' then depth + 1 else depth) rest
      return (c :: name, rest)

/-- Chooses the argument whose name stands at the beginning, if one does. -/
def chooseNamed (args : Arguments) : List Char → Except Failure (Arguments × List Char)
  | '(' :: rest =>
    match args.named with
    | none => wrong "format requires a mapping"
    | some find => do
      let (name, rest) ← readName 0 rest
      return ({ args with left := [← find (String.ofList name)] }, rest)
  | s => .ok (args, s)

/-- A place with one flag set. -/
def Place.withFlag (p : Place) (c : Char) : Place :=
  if c = '-' then { p with leftmost := true }
  else if c = '+' then { p with plus := true }
  else if c = ' ' then { p with blank := true }
  else if c = '#' then { p with explicit := true }
  else { p with zeros := true }

/-- Whether a character is a flag. -/
def isFlag (c : Char) : Bool := ['-', '+', ' ', '#', '0'].contains c

/-- A number in a place: digits, or a star that takes a whole number from the arguments.  Digits make a
number of at most `most`. -/
def readSize (what : String) (most : Nat) (args : Arguments) (s : List Char) :
    Except Failure (Option Int × Arguments × List Char) :=
  match s with
  | '*' :: rest => do
    let (a, args) ← args.next
    match a.number with
    | some (.whole n) =>
      if (most : Int) < n || n < -(most : Int) - 1 then .error .tooLarge
      else return (some n, args, rest)
    | _ => wrong "* wants int"
  | s =>
    let ds := s.takeWhile Char.isDigit
    let n := Decimal.natOfDigits 0 ds
    if ds.isEmpty then .ok (none, args, s)
    else if most < n then faulty (what ++ " too big")
    else .ok (some (n : Int), args, s.dropWhile Char.isDigit)

/-- Reads a place after its percent sign: the arguments left, the place, and what follows it. -/
def readPlace (args : Arguments) (s : List Char) :
    Except Failure (Arguments × Place × List Char) := do
  let (args, s) ← chooseNamed args s
  let p := (s.takeWhile isFlag).foldl Place.withFlag {}
  let (width?, args, s) ← readSize "width" 9223372036854775807 args (s.dropWhile isFlag)
  let width := width?.getD 0
  let p := { p with width := width.natAbs, leftmost := p.leftmost || width < 0 }
  let (digits, args, s) ←
    match s with
    | '.' :: rest => do
      let (n?, args, rest) ← readSize "precision" 2147483647 args rest
      pure (some (n?.getD 0).toNat, args, rest)
    | s => pure (none, args, s)
  let s :=
    match s with
    | c :: rest => if c = 'h' || c = 'l' || c = 'L' then rest else s
    | [] => []
  match s with
  | letter :: rest => return (args, { p with digits := digits, letter := letter }, rest)
  | [] => faulty "incomplete format"

/-! ### Writing an argument -/

/-- A text with an escape for every character outside ASCII. -/
def asciiChars (s : String) : List Char :=
  s.toList.flatMap fun c =>
    let n := c.toNat
    if n < 128 then [c]
    else if n < 0x100 then '\\' :: 'x' :: Text.hexDigits 2 n
    else if n < 0x10000 then '\\' :: 'u' :: Text.hexDigits 4 n
    else '\\' :: 'U' :: Text.hexDigits 8 n

/-- A whole number in the base of its letter, with at least so many digits. -/
def wholeChars (p : Place) (n : Int) : List Char :=
  let base := if p.letter = 'o' then 8 else if p.letter = 'x' || p.letter = 'X' then 16 else 10
  let ds := Nat.toDigits base n.natAbs
  let mark := if p.explicit && base ≠ 10 then ['0', p.letter] else []
  let ds := if p.letter = 'X' then ds.map Char.toUpper else ds
  (if n < 0 then ['-'] else []) ++ mark
    ++ List.replicate (p.digits.getD 0 - ds.length) '0' ++ ds

/-- A double as its letter wants it. -/
def brokenChars (p : Place) (x : Float) : List Char :=
  let small := p.letter.toLower
  let count := p.digits.getD 6
  let body :=
    match Decimal.decode? x with
    | none => if x.isNaN then "nan".toList else if x < 0 then "-inf".toList else "inf".toList
    | some d =>
      let (num, den) := d.fraction
      (if d.negative then ['-'] else []) ++
        (if small = 'f' then Decimal.fixedChars p.explicit count num den
        else if small = 'e' then Decimal.scientificChars p.explicit count num den
        else Decimal.generalChars p.explicit count num den)
  if small = p.letter then body else body.map Char.toUpper

/-- The character of a number. -/
def numberedChar (n : Int) : Except Failure (List Char) :=
  if n < 0 || 0x110000 ≤ n then .error .tooLarge
  else
    let isCharacter := n < 0xD800 || 0xE000 ≤ n
    .ok [if isCharacter then Char.ofNat n.toNat else '\uFFFD']

/-- An argument without padding; `index` is where the letter stands in the pattern. -/
def bodyChars (p : Place) (index : Nat) (a : Argument) : Except Failure (List Char) :=
  match p.letter with
  | 's' => .ok (a.text.toList.take (p.digits.getD a.text.length))
  | 'r' => .ok (a.shown.toList.take (p.digits.getD a.shown.length))
  | 'a' =>
    let all := asciiChars a.shown
    .ok (all.take (p.digits.getD all.length))
  | 'c' =>
    match a.number, a.text.toList with
    | some (.whole n), _ => numberedChar n
    | none, [c] => if a.isText then .ok [c] else wrong "%c requires int or char"
    | _, _ => wrong "%c requires int or char"
  | 'd' | 'i' | 'u' | 'o' | 'x' | 'X' =>
    match a.number with
    | some (.whole n) => .ok (wholeChars p n)
    | some (.broken x) =>
      if ['o', 'x', 'X'].contains p.letter then wrong "an integer is required"
      else
        match Decimal.truncate? x with
        | some n => .ok (wholeChars p n)
        | none =>
          if x.isNaN then faulty "cannot convert float NaN to integer" else .error .infinite
    | none => wrong "a real number is required"
  | 'e' | 'E' | 'f' | 'F' | 'g' | 'G' =>
    match a.number with
    | some (.broken x) => .ok (brokenChars p x)
    | some (.whole n) =>
      match Decimal.ofInt? n with
      | some x => .ok (brokenChars p x)
      | none => .error .tooLarge
    | none => wrong "must be real number"
  | c =>
    let shown := if 31 ≤ c.toNat && c.toNat < 127 then c else '?'
    faulty ("unsupported format character '" ++ String.singleton shown ++ "' (0x"
      ++ String.ofList (Nat.toDigits 16 c.toNat) ++ ") at index "
      ++ String.ofList (Decimal.natChars index))

/-- Whether a letter is for numbers, so that a sign and zeros may stand in front. -/
def isNumeric (letter : Char) : Bool := !(['s', 'r', 'a', 'c'].contains letter)

/-- The sign in front of a number, and the number without it. -/
def Place.sign (p : Place) (body : List Char) : List Char × List Char :=
  match body with
  | '-' :: rest => (['-'], rest)
  | rest => (if p.plus then ['+'] else if p.blank then [' '] else [], rest)

/-- An argument padded to the width of its place. -/
def Place.padded (p : Place) (body : List Char) : List Char :=
  let (sign, body) := if isNumeric p.letter then p.sign body else ([], body)
  let hasMark := p.explicit && ['o', 'x', 'X'].contains p.letter
  let mark := if hasMark then body.take 2 else []
  let digits := if hasMark then body.drop 2 else body
  let missing := p.width - (sign.length + body.length)
  if p.leftmost then sign ++ body ++ List.replicate missing ' '
  else if p.zeros && isNumeric p.letter then sign ++ mark ++ List.replicate missing '0' ++ digits
  else List.replicate missing ' ' ++ sign ++ body

/-! ### Filling a pattern -/

/-- Fills a pattern of which `total` characters were there to begin with, by steps of which `fuel` are
left. -/
def fillFrom (total : Nat) : Nat → Arguments → List Char → Except Failure (List Char)
  | 0, _, _ => .ok []
  | _ + 1, args, [] =>
    if args.named.isNone && !args.left.isEmpty then
      wrong "not all arguments converted during string formatting"
    else .ok []
  | fuel + 1, args, '%' :: '%' :: rest => do return '%' :: (← fillFrom total fuel args rest)
  | fuel + 1, args, '%' :: rest => do
    let (args, p, rest) ← readPlace args rest
    let (a, args) ← args.next
    let body ← bodyChars p (total - rest.length - 1) a
    return p.padded body ++ (← fillFrom total fuel args rest)
  | fuel + 1, args, c :: rest => do return c :: (← fillFrom total fuel args rest)

/-- A pattern with its arguments in their places. -/
def fill (pattern : String) (args : Arguments) : Except Failure String :=
  (fillFrom pattern.length (pattern.length + 1) args pattern.toList).map String.ofList

end ChatFlow.Pattern
