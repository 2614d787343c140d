import ChatFlow.Decimal.Reading
import ChatFlow.Json.Reader

/-!
# The tokens of expressions

Names, numbers, quoted texts and symbols.  Blanks and comments, which run from
two slashes to the end of the line, separate tokens.

What a token can be depends on what stands before it.  Where an operand is due, a
minus sign that touches a number belongs to it, and `in` is a name; after an
operand `in` is an operator, even if letters follow; after a point only a name is
read.
-/

namespace ChatFlow.Expression

/-- A token of an expression. -/
inductive Token where
  | name (s : String)
  | whole (n : Int)
  | broken (digits : List Char)
  /-- A quoted text; none when an escape in it has no character. -/
  | text (s : Option String)
  /-- A symbol, or the operator `in`. -/
  | symbol (s : String)
  deriving DecidableEq, Repr

/-- What the tokens so far call for. -/
inductive Due where
  /-- An operand, or a sign or a bracket before one. -/
  | operand
  /-- An operator, or a bracket or a comma after an operand. -/
  | operator
  /-- The name of a field. -/
  | field
  deriving DecidableEq, Repr

/-- What is due after a token. -/
def Token.due : Token → Due
  | symbol s =>
    if s = "." then .field
    else if [")", "]", "\x7d"].contains s then .operator
    else .operand
  | _ => .operator

/-- Whether a name may begin with this character. -/
def isNameStart (c : Char) : Bool := c.isAlpha || c = '_'

/-- Whether a name may go on with this character. -/
def isNameRest (c : Char) : Bool := c.isAlphanum || c = '_'

/-- The symbols, longer ones before their beginnings. -/
def symbols : List String :=
  ["&&", "||", "==", "!=", "<=", ">=", "<", ">", "+", "-", "*", "/", "%", "!", "?", ":", ",", ".",
    "(", ")", "[", "]", "\x7b", "\x7d"]

/-! ### Quoted texts -/

/-- The number written with these hexadecimal digits. -/
def hexNumber? (cs : List Char) : Option Nat :=
  cs.foldlM (fun n c => (Json.hexValue? c).map (n * 16 + ·)) 0

/-- The number written with these octal digits. -/
def octalNumber? (cs : List Char) : Option Nat :=
  cs.foldlM (fun n c => if '0' ≤ c ∧ c ≤ '7' then some (n * 8 + (c.toNat - 48)) else none) 0

/-- The character that a letter after a backslash stands for. -/
def letterEscape? (c : Char) : Option Char :=
  [('a', Char.ofNat 7), ('b', Char.ofNat 8), ('f', Char.ofNat 12), ('n', '\n'), ('r', '\r'),
    ('t', '\t'), ('v', Char.ofNat 11), ('"', '"'), ('\'', '\''), ('\\', '\\')].lookup c

/-- How many hexadecimal digits follow this letter after a backslash. -/
def hexWidth (c : Char) : Nat :=
  if c = 'x' then 2 else if c = 'u' then 4 else if c = 'U' then 8 else 0

/-- The text with its escapes replaced and its line ends dropped; an unknown escape stays as it is
written, and an octal one with a wrong digit makes the text worthless. -/
def unescape : Nat → List Char → Option (List Char)
  | 0, s => some s
  | _ + 1, [] => some []
  | fuel + 1, '\\' :: c :: rest =>
    match letterEscape? c with
    | some d => (unescape fuel rest).map (d :: ·)
    | none =>
      let width := hexWidth c
      let digits := rest.take width
      if width ≠ 0 ∧ digits.length = width ∧ (digits.all fun d => (Json.hexValue? d).isSome) then
        match hexNumber? digits with
        | some n =>
          if n < 0x110000 then (unescape fuel (rest.drop width)).map (Char.ofNat n :: ·) else none
        | none => none
      else if c.isDigit && (rest.take 2).length = 2 && (rest.take 2).all Char.isDigit then
        match octalNumber? (c :: rest.take 2) with
        | some n => (unescape fuel (rest.drop 2)).map (Char.ofNat n :: ·)
        | none => none
      else (unescape fuel (c :: rest)).map ('\\' :: ·)
  | fuel + 1, c :: rest =>
    if c = '\n' then unescape fuel rest else (unescape fuel rest).map (c :: ·)

/-- The characters up to the closing quotes, and the rest; a backslash protects the next character. -/
def untilQuote (stop : List Char) (multiline : Bool) : List Char → Option (List Char × List Char)
  | [] => none
  | '\\' :: c :: rest =>
    if c = '\n' && !multiline then none
    else (untilQuote stop multiline rest).map fun p => ('\\' :: c :: p.1, p.2)
  | c :: rest =>
    if stop.isPrefixOf (c :: rest) then some ([], (c :: rest).drop stop.length)
    else if c = '\n' && !multiline then none
    else (untilQuote stop multiline rest).map fun p => (c :: p.1, p.2)

/-- A quoted text at the start, between single quotes or three of them in a row. -/
def quotedToken? (raw : Bool) (s : List Char) : Option (Token × List Char) :=
  match s with
  | q :: rest =>
    if q = '"' || q = '\'' then
      let long := [q, q].isPrefixOf rest && (untilQuote [q, q, q] true (rest.drop 2)).isSome
      let found := if long then untilQuote [q, q, q] true (rest.drop 2) else untilQuote [q] false rest
      found.map fun p =>
        let body := if raw then some p.1 else unescape (p.1.length + 1) p.1
        (.text (body.map String.ofList), p.2)
    else none
  | [] => none

/-! ### Numbers -/

/-- A number without its sign at the start: hexadecimal, broken or whole. -/
def numberToken? (negative : Bool) (s : List Char) : Option (Token × List Char) :=
  let signed (n : Nat) : Token := .whole (if negative then -(n : Int) else n)
  match s with
  | '0' :: 'x' :: c :: rest =>
    if (Json.hexValue? c).isSome then
      let digits := (c :: rest).takeWhile fun d => (Json.hexValue? d).isSome
      some (signed ((hexNumber? digits).getD 0), (c :: rest).drop digits.length)
    else some (signed 0, 'x' :: c :: rest)
  | _ =>
    let whole := s.takeWhile Char.isDigit
    let rest := s.dropWhile Char.isDigit
    let (hasPoint, part, rest') :=
      match rest with
      | '.' :: r => (true, r.takeWhile Char.isDigit, r.dropWhile Char.isDigit)
      | r => (false, [], r)
    let (exponent, rest'') := Json.takeExponent rest'
    if whole.isEmpty && part.isEmpty then none
    else if !hasPoint && exponent.isNone then some (signed (Decimal.natOfDigits 0 whole), rest)
    else
      let written := s.take (s.length - rest''.length)
      some (.broken (if negative then '-' :: written else written), rest'')

/-- A number at the start, its minus sign with it. -/
def signedToken? (s : List Char) : Option (Token × List Char) :=
  match s with
  | '-' :: rest => numberToken? true rest
  | s => numberToken? false s

/-! ### All tokens -/

/-- A name at the start. -/
def nameToken? (s : List Char) : Option (Token × List Char) :=
  match s with
  | c :: rest =>
    if isNameStart c then
      some (.name (String.ofList (c :: rest.takeWhile isNameRest)), rest.dropWhile isNameRest)
    else none
  | [] => none

/-- A symbol at the start. -/
def symbolToken? (s : List Char) : Option (Token × List Char) :=
  (symbols.find? fun t => t.toList.isPrefixOf s).map fun t => (.symbol t, s.drop t.length)

/-- An operand of one token at the start: a text, a name or a number. -/
def operandToken? (s : List Char) : Option (Token × List Char) :=
  let quoted :=
    match s with
    | c :: rest => if c = 'r' || c = 'R' then quotedToken? true rest else quotedToken? false s
    | [] => none
  (quoted.or (nameToken? s)).or (signedToken? s)

/-- The token at the start where `due` is called for. -/
def nextToken? (due : Due) (s : List Char) : Option (Token × List Char) :=
  match due with
  | .field => nameToken? s
  | .operand => (operandToken? s).or (symbolToken? s)
  | .operator =>
    match s with
    | 'i' :: 'n' :: rest => some (.symbol "in", rest)
    | s => symbolToken? s

/-- The tokens of a text.  Every step takes at least one character, so the length of the text is enough
fuel. -/
def tokens? : Nat → Due → List Char → Option (List Token)
  | 0, _, s => if s.isEmpty then some [] else none
  | _ + 1, _, [] => some []
  | fuel + 1, due, c :: rest =>
    if c = ' ' || c = '\t' || c = '\n' || c = '\r' || c = Char.ofNat 12 then tokens? fuel due rest
    else if ['/', '/'].isPrefixOf (c :: rest) then tokens? fuel due (rest.dropWhile (· ≠ '\n'))
    else
      match nextToken? due (c :: rest) with
      | some (t, rest') => (tokens? fuel t.due rest').map (t :: ·)
      | none => none

/-- The tokens of an expression, if it has no other parts. -/
def tokenize? (s : String) : Option (List Token) := tokens? (s.length + 1) .operand s.toList

end ChatFlow.Expression
