import ChatFlow.Decimal.Reading

/-!
# Numbers typed into a field

A field is stricter than a reader of running text: digits are ASCII, and the
separator controls do not count as blanks.  Underscores may stand anywhere
inside, but never two together.

* `fieldFloat?`: a decimal with blanks around it, or one with underscores and
  no blanks.
* `fieldInt?`: a plain integer, or one with blanks, a plus sign, zeros in front,
  a part of zeros behind a point, or underscores.
-/

namespace ChatFlow.Decimal

open ChatFlow.Text

/-- Whether two underscores stand together. -/
def hasDoubleUnderscore : List Char → Bool
  | '_' :: '_' :: _ => true
  | _ :: rest => hasDoubleUnderscore rest
  | [] => false

/-- The text without its underscores, if it has some, all of them inside and no two together. -/
def joinUnderscores? (s : List Char) : Option (List Char) :=
  if s.contains '_' && s.head? ≠ some '_' && s.getLast? ≠ some '_' && !hasDoubleUnderscore s then
    some (s.filter (· ≠ '_'))
  else none

/-- A double from the text of a field. -/
def fieldFloat? (s : String) : Option Float :=
  (readNumber? (trim isWhiteSpace s.toList)).orElse fun _ =>
    (joinUnderscores? s.toList).bind readNumber?

/-- An integer in its plain form: an optional minus, then a zero alone or digits that begin with
another, all of it of bounded length. -/
def plainInt? (s : List Char) : Option Int :=
  let (negative, ds) :=
    match s with
    | '-' :: rest => (true, rest)
    | rest => (false, rest)
  if ds.isEmpty || !ds.all Char.isDigit || (ds.head? = some '0' && ds ≠ ['0'])
      || mostDigits < s.length then none
  else
    let n : Int := natOfDigits 0 ds
    some (if negative then -n else n)

/-- What follows the zeros and underscores in front of a number; `last` is the one of them passed
last, which stays where no other digit follows. -/
def afterZeros? (last : Char) : List Char → Option (List Char)
  | [] => some [last]
  | c :: rest =>
    if c = '0' || c = '_' then afterZeros? c rest
    else if c.isDigit then some (c :: rest)
    else if c = '.' then some (last :: c :: rest)
    else none

/-- The text without needless zeros in front, if it begins with a digit or a minus. -/
def dropFrontZeros? : List Char → Option (List Char)
  | '0' :: rest => afterZeros? '0' rest
  | c :: rest => if c.isDigit || c = '-' then some (c :: rest) else none
  | [] => none

/-- The text without a point that at least one zero and nothing else follows. -/
def dropZeroPart (s : List Char) : List Char :=
  match s.dropWhile (· ≠ '.') with
  | _ :: zeros =>
    if !zeros.isEmpty && zeros.all (· = '0') then s.takeWhile (· ≠ '.') else s
  | [] => s

/-- The plain form of an integer that is written with more than it needs. -/
def cleanInt? (s : List Char) : Option (List Char) := do
  let body ←
    match trim isWhiteSpace s with
    | '+' :: '-' :: _ => none
    | '+' :: rest => some rest
    | rest => some rest
  let digits := dropZeroPart (← dropFrontZeros? body)
  return (joinUnderscores? digits).getD digits

/-- An integer from the text of a field. -/
def fieldInt? (s : String) : Option Int :=
  (plainInt? s.toList).orElse fun _ => (cleanInt? s.toList).bind plainInt?

/-- Spaces, a sign, zeros on both sides and underscores all leave the same number. -/
example : ["12", " 12 ", "+12", "0012", "12.00", "1_2", "0_12"].map fieldInt?
    = List.replicate 7 (some 12) := by decide +kernel

/-- A bare point, a second sign and a doubled underscore make no integer. -/
example : ["12.", "+-12", "-012", "1__2", ""].map fieldInt? = List.replicate 5 none := by
  decide +kernel

end ChatFlow.Decimal
