import ChatFlow.Expression.Token

/-!
# The syntax of expressions

From the loosest to the tightest: a choice `c ? a : b`, or, and, the relations,
sums, products, signs, and selection, indexing and calls after a primary
expression.  Operators of one level group to the left.  The branches of a choice
other than the last are no choices themselves.
-/

namespace ChatFlow.Expression

/-- The operators between two operands. -/
inductive BinaryOp where
  | or | and
  | less | atMost | greater | atLeast | equal | notEqual | isIn
  | add | subtract | multiply | divide | remainder
  deriving DecidableEq, Repr

/-- An expression. -/
inductive Expr where
  | null
  | bool (b : Bool)
  | int (n : Int)
  | double (x : Float)
  /-- A quoted text; none when an escape in it has no character. -/
  | text (s : Option String)
  | name (s : String)
  /-- A name with a point before it, and what may stand in parentheses after it. -/
  | rooted (name : String) (args : List Expr)
  | list (items : List Expr)
  | map (entries : List (Expr × Expr))
  | select (of : Expr) (field : String)
  | index (of key : Expr)
  | call (function : String) (args : List Expr)
  | method (of : Expr) (function : String) (args : List Expr)
  /-- An expression with named fields in braces after it. -/
  | build (of : Expr) (fields : List Expr)
  | not (e : Expr)
  | negate (e : Expr)
  | binary (op : BinaryOp) (a b : Expr)
  | choose (condition yes no : Expr)
  deriving Inhabited

/-- The operators of each level, the loosest first. -/
def levels : List (List (Token × BinaryOp)) :=
  [[(.symbol "||", .or)],
   [(.symbol "&&", .and)],
   [(.symbol "<", .less), (.symbol "<=", .atMost), (.symbol ">", .greater),
    (.symbol ">=", .atLeast), (.symbol "==", .equal), (.symbol "!=", .notEqual),
    (.symbol "in", .isIn)],
   [(.symbol "+", .add), (.symbol "-", .subtract)],
   [(.symbol "*", .multiply), (.symbol "/", .divide), (.symbol "%", .remainder)]]

/-- The expression that a name alone is. -/
def wordExpr (s : String) : Expr :=
  if s = "true" then .bool true
  else if s = "false" then .bool false
  else if s = "null" then .null
  else .name s

/-- Whether a word can be the name of a field. -/
def isFieldName (s : String) : Bool := s ≠ "true" && s ≠ "false"

/-- The rest of the tokens after the symbol `s`. -/
def expect? (s : String) : List Token → Option (List Token)
  | .symbol t :: rest => if s = t then some rest else none
  | _ => none

mutual

/-- An expression at the start of the tokens, with the tokens after it. -/
def parseExpr? : Nat → List Token → Option (Expr × List Token)
  | 0, _ => none
  | fuel + 1, ts => do
    let (c, rest) ← parseLevel? fuel levels ts
    match rest with
    | .symbol "?" :: rest =>
      let (yes, rest) ← parseLevel? fuel levels rest
      let rest ← expect? ":" rest
      let (no, rest) ← parseExpr? fuel rest
      return (.choose c yes no, rest)
    | _ => return (c, rest)

/-- An expression whose operators outside brackets are of these levels. -/
def parseLevel? : Nat → List (List (Token × BinaryOp)) → List Token → Option (Expr × List Token)
  | 0, _, _ => none
  | fuel + 1, [], ts => parseSigned? fuel ts
  | fuel + 1, ops :: tighter, ts => do
    let (a, rest) ← parseLevel? fuel tighter ts
    parseOperators? fuel ops tighter a rest

/-- The operators of one level and their right operands, after the left operand `a`. -/
def parseOperators? : Nat → List (Token × BinaryOp) → List (List (Token × BinaryOp)) → Expr →
    List Token → Option (Expr × List Token)
  | 0, _, _, _, _ => none
  | _ + 1, _, _, a, [] => some (a, [])
  | fuel + 1, ops, tighter, a, t :: rest =>
    match ops.lookup t with
    | some op => do
      let (b, rest) ← parseLevel? fuel tighter rest
      parseOperators? fuel ops tighter (.binary op a b) rest
    | none => some (a, t :: rest)

/-- An operand with signs before it. -/
def parseSigned? : Nat → List Token → Option (Expr × List Token)
  | 0, _ => none
  | fuel + 1, ts =>
    match ts with
    | .symbol "!" :: rest => (parseSigned? fuel rest).map fun p => (.not p.1, p.2)
    | .symbol "-" :: rest => (parseSigned? fuel rest).map fun p => (.negate p.1, p.2)
    | _ => parseMember? fuel ts

/-- A primary expression with what is selected from it. -/
def parseMember? : Nat → List Token → Option (Expr × List Token)
  | 0, _ => none
  | fuel + 1, ts => do
    let (e, rest) ← parsePrimary? fuel ts
    parseSuffix? fuel e rest

/-- Selections, calls, indices and fields after the expression `e`. -/
def parseSuffix? : Nat → Expr → List Token → Option (Expr × List Token)
  | 0, _, _ => none
  | fuel + 1, e, ts =>
    match ts with
    | .symbol "." :: .name f :: rest =>
      if isFieldName f then
        match rest with
        | .symbol "(" :: rest => do
          let (args, rest) ← parseArguments? fuel ")" rest
          parseSuffix? fuel (.method e f args) rest
        | rest => parseSuffix? fuel (.select e f) rest
      else none
    | .symbol "." :: _ => none
    | .symbol "[" :: rest => do
      let (key, rest) ← parseExpr? fuel rest
      let rest ← expect? "]" rest
      parseSuffix? fuel (.index e key) rest
    | .symbol "\x7b" :: .symbol "\x7d" :: rest => parseSuffix? fuel (.build e []) rest
    | .symbol "\x7b" :: rest => do
      let (fields, rest) ← parseFields? fuel rest
      parseSuffix? fuel (.build e fields) rest
    | _ => some (e, ts)

/-- A literal, a name, a call, a list, a map or an expression in parentheses. -/
def parsePrimary? : Nat → List Token → Option (Expr × List Token)
  | 0, _ => none
  | fuel + 1, ts =>
    match ts with
    | .whole n :: rest => some (.int n, rest)
    | .broken ds :: rest => (Decimal.readNumber? ds).map fun x => (.double x, rest)
    | .text s :: rest => some (.text s, rest)
    | .symbol "." :: .name f :: .symbol "(" :: rest =>
      if isFieldName f then (parseArguments? fuel ")" rest).map fun p => (.rooted f p.1, p.2)
      else none
    | .symbol "." :: .name f :: rest => if isFieldName f then some (.rooted f [], rest) else none
    | .name f :: .symbol "(" :: rest =>
      match wordExpr f with
      | .name f => (parseArguments? fuel ")" rest).map fun p => (.call f p.1, p.2)
      | _ => none
    | .name s :: rest => some (wordExpr s, rest)
    | .symbol "(" :: rest => do
      let (e, rest) ← parseExpr? fuel rest
      let rest ← expect? ")" rest
      return (e, rest)
    | .symbol "[" :: rest => (parseArguments? fuel "]" rest).map fun p => (.list p.1, p.2)
    | .symbol "\x7b" :: .symbol "\x7d" :: rest => some (.map [], rest)
    | .symbol "\x7b" :: rest => (parseEntries? fuel rest).map fun p => (.map p.1, p.2)
    | _ => none

/-- Expressions with commas between them, up to the symbol `stop`. -/
def parseArguments? : Nat → String → List Token → Option (List Expr × List Token)
  | 0, _, _ => none
  | fuel + 1, stop, ts =>
    match expect? stop ts with
    | some rest => some ([], rest)
    | none => parseItems? fuel stop ts

/-- At least one expression, with commas between them, up to the symbol `stop`. -/
def parseItems? : Nat → String → List Token → Option (List Expr × List Token)
  | 0, _, _ => none
  | fuel + 1, stop, ts => do
    let (e, rest) ← parseExpr? fuel ts
    match rest with
    | .symbol "," :: rest => (parseItems? fuel stop rest).map fun p => (e :: p.1, p.2)
    | _ => (expect? stop rest).map fun rest => ([e], rest)

/-- At least one entry of a map, with commas between them, up to the closing brace. -/
def parseEntries? : Nat → List Token → Option (List (Expr × Expr) × List Token)
  | 0, _ => none
  | fuel + 1, ts => do
    let (k, rest) ← parseExpr? fuel ts
    let rest ← expect? ":" rest
    let (e, rest) ← parseExpr? fuel rest
    match rest with
    | .symbol "," :: rest => (parseEntries? fuel rest).map fun p => ((k, e) :: p.1, p.2)
    | _ => (expect? "\x7d" rest).map fun rest => ([(k, e)], rest)

/-- At least one named field, with commas between them, up to the closing brace. -/
def parseFields? : Nat → List Token → Option (List Expr × List Token)
  | 0, _ => none
  | fuel + 1, ts =>
    match ts with
    | .name f :: .symbol ":" :: rest => do
      if !isFieldName f then none
      let (e, rest) ← parseExpr? fuel rest
      match rest with
      | .symbol "," :: rest => (parseFields? fuel rest).map fun p => (e :: p.1, p.2)
      | _ => (expect? "\x7d" rest).map fun rest => ([e], rest)
    | _ => none

end

/-! ### Names -/

mutual

/-- The last name in an expression that stands for a datum. -/
def Expr.lastName? : Expr → Option String
  | .name s => some s
  | .rooted _ args | .call _ args | .list args => Expr.lastNameIn? args
  | .map entries => Expr.lastKeyName? entries
  | .select e _ | .not e | .negate e => Expr.lastName? e
  | .index a b | .binary _ a b => (Expr.lastName? b).or (Expr.lastName? a)
  | .method e _ args | .build e args => (Expr.lastNameIn? args).or (Expr.lastName? e)
  | .choose c yes no => ((Expr.lastName? no).or (Expr.lastName? yes)).or (Expr.lastName? c)
  | _ => none

/-- The last name in a row of expressions. -/
def Expr.lastNameIn? : List Expr → Option String
  | [] => none
  | e :: rest => (Expr.lastNameIn? rest).or (Expr.lastName? e)

/-- The last name in the entries of a map. -/
def Expr.lastKeyName? : List (Expr × Expr) → Option String
  | [] => none
  | (k, e) :: rest => ((Expr.lastKeyName? rest).or (Expr.lastName? e)).or (Expr.lastName? k)

end

/-- The expression that a text is. -/
def parse? (s : String) : Option Expr := do
  let ts ← tokenize? s
  match ← parseExpr? (16 * (ts.length + 1)) ts with
  | (e, []) => some e
  | _ => none

end ChatFlow.Expression
