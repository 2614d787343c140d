import ChatFlow.Expression.Function
import ChatFlow.Expression.Syntax

/-!
# The value of an expression

Evaluation is strict, and a part without a value makes the whole one without a
value, with three exceptions: `&&` is false as soon as one side is, `||` is true
as soon as one side is, and a choice evaluates only the branch that it takes.

An outcome is a datum or `none`.  Some faults cannot be passed over that way
and end the whole evaluation: those inside `map`, `filter` and `exists_one`,
and going through the items of something that has none.  A choice and a map
stop a fault of the second kind in their parts.
-/

namespace ChatFlow.Expression

/-- What names stand for. -/
abbrev Bindings := Entries Datum

/-! ### Operators -/

/-- Both: false if either is false, else what a true side leaves of the other one. -/
def bothOf (a b : Outcome) : Outcome :=
  match a, b with
  | some (.bool p), some (.bool q) => some (.bool (p && q))
  | some (.bool p), v => if p then v else some (.bool false)
  | v, some (.bool q) => if q then v else some (.bool false)
  | _, _ => none

/-- Either: true if either is true, else what a false side leaves of the other one. -/
def eitherOf (a b : Outcome) : Outcome :=
  match a, b with
  | some (.bool p), some (.bool q) => some (.bool (p || q))
  | some (.bool p), v => if p then some (.bool true) else v
  | v, some (.bool q) => if q then some (.bool true) else v
  | _, _ => none

/-- Applies an operator. -/
def BinaryOp.apply (op : BinaryOp) (a b : Outcome) : Except Failure Outcome :=
  let onData (f : Datum → Datum → Outcome) : Except Failure Outcome := .ok do f (← a) (← b)
  let verdict (f : Datum → Datum → Option Bool) : Except Failure Outcome :=
    onData fun x y => (f x y).map Datum.bool
  match op with
  | or => .ok (eitherOf a b)
  | and => .ok (bothOf a b)
  | equal => verdict Datum.equals
  | notEqual => verdict fun x y => (x.equals y).map (!·)
  | less => verdict (Datum.ordered .less)
  | greater => verdict (Datum.ordered .greater)
  | atMost => verdict (Datum.ordered .atMost)
  | atLeast => verdict (Datum.ordered .atLeast)
  | isIn => verdict Datum.isIn
  | add => onData Expression.add
  | subtract => onData (arithmetic (· - ·) (· - ·))
  | multiply => onData Expression.multiply
  | divide => onData Expression.divide
  | remainder =>
    match a, b with
    | some x, some y => Expression.remainder x y
    | _, _ => .ok none

/-! ### Maps -/

/-- The map with these entries; with a key that comes twice it has no value. -/
def mapOf (entries : List (Datum × Datum)) : Outcome :=
  let step (acc : Option (List (Datum × Datum))) (e : Datum × Datum) :=
    acc.bind fun es =>
      match e.1 with
      | .list _ _ | .map _ => none
      | k =>
        match lookUp k es with
        | some none => some (es ++ [e])
        | _ => none
  (entries.foldl step (some [])).map Datum.map

/-- All data of a list of outcomes, if none of them is a fault. -/
def allData : List Outcome → Option (List Datum)
  | [] => some []
  | o :: rest => do
    let d ← o
    let ds ← allData rest
    return d :: ds

/-! ### Going through items -/

/-- The functions that go through the items of a collection with a name for the item. -/
inductive Walk where
  | each | keep | every | any | one
  deriving DecidableEq

/-- The walk of this name. -/
def Walk.ofName? (s : String) : Option Walk :=
  [("map", each), ("filter", keep), ("all", every), ("exists", any), ("exists_one", one)].lookup s

/-- The outcome as a datum; a fault ends the evaluation. -/
def demand (o : Outcome) : Except Failure Datum :=
  match o with
  | some d => .ok d
  | none => .error (.transform .noValue)

/-- Goes through items; `body` gives the outcome for each of them. -/
def Walk.run (w : Walk) (items : List Datum) (body : Datum → Except Failure Outcome) :
    Except Failure Outcome :=
  match w with
  | each => do
    let ds ← items.mapM fun x => do demand (← body x)
    return some (.list ds .given)
  | keep => do
    let ds ← items.filterMapM fun x => do
      let d ← demand (← body x)
      return if d.truthy then some x else none
    return some (.list ds .given)
  | one => do
    let hits ← items.filterM fun x => do return (← demand (← body x)).truthy
    return some (.bool (hits.length = 1))
  | every => items.foldlM (fun acc x => do return bothOf acc (← faultless x)) (some (.bool true))
  | any => items.foldlM (fun acc x => do return eitherOf acc (← faultless x)) (some (.bool false))
where
  /-- The outcome for an item, a fault that would end the evaluation being an ordinary one. -/
  faultless (x : Datum) : Except Failure Outcome :=
    match body x with
    | .error (.transform _) => .ok none
    | r => r

/-- The bindings in which a name stands for a datum. -/
def Bindings.bind (env : Bindings) (name : String) (d : Datum) : Bindings := (name, d) :: env

/-- A walk over a datum has a name for the item and an expression about it, and no more arguments. -/
def badArguments (count : Nat) : Failure :=
  if count = 0 then .noPlace
  else if count = 1 then .badStatement "not enough values to unpack (expected 2, got 1)"
  else .badStatement "too many values to unpack (expected 2)"

/-- Goes through the items of a datum, each bound to the name. -/
def Walk.over (w : Walk) (d : Datum) (name? : Option String)
    (body : (Bindings → Bindings) → Except Failure Outcome) : Except Failure Outcome :=
  match d.items? with
  | none => .error (.wrongKind (Text.quoted d.kindName ++ " object is not iterable"))
  | some items => w.run items fun item =>
    match name? with
    | some name => body fun env => env.bind name item
    | none => .error (.wrongKind "expected string or bytes-like object, got 'NoneType'")

/-- The outcome of a part in which a datum of a wrong kind is an ordinary fault. -/
def sheltered (r : Except Failure Outcome) : Except Failure Outcome :=
  match r with
  | .error (.wrongKind _) => .ok none
  | r => r

/-- The outcome of a map whose parts may also be called with wrong arguments. -/
def shelteredMap (r : Except Failure Outcome) : Except Failure Outcome :=
  match r with
  | .error (.wrongKind _) | .error (.badStatement _) => .ok none
  | r => r

/-! ### Evaluation -/

mutual

/-- The outcome of an expression. -/
def Expr.eval : Expr → Bindings → Except Failure Outcome
  | .null, _ => .ok (some .null)
  | .bool b, _ => .ok (some (.bool b))
  | .int n, _ => .ok (wholeOutcome n)
  | .double x, _ => .ok (some (.double x .given))
  | .text s, _ => .ok (s.map fun s => .text s .given)
  | .name s, env => .ok (Entries.find? env s)
  | .rooted s args, env => do
    let _ ← Expr.evalAll args env
    return Entries.find? env s
  | .list items, env => do
    let os ← Expr.evalAll items env
    return (allData os).map fun ds => .list ds .given
  | .map entries, env => shelteredMap do
    let os ← Expr.evalEntries entries env
    return os.bind mapOf
  | .select e field, env => do
    let o ← Expr.eval e env
    return o.bind fun d => selected d field
  | .index e key, env => do
    let o ← Expr.eval e env
    let k ← Expr.eval key env
    return o.bind fun d => k.bind fun k => indexed d k
  | .call f args, env => do
    let os ← Expr.evalAll args env
    if f = "has" then
      return match os with
        | o :: _ => some (.bool o.isSome)
        | [] => none
    else if f = "dyn" then return os.head?.join
    else
      match allData os with
      | some ds => applyFunction f ds
      | none => return none
  | .method e f args, env => do
    let o ← Expr.eval e env
    match Walk.ofName? f with
    | some w =>
      match o with
      | none => return none
      | some d => Expr.evalOver args w d env
    | none =>
      let os ← Expr.evalAll args env
      match allData (o :: os) with
      | some ds => applyFunction f ds
      | none => return none
  | .build e fields, env => do
    let _ ← Expr.eval e env
    let _ ← Expr.evalAll fields env
    return none
  | .not e, env => do
    match ← Expr.eval e env with
    | some (.bool b) => return some (.bool !b)
    | _ => return none
  | .negate e, env => do
    let o ← Expr.eval e env
    return o.bind negated
  | .binary op a b, env => do
    let x ← Expr.eval a env
    let y ← Expr.eval b env
    op.apply x y
  | .choose c yes no, env => do
    let o ← Expr.eval c env
    let taken ← sheltered (if (o.map Datum.truthy).getD true then Expr.eval yes env else Expr.eval no env)
    match o with
    | some (.bool _) => return taken
    | _ => return none

/-- The outcome of a walk over a datum with these arguments. -/
def Expr.evalOver : List Expr → Walk → Datum → Bindings → Except Failure Outcome
  | [x, body], w, d, env => w.over d x.lastName? fun within => Expr.eval body (within env)
  | args, _, _, _ => .error (badArguments args.length)

/-- The outcomes of several expressions. -/
def Expr.evalAll : List Expr → Bindings → Except Failure (List Outcome)
  | [], _ => .ok []
  | e :: rest, env => do
    let o ← Expr.eval e env
    let os ← Expr.evalAll rest env
    return o :: os

/-- The keys and data of the entries of a map, if none of them is a fault. -/
def Expr.evalEntries : List (Expr × Expr) → Bindings → Except Failure (Option (List (Datum × Datum)))
  | [], _ => .ok (some [])
  | (k, e) :: rest, env => do
    let key ← Expr.eval k env
    let o ← Expr.eval e env
    let os ← Expr.evalEntries rest env
    return do
      let k ← key
      let d ← o
      let es ← os
      return (k, d) :: es

end

end ChatFlow.Expression
