import ChatFlow.Expression.Evaluate
import ChatFlow.Text.Blank

/-!
# Transforms

A transform computes a value from the variables of a run.  Its expression sees
all of them in the map `vars`, and each input variable under a name of its own:
its path with an underscore in the place of every character that a name cannot
have.
-/

namespace ChatFlow.Expression

/-- The name under which an expression sees an input variable. -/
def bindingName (path : String) : String :=
  let chars := (Text.stripChars path.toList).map fun c =>
    if c.toNat < 128 && isNameRest c then c else '_'
  String.ofList <| match chars with
    | c :: rest => if c.isDigit then '_' :: c :: rest else c :: rest
    | [] => []

/-- The names bound for the input variables, each to the value that `lookup` gives, after what is
bound already. -/
def bindInputs (lookup : String → Except Failure Value) (acc : Bindings) :
    List String → Except Failure Bindings
  | [] => .ok acc
  | path :: rest => do
    let d ← Datum.ofValue (← lookup path)
    bindInputs lookup (acc.put (bindingName path) d) rest

/-- Everything that an expression sees. -/
def activation (vars : Entries Value) (inputs : List String)
    (lookup : String → Except Failure Value) : Except Failure Bindings := do
  let vars ← Datum.ofValue (.object vars)
  bindInputs lookup [("vars", vars)] inputs

/-- The value of a transform. -/
def transform (expression : String) (vars : Entries Value) (inputs : List String)
    (lookup : String → Except Failure Value) : Except Failure Value := do
  let text := Text.strip expression
  if text = "" then .error (.transform .empty)
  match parse? text with
  | none => .error (.transform .unreadable)
  | some e =>
    let env ← activation vars inputs lookup
    if env.has "" then .error (.badStatement "Invalid name ")
    match ← e.eval env with
    | some d => return d.toValue
    | none => .error (.transform .noValue)

end ChatFlow.Expression
