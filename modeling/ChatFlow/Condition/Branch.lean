import ChatFlow.Condition.Compare
import ChatFlow.Value.Fields
import ChatFlow.Variables.Scope

/-!
# Choosing a branch

The conditions of a branching node are tried in their order.  The first one
that holds chooses its target, and the default target is chosen when none
holds; an empty target is no target.
-/

namespace ChatFlow.Condition

/-- A condition: the path of a variable, an operator, a value that may be a template, and the target
that is chosen when the condition holds. -/
structure Test where
  path : Value
  operator : Value
  value : Value
  next : Value

/-- A condition from its fields; the operator is equality when it is left out. -/
def Test.ofFields (fields : Entries Value) : Test where
  path := Value.ofOption (fields.find? "variable")
  operator := (fields.find? "operator").getD (.str "==")
  value := Value.ofOption (fields.find? "value")
  next := Value.ofOption (fields.find? "next")

/-- A path, with or without the braces of a placeholder around it. -/
def pathOf (v : Value) : String :=
  let path := if v.truthy then Text.strip v.display else ""
  let chars := path.toList
  if Text.startsWith ['\x7b', '\x7b'] chars && Text.endsWith ['\x7d', '\x7d'] chars then
    Text.strip (String.ofList ((chars.drop 2).take (chars.length - 4)))
  else path

/-- The operand that the variable of a condition is; the empty path names no variable. -/
def Test.left (t : Test) (scope : Scope) : Except Failure Operand :=
  let path := pathOf t.path
  if path = "" then .ok none else scope.read path

/-- Whether a condition holds. -/
def Test.holds (t : Test) (scope : Scope) : Except Failure Bool := do
  let left ← t.left scope
  let right ← scope.fillText t.value
  compare false left t.operator.display (some right)

/-- What a target leads to; an empty target leads nowhere. -/
def target? (v : Value) : Option Value := if v.truthy then some v else none

/-- The target of the first condition that holds, else the default one. -/
def select (scope : Scope) (default_ : Value) : List Test → Except Failure (Option Value)
  | [] => .ok (target? default_)
  | t :: rest => do
    if ← t.holds scope then return target? t.next else select scope default_ rest

/-! ### Conditions as they were sent -/

/-- Whether a condition that was sent holds; what is no object is no condition. -/
def holdsSent (scope : Scope) (v : Value) : Except Failure Bool := do
  (Test.ofFields (← v.parts "get")).holds scope

/-- The target of the first of these conditions that holds, else the default one; what comes after
that one need not be a condition. -/
def selectSent (scope : Scope) (default_ : Value) : List Value → Except Failure (Option Value)
  | [] => .ok (target? default_)
  | v :: rest => do
    if ← holdsSent scope v then return target? (Test.ofFields v.fields).next
    else selectSent scope default_ rest

end ChatFlow.Condition
