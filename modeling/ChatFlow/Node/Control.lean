import ChatFlow.Condition.Branch
import ChatFlow.Document.Graph
import ChatFlow.Node.Result
import ChatFlow.Outside.WhatsApp.Payload

/-!
# Nodes that steer the run

Triggers do nothing, a delay lets time pass, a branch chooses where to go on,
and an end stops the run, perhaps with a last message.
-/

namespace ChatFlow.Control

/-- A trigger is where a run begins. -/
def trigger : Handler := fun _ _ _ => return { output := [("triggered", .bool true)] }

/-- The units of time with their seconds. -/
def units : List (String × Float) :=
  [("seconds", 1), ("minutes", 60), ("hours", 3600), ("days", 86400)]

/-- The unit that a word stands for; an unknown word stands for seconds. -/
def unitOf (word : String) : String × Float :=
  let word := Text.lower word
  match units.lookup word with
  | some seconds => (word, seconds)
  | none => ("seconds", 1)

/-- The amount of a delay; one that is no number is five. -/
def amountOf (v : Value) : Float := (Decimal.readFloat? v.display).getD 5

/-- The seconds of a delay, never fewer than none. -/
def secondsOf (amount unit : Float) : Float :=
  let seconds := amount * unit
  if seconds > 0 then seconds else 0

/-- Lets time pass. -/
def delay : Handler := fun _ _ f => do
  let amount := amountOf (f.get "amount")
  let (unit, factor) := unitOf (f.text "unit")
  let seconds := secondsOf amount factor
  ExceptT.lift (Task.query (.sleep seconds))
  return { output := [("delayed", .bool true), ("delayAmount", .float amount),
    ("delayUnit", .str unit), ("delaySeconds", .float seconds)] }

/-- The conditions of a branch. -/
def tests (f : Filled) : List Condition.Test := (f.objects "conditions").map Condition.Test.ofFields

/-- The target that a branch chooses. -/
def chosen (c : NodeContext) (f : Filled) : Except Failure (Option Value) :=
  Condition.select c.scope (f.get "default_next") (tests f)

/-- Goes on where the conditions say. -/
def branch : Handler := fun c n f => do
  let target := Value.ofOption (← Task.attempt (chosen c f))
  match c.document.branchTarget n.id (target.text?.getD "") with
  | some next =>
    return { output := [("matched", target), ("nextNode", .str next)], next := some next }
  | none => return { output := [("matched", .null)], stop := true }

/-- Ends the run. -/
def stop : Handler := fun c _ f => do
  let text ← c.fill (f.text "text")
  let output : Entries Value := [("ended", .bool true)]
  match c.phone? with
  | some phone =>
    if text = "" then return { output := output, stop := true }
    let d ← WhatsApp.send c.accounts.whatsapp (WhatsApp.textPayload phone text)
    return { output := output ++ [("sent", .bool d.success)], stop := true }
  | none => return { output := output, stop := true }

end ChatFlow.Control
