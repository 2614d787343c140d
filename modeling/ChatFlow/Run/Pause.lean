import ChatFlow.Value.Fields
import ChatFlow.Value.Render

/-!
# Paused runs

A run that waits for a reply is paused: its place, its variables and what it
waits for are kept under the conversation.  A conversation has one pause at
most; a later one takes the place of an earlier one.

A pause is taken out at most once: `Pauses.take` gives it and removes it in one
step, and leaves the pauses as they are if there is none of that flow.
`Pauses.answer` is all that can be asked of the pauses from outside, where what a
pause is to hold is `Given` and still has to be checked.
-/

namespace ChatFlow

/-- What a paused run waits for. -/
inductive Awaited where
  | button
  | list
  | form
  | location
  | message
  | delay
  deriving DecidableEq, Repr

/-- The word for what a run waits for. -/
def Awaited.word : Awaited → String
  | button => "button"
  | list => "list"
  | form => "flow"
  | location => "location"
  | message => "message"
  | delay => "delay"

/-- What a word says that a run waits for. -/
def Awaited.ofWord? : String → Option Awaited
  | "button" => some button
  | "list" => some list
  | "flow" => some form
  | "location" => some location
  | "message" => some message
  | "delay" => some delay
  | _ => none

/-- A paused run. -/
structure Pause where
  flow : String
  node : String
  conversation : String
  vars : Entries Value
  awaited : Awaited
  run : Option String
  since : Float

namespace Pause

/-- What a value says that a run waits for. -/
def awaitedOf (v : Value) : Except Failure Awaited :=
  match v.text?.bind Awaited.ofWord? with
  | some a => .ok a
  | none => .error (.unknownWord v.shown "WaitingFor")

/-- A pause from fields that are not checked yet. -/
def ofFields (fields : Entries Value) (awaited : Awaited) (now : Float) : Except Failure Pause :=
  let vars? := match fields.find? "variables" with
    | some (.object fs) => some fs
    | _ => none
  match Value.requiredText? fields "flowId", Value.requiredText? fields "currentNodeId",
    Value.requiredText? fields "conversationId", vars?,
    Value.optionalText? fields "executionId" with
  | some flow, some node, some conversation, some vars, some run =>
    .ok ⟨flow, node, conversation, vars, awaited, run, now⟩
  | flow, node, conversation, vars, run =>
    .error (Value.unread [("flowId", flow.isNone), ("currentNodeId", node.isNone),
      ("conversationId", conversation.isNone), ("variables", vars.isNone),
      ("executionId", run.isNone)])

/-- What a pause is to hold, as it is given and not checked yet. -/
structure Given where
  conversation : Value
  flow : Value
  node : Value
  vars : Value
  awaited : Value
  run : Value
  since : Float

/-- The pause that is given; what it waits for is read before everything else. -/
def ofGiven (g : Given) : Except Failure Pause := do
  let awaited ← awaitedOf g.awaited
  ofFields [("flowId", g.flow), ("currentNodeId", g.node), ("conversationId", g.conversation),
    ("variables", g.vars), ("executionId", g.run)] awaited g.since

/-- All that a pause holds, as an object. -/
def dump (p : Pause) : Value :=
  .object [("flowId", .str p.flow), ("currentNodeId", .str p.node),
    ("conversationId", .str p.conversation), ("variables", .object p.vars),
    ("waitingFor", .str p.awaited.word), ("executionId", Value.ofText? p.run),
    ("pausedAt", .float p.since)]

end Pause

/-- The pauses by their conversations. -/
abbrev Pauses := Entries Pause

namespace Pauses

/-- Keeps a pause; an earlier one of the same conversation is lost. -/
def pause (pauses : Pauses) (p : Pause) : Pauses := Entries.put pauses p.conversation p

/-- The pause of a conversation. -/
def lookup (pauses : Pauses) (conversation : String) : Option Pause :=
  Entries.find? pauses conversation

/-- Takes out the pause of a conversation, if it is one of the flow asked for. -/
def take (pauses : Pauses) (conversation : String) (flow : Option String) : Option Pause × Pauses :=
  match pauses.lookup conversation with
  | none => (none, pauses)
  | some p =>
    if flow = none ∨ flow = some p.flow then (some p, Entries.erase pauses conversation)
    else (none, pauses)

/-- Removes the pause of a conversation, and says whether there was one. -/
def remove (pauses : Pauses) (conversation : String) : Bool × Pauses :=
  (Entries.has pauses conversation, Entries.erase pauses conversation)

/-- All pauses. -/
def list (pauses : Pauses) : List Pause := pauses.map (·.2)

/-- What is asked of the pauses. -/
inductive Request where
  | pause (given : Pause.Given)
  | lookup (conversation : String)
  | take (conversation : String) (flow : Option String)
  | remove (conversation : String)
  | list
  | count
  | contains (conversation : String)

/-- What is answered. -/
inductive Answer where
  | paused (p : Pause)
  /-- What was given is no pause. -/
  | failed (e : Failure)
  | found (p : Option Pause)
  | taken (p : Option Pause)
  | removed (there : Bool)
  | listed (all : List Pause)
  | counted (n : Nat)
  | contained (there : Bool)

/-- The answer to a request, and the pauses after it. -/
def answer (pauses : Pauses) : Request → Answer × Pauses
  | .pause given =>
    match Pause.ofGiven given with
    | .ok p => (.paused p, pauses.pause p)
    | .error e => (.failed e, pauses)
  | .lookup c => (.found (pauses.lookup c), pauses)
  | .take c flow => (pauses.take c flow).map .taken id
  | .remove c => (pauses.remove c).map .removed id
  | .list => (.listed pauses.list, pauses)
  | .count => (.counted pauses.length, pauses)
  | .contains c => (.contained (Entries.has pauses c), pauses)

end Pauses

end ChatFlow
