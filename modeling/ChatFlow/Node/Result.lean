import ChatFlow.Document.Basic
import ChatFlow.Failure
import ChatFlow.Outside.Accounts
import ChatFlow.Node.Settings
import ChatFlow.Run.Pause
import ChatFlow.Variables.Scope

/-!
# What executing a node comes to

A handler executes the nodes of one kind.  It does not write variables itself:
it returns a `Finding`, which names the variables to write, or fails.  The
`NodeResult` is what the run goes on with.
-/

namespace ChatFlow

/-- What a handler of nodes found out. -/
structure Finding where
  /-- Whether the node did what it is for. -/
  success : Bool := true
  /-- What later nodes can read about it. -/
  output : Entries Value
  /-- What went wrong, null for nothing. -/
  error : Value := .null
  /-- What the run is to wait for. -/
  awaited : Option Awaited := none
  /-- Whether the run ends here. -/
  stop : Bool := false
  /-- The node to go on at, whatever the edges say. -/
  next : Option String := none
  /-- Further variables to write. -/
  writes : Entries Value := []

/-- The result of executing a node. -/
structure NodeResult where
  success : Bool
  next : Option String
  output : Entries Value
  error : Option String
  awaited : Option Awaited
  stop : Bool

/-- All that a result holds, as an object. -/
def NodeResult.dump (r : NodeResult) : Value :=
  .object [("success", .bool r.success), ("nextNode", Value.ofText? r.next),
    ("output", .object r.output), ("error", Value.ofText? r.error),
    ("waitingFor", Value.ofText? (r.awaited.map Awaited.word)), ("stop", .bool r.stop)]

/-- What a handler can see. -/
structure NodeContext where
  accounts : Accounts
  now : Calendar.Instant
  document : Document
  scope : Scope

/-- The phone number of the user, if it is known. -/
def NodeContext.phone? (c : NodeContext) : Option String :=
  match c.scope.get? "user.phone" with
  | some v => if v.truthy then some v.display else none
  | none => none

/-- A part of the work of a handler, which may fail. -/
abbrev Work := ExceptT Failure (Task Database.Address)

/-- A text with its placeholders filled. -/
def NodeContext.fill (c : NodeContext) (template : String) : Work String :=
  Task.attempt (c.scope.fill template)

/-- A value with all templates in it filled. -/
def NodeContext.fillAll (c : NodeContext) (v : Value) : Work Value :=
  Task.attempt (c.scope.fillAll v)

/-- The work of a handler. -/
abbrev Handling := Work Finding

/-- A handler executes a node whose settings have been read. -/
abbrev Handler := NodeContext → Node → Filled → Handling

/-- The finding that something needed is missing, so that nothing was sent. -/
def Finding.missing (output : Entries Value) (reason : String) (stop : Bool) : Finding where
  success := false
  output := Entries.merge output [("sent", .bool false), ("error", .str reason)]
  error := .str reason
  stop := stop

end ChatFlow
