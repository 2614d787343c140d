import ChatFlow.Node.Control
import ChatFlow.Node.Send
import ChatFlow.Node.Services

/-!
# Executing a node

`execute` finds the handler of a node by its type, reads the settings of the
node and lets the handler work.  Whatever comes of it, also a failure, is
written under the id of the node, where later nodes read it.  A node of a type
that nobody knows is passed over.
-/

namespace ChatFlow

/-- The handler of each kind of node. -/
def NodeKind.handler : NodeKind → Handler
  | trigger => Control.trigger
  | message => Send.text
  | media => Send.media
  | callToAction => Send.callToAction
  | template => Send.template
  | location => Send.location
  | requestLocation => Send.requestLocation
  | buttons => Send.buttons
  | list => Send.list
  | form => Send.form
  | waitForReply => Send.waitForReply
  | delay => Control.delay
  | http => Services.http
  | webhook => Services.webhook
  | branch => Control.branch
  | sheet => Services.sheet
  | completion => Services.completion
  | email => Services.email
  | database => Services.database
  | transform => Services.transform
  | stop => Control.stop

/-- Handlers that have been registered for types of nodes. -/
abbrev Registered := Entries Handler

/-- The handler of a type: one that is registered, else the one of its kind. -/
def handlerOf? (registered : Registered) (type : String) : Option Handler :=
  (registered.find? type).or ((NodeKind.ofType? type).map NodeKind.handler)

/-- Whether nodes of a type wait for a reply. -/
def typeSuspends (type : String) : Bool :=
  match NodeKind.ofType? type with
  | some kind => kind.suspends
  | none => false

/-- What later nodes can read about a node. -/
def recordOf (n : Node) (success : Bool) (error : Option String) (output : Entries Value) :
    Entries Value :=
  let common : Entries Value :=
    [("nodeId", .str n.id), ("nodeType", .str n.type), ("executed", .bool true)]
  let all := Entries.merge (Entries.merge common output)
    [("success", .bool success), ("duration_ms", .int 0)]
  match error with
  | some e => if e = "" then all else all.put "error" (.str e)
  | none => all

/-- The error of a finding, which has to be a text or null. -/
def Finding.errorText (f : Finding) : Except Failure (Option String) :=
  match f.error with
  | .null => .ok none
  | .str s => .ok (some s)
  | _ => .error (.fields ["error"])

/-- The finding that a failure stands for: a node that waits for a reply ends the run. -/
def Finding.ofFailure (n : Node) (e : Failure) : Finding where
  success := false
  output := [("error", .str e.message)]
  error := .str e.message
  stop := typeSuspends n.type

/-- The finding about a node of a type that nobody knows. -/
def Finding.skipped (n : Node) : Finding where
  output := [("skipped", .bool true), ("reason", .str ("Unknown node type: " ++ n.type))]

/-- The work of a handler on a node whose settings are still to be read. -/
def handled (handler : Handler) (c : NodeContext) (n : Node) : Handling := do
  let f ← Task.attempt n.filled
  let finding ← handler c n f
  let _ ← Task.attempt finding.errorText
  return finding

/-- What is found out about a node. -/
def findOut (registered : Registered) (c : NodeContext) (n : Node) :
    Task Database.Address Finding :=
  match handlerOf? registered n.type with
  | none => pure (.skipped n)
  | some handler => do
    match ← (handled handler c n).run with
    | .ok finding => return finding
    | .error e => return .ofFailure n e

/-- The result of a finding. -/
def Finding.result (f : Finding) (n : Node) : NodeResult :=
  let error := f.error.text?
  { success := f.success, next := f.next, output := recordOf n f.success error f.output,
    error := error, awaited := f.awaited, stop := f.stop }

/-- The variables after a finding: those it writes, and its record under the id of the node. -/
def Finding.vars (f : Finding) (n : Node) (before : Entries Value) : Entries Value :=
  (Entries.merge before f.writes).put n.id (.object (f.result n).output)

/-- A way to execute nodes: the result of a node and the variables after it. -/
abbrev Executor :=
  NodeContext → Node → ExceptT Failure (Task Database.Address) (NodeResult × Entries Value)

/-- Executes a node by the handler of its type. -/
def execute (registered : Registered) : Executor := fun c n => do
  let f ← ExceptT.lift (findOut registered c n)
  return (f.result n, f.vars n c.scope.vars)

end ChatFlow
