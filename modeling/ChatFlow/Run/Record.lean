import ChatFlow.Form
import ChatFlow.Value.Fields

/-!
# Records of runs

Each run has a record that says where it stands: its status, the node that it
has come to, the nodes that it has executed, and when it began and ended.
Records are kept in the order in which their ids first came up, and a run that
is not given an id gets the next number.
-/

namespace ChatFlow

/-- The status of a run. -/
inductive RunStatus where
  | running
  | paused
  | completed
  | failed
  deriving DecidableEq, Repr

/-- The word for a status. -/
def RunStatus.word : RunStatus → String
  | running => "running"
  | paused => "paused"
  | completed => "completed"
  | failed => "failed"

/-- The status of a word. -/
def RunStatus.ofWord? : String → Option RunStatus
  | "running" => some running
  | "paused" => some paused
  | "completed" => some completed
  | "failed" => some failed
  | _ => none

/-- The status that a value names. -/
def RunStatus.ofValue (v : Value) : Except Failure RunStatus :=
  match v.text?.bind RunStatus.ofWord? with
  | some status => .ok status
  | none => .error (.unknownWord v.shown "ExecutionStatus")

/-- Whether a run with this status has ended. -/
def RunStatus.isFinal : RunStatus → Bool
  | completed | failed => true
  | running | paused => false

/-- The execution of one node. -/
structure LogEntry where
  node : String
  type : String
  success : Bool
  error : Option String
  waitingFor : Option String
  milliseconds : Int

/-- An entry from its fields. -/
def LogEntry.ofFields (fields : Entries Value) : Except Failure LogEntry :=
  let success? := (fields.find? "success").bind Value.asBool?
  let milliseconds? := (fields.find? "durationMs").map Value.asInt? |>.getD (some 0)
  match Value.requiredText? fields "nodeId", Value.requiredText? fields "nodeType", success?,
    Value.optionalText? fields "error", Value.optionalText? fields "waitingFor", milliseconds? with
  | some node, some type, some success, some error, some waitingFor, some milliseconds =>
    .ok ⟨node, type, success, error, waitingFor, milliseconds⟩
  | node, type, success, error, waitingFor, milliseconds =>
    .error (Value.unread [("nodeId", node.isNone), ("nodeType", type.isNone),
      ("success", success.isNone), ("error", error.isNone), ("waitingFor", waitingFor.isNone),
      ("durationMs", milliseconds.isNone)])

/-- All that an entry holds, as an object. -/
def LogEntry.dump (e : LogEntry) : Value :=
  .object [("nodeId", .str e.node), ("nodeType", .str e.type), ("success", .bool e.success),
    ("error", Value.ofText? e.error), ("waitingFor", Value.ofText? e.waitingFor),
    ("durationMs", .int e.milliseconds)]

/-- The record of a run.  Times are seconds. -/
structure RunRecord where
  id : String
  flow : String
  conversation : String
  status : RunStatus
  currentNode : Option String
  startedAt : Float
  completedAt : Option Float
  error : Option String
  log : List LogEntry

namespace RunRecord

/-- The record of a run that begins now. -/
def start (id flow conversation : String) (now : Float) : RunRecord :=
  { id := id, flow := flow, conversation := conversation, status := .running, currentNode := none,
    startedAt := now, completedAt := none, error := none, log := [] }

/-- The record of a run that runs on. -/
def resumed (r : RunRecord) : RunRecord := { r with status := .running, completedAt := none }

/-- The record after one more node. -/
def logged (e : LogEntry) (r : RunRecord) : RunRecord :=
  { r with currentNode := some e.node, log := r.log ++ [e] }

/-- The record of a run that stops now with a status; only a run that ends for good has an end. -/
def finished (status : RunStatus) (error : Option String) (now : Float) (r : RunRecord) : RunRecord :=
  { r with
    status := status
    error := error
    completedAt := if status.isFinal then some now else r.completedAt }

/-- All that a record holds, as an object. -/
def dump (r : RunRecord) : Value :=
  .object [("id", .str r.id), ("flowId", .str r.flow), ("conversationId", .str r.conversation),
    ("status", .str r.status.word), ("currentNode", Value.ofText? r.currentNode),
    ("startedAt", .float r.startedAt), ("completedAt", Value.ofOption (r.completedAt.map .float)),
    ("error", Value.ofText? r.error), ("nodeLog", .list (r.log.map LogEntry.dump))]

end RunRecord

/-- The records of all runs, and how many ids have been made up. -/
structure Runs where
  records : Entries RunRecord
  made : Nat

namespace Runs

/-- No runs. -/
def empty : Runs := ⟨[], 0⟩

/-- The id that is made up for a run by its number. -/
def madeId (n : Nat) : String := "exec-" ++ String.ofList (Decimal.natChars n)

/-- Begins a run under the id given, or under a new one. -/
def create (runs : Runs) (flow conversation : String) (id : Option String) (now : Float) :
    RunRecord × Runs :=
  let given := id.getD ""
  let made := if given = "" then runs.made + 1 else runs.made
  let record := RunRecord.start (if given = "" then madeId made else given) flow conversation now
  (record, ⟨runs.records.put record.id record, made⟩)

/-- The record of this id; the empty id names none. -/
def find? (runs : Runs) (id : String) : Option RunRecord :=
  if id = "" then none else runs.records.find? id

/-- The records of the runs of a flow, or of all runs. -/
def ofFlow (runs : Runs) (flow : String) : List RunRecord :=
  let all := runs.records.map (·.2)
  if flow = "" then all else all.filter fun r => r.flow = flow

/-- Changes the record of this id, if there is one. -/
def update (runs : Runs) (id : String) (f : RunRecord → RunRecord) : Runs :=
  match runs.records.find? id with
  | some r => { runs with records := runs.records.put id (f r) }
  | none => runs

end Runs

end ChatFlow
