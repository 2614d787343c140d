import ChatFlow.Flow.Store
import ChatFlow.Node.Execute
import ChatFlow.Run.Record

/-!
# The engine and its state

The state of the engine is what its runs share: the stored flows, the records of
runs, the pauses, and the address of the database once it is known.  The
`Service` is what does not change while it works.
-/

namespace ChatFlow

/-- What the runs of the engine share. -/
structure EngineState where
  flows : Flows
  runs : Runs
  pauses : Pauses
  database : Database.Address

/-- How a run ends, or stops for the time being. -/
inductive RunOutcome where
  /-- There is no node to go on at. -/
  | completed
  /-- A node waits for a reply. -/
  | paused
  /-- The node to go on at does not exist. -/
  | halted
  /-- As many nodes were executed as are allowed. -/
  | limited
  /-- Executing a node failed. -/
  | failed
  /-- There is no such flow. -/
  | unknownFlow
  deriving DecidableEq, Repr

/-- The word for an outcome. -/
def RunOutcome.word : RunOutcome → String
  | completed => "completed"
  | paused => "paused"
  | halted => "halted"
  | limited => "iteration_limit"
  | failed => "failed"
  | unknownFlow => "flow_not_found"

/-- The status of the record of a run with an outcome. -/
def RunOutcome.status : RunOutcome → RunStatus
  | completed | limited => .completed
  | paused => .paused
  | halted | failed | unknownFlow => .failed

/-- What a call of the engine answers about a run. -/
structure RunResult where
  outcome : RunOutcome
  flow : String
  conversation : String
  run : Option String
  visited : List String
  error : Option String
  vars : Entries Value

/-- All that a result holds, as an object. -/
def RunResult.dump (r : RunResult) : Value :=
  .object [("outcome", .str r.outcome.word), ("flow_id", .str r.flow),
    ("conversation_id", .str r.conversation), ("execution_id", Value.ofText? r.run),
    ("visited", .list (r.visited.map .str)), ("error", Value.ofText? r.error),
    ("variables", .object r.vars)]

/-- What does not change while the engine works. -/
structure Service where
  accounts : Accounts
  /-- The way to execute nodes. -/
  executor : Executor
  /-- How many nodes a call may execute. -/
  maxNodes : Int
  locale : Locale
  /-- The time that records show. -/
  now : Calendar.Instant
  /-- The state store for records of runs that have stopped. -/
  archive : Option String

namespace EngineState

/-- The state before anything has happened. -/
def start (flows : Flows) (database : Database.Address) : EngineState :=
  ⟨flows, Runs.empty, [], database⟩

/-- Changes the record of a run. -/
def updateRun (s : EngineState) (id : String) (f : RunRecord → RunRecord) : EngineState :=
  { s with runs := s.runs.update id f }

/-- Keeps a pause. -/
def pause (s : EngineState) (p : Pause) : EngineState := { s with pauses := s.pauses.pause p }

end EngineState

end ChatFlow
