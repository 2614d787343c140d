import ChatFlow.Document.Graph
import ChatFlow.Engine.State
import ChatFlow.Outside.Archive

/-!
# Walking through a flow

`walk` executes one node after the other.  It goes on at the node that a result
names, else along an edge, and it stops when there is nowhere to go, when a node
waits for a reply, when a node ends the run, when the next node does not exist,
when executing a node fails, and when as many nodes have been executed as are
allowed.  The last bound is what makes every walk end.
-/

namespace ChatFlow

/-- A run on its way. -/
structure Journey where
  flow : String
  conversation : String
  run : String
  document : Document

/-- Where a run has come to. -/
structure Position where
  visited : List String
  vars : Entries Value

namespace Journey

/-- What a handler can see at a position. -/
def context (j : Journey) (service : Service) (vars : Entries Value) : NodeContext :=
  { accounts := service.accounts, now := service.now, document := j.document,
    scope := ⟨vars, service.locale⟩ }

/-- The pause of a run that waits at a node. -/
def pauseAt (j : Journey) (service : Service) (node : String) (awaited : Awaited)
    (vars : Entries Value) : Pause :=
  { flow := j.flow, node := node, conversation := j.conversation, vars := vars,
    awaited := awaited, run := some j.run, since := service.now.unix }

/-- Writes the record of a run that stops to the state store, if there is one. -/
def archive (j : Journey) (service : Service) : Task EngineState Unit := do
  let s ← Task.state
  match service.archive, s.runs.find? j.run with
  | some store, some record => Archive.save store j.run record.dump
  | _, _ => return ()

/-- Stops a run. -/
def finish (j : Journey) (service : Service) (outcome : RunOutcome) (p : Position)
    (error : Option String) : Task EngineState RunResult := do
  Task.change fun s =>
    s.updateRun j.run (RunRecord.finished outcome.status error service.now.unix)
  j.archive service
  return { outcome := outcome, flow := j.flow, conversation := j.conversation, run := some j.run,
           visited := p.visited, error := error, vars := p.vars }

/-- The entry of a log for a result. -/
def logEntry (n : Node) (r : NodeResult) : LogEntry :=
  { node := n.id, type := n.type, success := r.success, error := r.error,
    waitingFor := r.awaited.map Awaited.word, milliseconds := 0 }

/-- Executes a node at some variables. -/
def executeNode (j : Journey) (service : Service) (n : Node) (vars : Entries Value) :
    Task EngineState (Except Failure (NodeResult × Entries Value)) :=
  (service.executor (j.context service vars) n).run.within EngineState.database
    fun address s => { s with database := address }

/-- Where a run goes on after a node. -/
def nextAfter (j : Journey) (n : Node) (r : NodeResult) : Option String :=
  match r.next with
  | some next => if next = "" then j.document.next n.id else some next
  | none => j.document.next n.id

/-- Executes nodes from the one given on, at most so many. -/
def walk (j : Journey) (service : Service) :
    Nat → Option String → Position → Task EngineState RunResult
  | _, none, p => j.finish service .completed p none
  | left, some id, p =>
    if id = "" then j.finish service .completed p none
    else match left with
      | 0 => j.finish service .limited p (some "Max iterations reached")
      | left + 1 =>
        match j.document.node id with
        | none => j.finish service .halted p (some ("Node not found: " ++ id))
        | some n => do
          let visited := p.visited ++ [n.id]
          match ← j.executeNode service n p.vars with
          | .error e => j.finish service .failed ⟨visited, p.vars⟩ (some e.message)
          | .ok (r, vars) =>
            let p : Position := ⟨visited, vars⟩
            Task.change fun s => s.updateRun j.run (RunRecord.logged (logEntry n r))
            match r.awaited with
            | some awaited =>
              Task.change fun s => s.pause (j.pauseAt service n.id awaited vars)
              j.finish service .paused p none
            | none =>
              if r.stop then j.finish service .completed p none
              else j.walk service left (j.nextAfter n r) p

end Journey

end ChatFlow
