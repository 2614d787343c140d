import ChatFlow.Engine.Walk
import ChatFlow.Inbound.Reply

/-!
# The calls of the engine

A call starts a run of a flow, resumes the paused run of a conversation, or takes
a message: the message resumes the paused run of its sender if there is one,
and else starts the flow that has its text as a keyword.

A call may fail before it has a result; what it has done to the state by then
stays done.
-/

namespace ChatFlow

/-- A call of the engine, which may fail. -/
abbrev EngineCall (α : Type) := ExceptT Failure (Task EngineState) α

namespace Engine

/-- The state, in a call. -/
def state : EngineCall EngineState := ExceptT.lift Task.state

/-- Changes the state, in a call. -/
def change (f : EngineState → EngineState) : EngineCall Unit := ExceptT.lift (Task.change f)

/-- The number of nodes that a walk may execute. -/
def nodeLimit (service : Service) : Nat := service.maxNodes.toNat

/-- The result about a flow that does not exist. -/
def unknownFlow (flow conversation : String) : RunResult :=
  { outcome := .unknownFlow, flow := flow, conversation := conversation, run := none, visited := [],
    error := some "Flow not found", vars := [] }

/-- The start of a run and what it needs to walk. -/
def walkFrom (service : Service) (j : Journey) (start : Option String) (vars : Entries Value) :
    EngineCall RunResult :=
  ExceptT.lift (j.walk service (nodeLimit service) start ⟨[], vars⟩)

/-- Starts a run of a flow. -/
def run (service : Service) (flow conversation : String) (vars : Entries Value)
    (start run : Option String) : EngineCall RunResult := do
  match (← state).flows.find? flow with
  | none => return unknownFlow flow conversation
  | some stored =>
    let document ← Task.attempt (Document.ofStored stored.config)
    let (record, runs) := (← state).runs.create stored.id conversation run service.now.unix
    change fun s => { s with runs := runs }
    walkFrom service ⟨stored.id, conversation, record.id, document⟩ (document.startNode start)
      vars

/-- Makes the record of a paused run that of a running one; a run whose record is lost gets a new
one. -/
def reopen (service : Service) (flow conversation : String) (run : Option String) :
    EngineCall String := do
  let runs := (← state).runs
  match runs.find? (run.getD "") with
  | some record =>
    change fun s => s.updateRun record.id RunRecord.resumed
    return record.id
  | none =>
    let (record, runs) := runs.create flow conversation run service.now.unix
    change fun s => { s with runs := runs }
    return record.id

/-- Takes the pause of a conversation if it is one of a flow. -/
def takePause (conversation flow : String) : EngineCall (Option Pause) := do
  let (found, pauses) := (← state).pauses.take conversation (some flow)
  change fun s => { s with pauses := pauses }
  return found

/-- Resumes the paused run of a flow in a conversation with further variables, if there is one. -/
def resume (service : Service) (conversation flow : String) (further : Entries Value) :
    EngineCall (Option RunResult) := do
  match ← takePause conversation flow with
  | none => return none
  | some p =>
    match (← state).flows.find? flow with
    | none => return some (unknownFlow flow conversation)
    | some stored =>
      let document ← Task.attempt (Document.ofStored stored.config)
      let run ← reopen service stored.id conversation p.run
      return some (← walkFrom service ⟨stored.id, conversation, run, document⟩ (document.next p.node)
        (Entries.merge p.vars further))

/-- The name under which a reply is to be kept, if the node that waits for it gives one. -/
def saveName (flows : Flows) (p : Pause) : Except Failure (Option String) := do
  match flows.find? p.flow with
  | none => return none
  | some stored =>
    let document ← Document.ofStored stored.config
    match document.node p.node with
    | none => return none
    | some n =>
      if n.type ≠ "wait_for_reply" then return none
      let settings ← n.filled
      let name := settings.text "save_as"
      return if name = "" then none else some name

/-- The variables that a message adds to a paused run. -/
def replyTo (flows : Flows) (p : Pause) (m : Message) : Except Failure (Entries Value) := do
  let name ← if p.awaited = .message then saveName flows p else pure none
  m.replyVariables p.node name

/-- Starts the flow that has the text of a message as a keyword, if there is one. -/
def startByMessage (service : Service) (m : Message) : EngineCall (Option RunResult) := do
  match ← Task.attempt ((← state).flows.forMessage m.body) with
  | none => return none
  | some flow => return some (← run service flow.id m.phone m.vars none none)

/-- Takes a message: resumes the paused run of its sender, else starts a flow by it. -/
def receive (service : Service) (m : Message) : EngineCall (Option RunResult) := do
  let s ← state
  match s.pauses.lookup m.phone with
  | none => startByMessage service m
  | some p =>
    let further ← Task.attempt (replyTo s.flows p m)
    match ← resume service m.phone p.flow further with
    | some r => return some r
    | none => startByMessage service m

end Engine

end ChatFlow
