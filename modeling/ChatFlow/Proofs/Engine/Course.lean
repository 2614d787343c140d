import ChatFlow.Proofs.Engine.Opening
import ChatFlow.Proofs.Engine.Walk

/-!
# What calls come to

`Call.comes` joins how a call begins with what its walk comes to: a call fails or
answers at once, or its walk comes to an ending, or the walk waits for a reply that
does not come.

A call that leads to a walk returns what its walk comes to, so a property of all
walks from one place of a document is one of the results (`Call.SetsOut.yields`).
It returns nothing only if it waits for a reply that never comes.

The end of the file has a small service with a flow of one node, on which the
theorems about calls can be tried.
-/

namespace ChatFlow

open Engine

variable (service : Service) (s : EngineState) (world : World) (asked : List Query)

/-- How far a call has come. -/
inductive Call.Comes (call : Call)
    (progress : Task.Progress EngineState (Except Failure (Option RunResult))) : Prop
  | failed {e : Failure} {s₁ : EngineState} (opens : call.Opens service s (.failed e) s₁)
      (hp : progress = ⟨s₁, asked, .inr (.error e)⟩)
  | answered {answer : Option RunResult} {s₁ : EngineState}
      (opens : call.Opens service s (.answered answer) s₁)
      (hp : progress = ⟨s₁, asked, .inr (.ok answer)⟩)
  | walked {o : Opening} {d : Departure} {s₁ : EngineState} {visits : List Journey.Visit}
      {ending : Journey.Ending} {q : Journey.Point} (opens : call.Opens service s o s₁)
      (departs : o.departure? = some d)
      (walks : d.journey.Walks service world (nodeLimit service)
        ⟨d.place, d.vars, s₁.database, asked⟩ visits ending q)
      (state : progress.state = d.journey.ended service s₁ visits ending q)
      (answer : ∀ v, progress.outcome = .inr v → v = .ok (some (d.journey.resultOf ending.outcome
        ⟨Journey.visitedBy visits ending, q.vars⟩ ending.error)))
  | waiting {o : Opening} {d : Departure} {s₁ : EngineState} {visits : List Journey.Visit}
      {database : Database.Address} {t : Task EngineState (Except Failure (Option RunResult))}
      (opens : call.Opens service s o s₁) (departs : o.departure? = some d)
      (state : progress.state = d.journey.underway s₁ visits database)
      (outcome : progress.outcome = .inl t)

theorem Opening.task_of_departure {o : Opening} {d : Departure} (h : o.departure? = some d) :
    o.task service = do return some (← walkFrom service d.journey d.place d.vars) := by
  rcases Opening.eq_of_departure h with rfl | rfl <;> rfl

/-- The walk of a call, and then its answer. -/
theorem run_walkFrom (d : Departure) :
    (do return some (← walkFrom service d.journey d.place d.vars) :
      EngineCall (Option RunResult)).run.run world s asked =
      ((d.journey.walk service (nodeLimit service) d.place ⟨[], d.vars⟩).run world s
        asked).andThen world fun r => pure (.ok (some r)) := by
  rw [walkFrom, Task.run_lift_bind, Task.run_andThen]
  rfl

/-- The walk of a run that sets out comes to an ending, or it waits. -/
theorem Call.Opens.walked_or_waiting {service : Service} {s s₁ : EngineState} {call : Call}
    {o : Opening} {d : Departure} (h : call.Opens service s o s₁) (hd : o.departure? = some d)
    (world : World) (asked : List Query) {state : EngineState} {asked' : List Query}
    {outcome : Task EngineState (Except Failure (Option RunResult)) ⊕
      Except Failure (Option RunResult)}
    (hr : (call.task service).run.run world s asked = ⟨state, asked', outcome⟩) :
    (∃ visits ending q, d.journey.Walks service world (nodeLimit service)
        ⟨d.place, d.vars, s₁.database, asked⟩ visits ending q ∧
      state = d.journey.ended service s₁ visits ending q ∧
      ∀ v, outcome = .inr v → v = .ok (some (d.journey.resultOf ending.outcome
        ⟨Journey.visitedBy visits ending, q.vars⟩ ending.error))) ∨
      ∃ visits database t, state = d.journey.underway s₁ visits database ∧ outcome = .inl t := by
  rw [h.runsAs world asked, Opening.task_of_departure service hd, run_walkFrom] at hr
  have hw := d.journey.walk_run service world (nodeLimit service)
    ⟨d.place, d.vars, s₁.database, asked⟩ [] s₁ rfl
  unfold Task.Progress.andThen at hr
  cases hw with
  | ended walks hstate result =>
    refine Or.inl ⟨_, _, _, walks, ?_⟩
    split at hr
    · rename_i r hresult
      obtain ⟨rfl, -, rfl⟩ := Task.Progress.mk.inj hr
      refine ⟨hstate, fun v hv => ?_⟩
      rw [← Sum.inr.inj hv, result r hresult]
      rfl
    · obtain ⟨rfl, -, rfl⟩ := Task.Progress.mk.inj hr
      exact ⟨hstate, fun v hv => (nomatch hv)⟩
  | waiting hstate houtcome =>
    rw [houtcome] at hr
    obtain ⟨rfl, -, rfl⟩ := Task.Progress.mk.inj hr
    exact Or.inr ⟨_, _, _, hstate, rfl⟩

/-- A call fails, answers, comes to the ending of a walk, or waits in the midst of one. -/
theorem Call.comes (call : Call) :
    call.Comes service s world asked ((call.task service).run.run world s asked) := by
  obtain ⟨o, s₁, ho⟩ := call.exists_opens service s
  cases hd : o.departure? with
  | none =>
    rw [ho.runsAs world asked]
    cases o with
    | failed e => exact .failed ho rfl
    | answered answer => exact .answered ho rfl
    | starts d => cases hd
    | resumes d => cases hd
  | some d =>
    rcases ho.walked_or_waiting hd world asked rfl with
      ⟨visits, ending, q, walks, state, answer⟩ | ⟨visits, database, t, state, outcome⟩
    · exact .walked ho hd walks state answer
    · exact .waiting ho hd state outcome

/-! ### What a call that sets out returns -/

/-- A call sets out on a walk through a document, with the handlers of this library. -/
structure Call.SetsOut (call : Call) (service : Service) (s : EngineState) (document : Document) :
    Prop where
  builtIn : service.executor = execute []
  reads : call.Reads s document
  ready : call.Ready s

/-- A call returns a result with a property; in a world that replies it does return. -/
structure Call.Yields (call : Call) (service : Service) (s : EngineState) (world : World)
    (asked : List Query) (P : RunResult → Prop) : Prop where
  result : ∀ v, ((call.task service).run.run world s asked).outcome = .inr v →
    ∃ r, v = .ok (some r) ∧ P r
  returns : world.Replies → ∃ v, ((call.task service).run.run world s asked).outcome = .inr v

theorem Call.returns (call : Call) (service : Service) (s : EngineState) (asked : List Query)
    {world : World} (hw : world.Replies) :
    ∃ v, ((call.task service).run.run world s asked).outcome = .inr v := by
  obtain ⟨s', asked', v, hr⟩ := (call.task service).run.run_ends s asked hw
  exact ⟨v, by rw [hr]⟩

/-- A call that sets out returns what its walk comes to. -/
theorem Call.SetsOut.yields {call : Call} {service : Service} {s : EngineState}
    {document : Document} (h : call.SetsOut service s document) (world : World) (asked : List Query)
    {P : RunResult → Prop}
    (hp : ∀ (j : Journey) (p : Journey.Point) visits ending q, j.document = document →
      p.place = call.place s document →
      j.Walks service world (Engine.nodeLimit service) p visits ending q →
      P (j.resultOf ending.outcome ⟨Journey.visitedBy visits ending, q.vars⟩ ending.error)) :
    call.Yields service s world asked P := by
  obtain ⟨o, s₁, d, ho, hd, hdoc, hplace⟩ := Call.exists_departure service h.reads h.ready
  refine ⟨fun v hv => ?_, call.returns service s asked⟩
  rw [ho.runsAs world asked, Opening.task_of_departure service hd, run_walkFrom] at hv
  obtain ⟨r, hr, rfl⟩ := Task.andThen_pure_outcome hv
  obtain ⟨visits, ending, q, hw, rfl⟩ :=
    Journey.exists_walks_of_result (p := ⟨d.place, d.vars, s₁.database, asked⟩) rfl hr
  exact ⟨_, rfl, hp d.journey _ visits ending q hdoc hplace hw⟩

/-! ### A small service

What the instances of the theorems about calls are about. -/

/-- A service without accounts, at the start of 1970. -/
def Service.alone : Service where
  accounts :=
    { whatsapp := ⟨"", "", "", .null⟩, httpTimeout := .null, sheet := ⟨"", .null⟩,
      completion := ⟨"", "", .null⟩, email := ⟨"", "", .null⟩, database := none,
      secrets := ⟨"", ""⟩ }
  executor := execute []
  maxNodes := 100
  locale := ⟨⟨0⟩, "UTC", ""⟩
  now := ⟨0⟩
  archive := none

/-- A world that never replies. -/
def World.silent : World := fun _ _ => none

/-- A flow that waits for a reply again and again. -/
def FlowRecord.waiting : FlowRecord where
  id := "f"
  name := "Waiting"
  userId := none
  description := none
  status := .active
  triggerKeywords := []
  config := .object [
    ("nodes", .list [.object [("id", .str "ask"), ("type", .str "wait_for_reply")]]),
    ("edges", .list [.object [("source", .str "ask"), ("target", .str "ask")]])]
  extra := []

/-- The state in which that flow is stored and nothing has happened. -/
def EngineState.waiting : EngineState := .start [("f", .waiting)] none

/-- What comes of starting a run of that flow. -/
def Call.waiting : Task.Progress EngineState (Except Failure (Option RunResult)) :=
  ((Call.run "f" "c" [] none (some "e")).task .alone).run.run .silent .waiting []

/-- What comes of resuming it. -/
def Call.resuming : Task.Progress EngineState (Except Failure (Option RunResult)) :=
  ((Call.resume "c" "f" []).task .alone).run.run .silent Call.waiting.state []

/-- What the start of that run returns. -/
def RunResult.waiting : RunResult where
  outcome := .paused
  flow := "f"
  conversation := "c"
  run := some "e"
  visited := ["ask"]
  error := none
  vars := [("ask", .object [("nodeId", .str "ask"), ("nodeType", .str "wait_for_reply"),
    ("executed", .bool true), ("waiting", .bool true), ("saveAs", .null), ("success", .bool true),
    ("duration_ms", .int 0)])]

theorem Call.waiting_outcome : Call.waiting.outcome = .inr (.ok (some .waiting)) := by
  with_unfolding_all rfl

/-- A flow that goes round two nodes for ever. -/
def FlowRecord.circling : FlowRecord where
  id := "f"
  name := "Circling"
  userId := none
  description := none
  status := .active
  triggerKeywords := []
  config := .object [
    ("nodes", .list [.object [("id", .str "a"), ("type", .str "on_message")],
      .object [("id", .str "b"), ("type", .str "transform")]]),
    ("edges", .list [.object [("source", .str "a"), ("target", .str "b")],
      .object [("source", .str "b"), ("target", .str "a")]])]
  extra := []

/-- The document of that flow. -/
def Document.circling : Document where
  nodes := [⟨"a", "on_message", [], none, "", []⟩, ⟨"b", "transform", [], none, "", []⟩]
  edges := [⟨"a->b", "a", "b", none, none, []⟩, ⟨"b->a", "b", "a", none, none, []⟩]
  start := none

theorem Document.ofStored_circling :
    Document.ofStored FlowRecord.circling.config = .ok .circling := by
  with_unfolding_all rfl

/-- The state in which that flow is stored and nothing has happened. -/
def EngineState.circling : EngineState := .start [("f", .circling)] none

end ChatFlow
