import ChatFlow.Engine.Walk
import ChatFlow.Proofs.Document.Graph
import ChatFlow.Proofs.Outside.Task
import ChatFlow.Proofs.Run.Stores

/-!
# What a walk comes to

`Journey.Walks` says what a walk does to a run, node after node and without
tasks: which nodes it visits with which results, how it ends, and with which
variables.  `Journey.Passes` is the part of it that counts nothing: nodes that are
executed one after the other, of which none makes the run wait, ends it or fails.

Both are about the task by equations between runs, which also say what is asked of
the world.  Along visits that it passes a walk runs as what is left of it runs from
where they lead (`Passes.run_eq`), and a walk with an ending runs as the end of it
(`Walks.run_eq`).  A walk has an ending, or it passes some nodes and then waits for a
reply in the midst of one (`walks_or_stalls`).  `walk_run` says this of the state:
it is the one that `Journey.ended` gives, or some nodes are logged and nothing else
has happened.
-/

namespace ChatFlow

/-- In this world the state store of a service, if it has one, replies. -/
def Service.ArchiveReplies (service : Service) (world : World) : Prop :=
  ∀ store, service.archive = some store →
    ∀ asked key text, (world asked (.saveState store key text)).isSome

/-- What has been asked when a run has stopped: what was asked before and, if the service has a state
store, to write the record there. -/
def Service.AsksToKeep (service : Service) (before after : List Query) : Prop :=
  after = before ∨
    ∃ store key text, service.archive = some store ∧ after = before ++ [.saveState store key text]

namespace Journey

/-- Where a walk stands between two nodes. -/
structure Point where
  place : Option String
  vars : Entries Value
  database : Database.Address
  asked : List Query

/-- A node that was executed, with its result. -/
structure Visit where
  node : Node
  result : NodeResult

/-- How a walk ends. -/
inductive Ending where
  | completed
  | limited
  | halted (id : String)
  | failed (n : Node) (e : Failure)
  | paused (n : Node) (a : Awaited)

namespace Ending

/-- The outcome of a walk with this ending. -/
def outcome : Ending → RunOutcome
  | completed => .completed
  | limited => .limited
  | halted _ => .halted
  | failed _ _ => .failed
  | paused _ _ => .paused

/-- The error of a walk with this ending. -/
def error : Ending → Option String
  | limited => some "Max iterations reached"
  | halted id => some ("Node not found: " ++ id)
  | failed _ e => some e.message
  | _ => none

/-- The nodes at which a walk with this ending broke down. -/
def broken : Ending → List String
  | failed n _ => [n.id]
  | _ => []

theorem outcome_ne_unknownFlow (ending : Ending) : ending.outcome ≠ .unknownFlow := by
  cases ending <;> exact fun h => nomatch h

end Ending

variable (j : Journey) (service : Service) (world : World)

/-! ### The walk without tasks -/

/-- The node at a point exists, and executing it comes to this outcome. -/
structure Executes (p : Point) (n : Node) (outcome : Except Failure (NodeResult × Entries Value))
    (database : Database.Address) (asked : List Query) : Prop where
  node : p.place.bind j.document.node = some n
  run : (service.executor (j.context service p.vars) n).run.run world p.database p.asked =
    ⟨database, asked, .inr outcome⟩

/-- A walk that may visit so many nodes leads from a point over these visits to this ending. -/
inductive Walks : Nat → Point → List Visit → Ending → Point → Prop
  | arrived {left : Nat} {p : Point} (h : p.place.getD "" = "") : Walks left p [] .completed p
  | limited {p : Point} (h : p.place.getD "" ≠ "") : Walks 0 p [] .limited p
  | halted {left : Nat} {p : Point} {id : String} (hp : p.place = some id) (hid : id ≠ "")
      (h : j.document.node id = none) : Walks (left + 1) p [] (.halted id) p
  | failed {left : Nat} {p : Point} {n : Node} {e : Failure} {database : Database.Address}
      {asked : List Query} (h : j.Executes service world p n (.error e) database asked) :
      Walks (left + 1) p [] (.failed n e) ⟨p.place, p.vars, database, asked⟩
  | paused {left : Nat} {p : Point} {n : Node} {r : NodeResult} {vars : Entries Value}
      {database : Database.Address} {asked : List Query} {a : Awaited}
      (h : j.Executes service world p n (.ok (r, vars)) database asked) (ha : r.awaited = some a) :
      Walks (left + 1) p [⟨n, r⟩] (.paused n a) ⟨p.place, vars, database, asked⟩
  | stopped {left : Nat} {p : Point} {n : Node} {r : NodeResult} {vars : Entries Value}
      {database : Database.Address} {asked : List Query}
      (h : j.Executes service world p n (.ok (r, vars)) database asked) (ha : r.awaited = none)
      (hs : r.stop = true) :
      Walks (left + 1) p [⟨n, r⟩] .completed ⟨p.place, vars, database, asked⟩
  | onward {left : Nat} {p q : Point} {n : Node} {r : NodeResult} {vars : Entries Value}
      {database : Database.Address} {asked : List Query} {visits : List Visit} {ending : Ending}
      (h : j.Executes service world p n (.ok (r, vars)) database asked) (ha : r.awaited = none)
      (hs : r.stop = false)
      (hw : Walks left ⟨j.nextAfter n r, vars, database, asked⟩ visits ending q) :
      Walks (left + 1) p (⟨n, r⟩ :: visits) ending q

/-- Nodes that are executed one after the other, of which none makes the run wait, ends it or fails,
lead from one point to another. -/
inductive Passes : Point → List Visit → Point → Prop
  | here (p : Point) : Passes p [] p
  | onward {p q : Point} {n : Node} {r : NodeResult} {vars : Entries Value}
      {database : Database.Address} {asked : List Query} {visits : List Visit}
      (h : j.Executes service world p n (.ok (r, vars)) database asked) (ha : r.awaited = none)
      (hs : r.stop = false) (hp : Passes ⟨j.nextAfter n r, vars, database, asked⟩ visits q) :
      Passes p (⟨n, r⟩ :: visits) q

/-- The node at a point exists, and executing it waits for a reply which never comes. -/
def Stalls (p : Point) : Prop :=
  ∃ n database asked t, p.place.bind j.document.node = some n ∧
    (service.executor (j.context service p.vars) n).run.run world p.database p.asked =
      ⟨database, asked, .inl t⟩

/-- The entry of a log for a visit. -/
def Visit.entry (v : Visit) : LogEntry := logEntry v.node v.result

/-- The ids of the nodes that a walk went to. -/
def visitedBy (visits : List Visit) (ending : Ending) : List String :=
  visits.map (fun v => v.node.id) ++ ending.broken

@[simp] theorem visitedBy_nil (ending : Ending) : visitedBy [] ending = ending.broken := rfl

@[simp] theorem visitedBy_cons (v : Visit) (visits : List Visit) (ending : Ending) :
    visitedBy (v :: visits) ending = v.node.id :: visitedBy visits ending := rfl

/-- The state after some visits of a walk that is still on its way. -/
def underway (s : EngineState) (visits : List Visit) (database : Database.Address) : EngineState :=
  { s.updateRun j.run (RunRecord.loggedAll (visits.map Visit.entry)) with database := database }

/-- The pauses after a walk. -/
def pausesAfter (pauses : Pauses) (ending : Ending) (vars : Entries Value) : Pauses :=
  match ending with
  | .paused n a => pauses.pause (j.pauseAt service n.id a vars)
  | _ => pauses

/-- The state of a walk that has come to its ending. -/
def arrived (s : EngineState) (visits : List Visit) (ending : Ending) (q : Point) : EngineState :=
  { j.underway s visits q.database with
    pauses := j.pausesAfter service s.pauses ending q.vars }

/-- The state after a walk. -/
def ended (s : EngineState) (visits : List Visit) (ending : Ending) (q : Point) : EngineState :=
  (j.arrived service s visits ending q).updateRun j.run
    (RunRecord.finished ending.outcome.status ending.error service.now.unix)

/-- What a walk returns. -/
def resultOf (outcome : RunOutcome) (p : Position) (error : Option String) : RunResult :=
  { outcome := outcome, flow := j.flow, conversation := j.conversation, run := some j.run,
    visited := p.visited, error := error, vars := p.vars }

/-- How far the task of a walk has come: to an ending, or to a question that is not answered. -/
inductive Comes (left : Nat) (p : Point) (visited : List String) (s : EngineState)
    (progress : Task.Progress EngineState RunResult) : Prop
  | ended {visits : List Visit} {ending : Ending} {q : Point}
      (walks : j.Walks service world left p visits ending q)
      (state : progress.state = j.ended service s visits ending q)
      (result : ∀ r, progress.outcome = .inr r →
        r = j.resultOf ending.outcome ⟨visited ++ visitedBy visits ending, q.vars⟩ ending.error)
  | waiting {visits : List Visit} {database : Database.Address} {t : Task EngineState RunResult}
      (state : progress.state = j.underway s visits database) (outcome : progress.outcome = .inl t)

@[simp] theorem underway_nil (s : EngineState) (database : Database.Address) :
    j.underway s [] database = { s with database := database } := by
  have h : j.underway s [] database =
      { s with runs := s.runs.update j.run fun r => r, database := database } := rfl
  rw [h, Runs.update_same]

theorem underway_underway (s : EngineState) (v : Visit) (visits : List Visit)
    (database address : Database.Address) :
    j.underway (j.underway s [v] database) visits address =
      j.underway s (v :: visits) address := by
  simp only [underway, EngineState.updateRun, Runs.update_update]
  rfl

/-- A walk that ends before any node is logged changes at most the address of the database. -/
theorem arrived_nil {s : EngineState} {ending : Ending} {q : Point}
    (h : j.pausesAfter service s.pauses ending q.vars = s.pauses) :
    j.arrived service s [] ending q = { s with database := q.database } := by
  rw [arrived, underway_nil, h]

theorem arrived_underway (s : EngineState) (v : Visit) (visits : List Visit)
    (database : Database.Address) (ending : Ending) (q : Point) :
    j.arrived service (j.underway s [v] database) visits ending q =
      j.arrived service s (v :: visits) ending q := by
  unfold arrived
  rw [underway_underway]
  rfl

theorem ended_runs (s : EngineState) (visits : List Visit) (ending : Ending) (q : Point) :
    (j.ended service s visits ending q).runs = s.runs.update j.run fun r =>
      (r.loggedAll (visits.map Visit.entry)).finished ending.outcome.status ending.error
        service.now.unix :=
  s.runs.update_update ..

/-- The record of a run after its walk. -/
theorem ended_find? (s : EngineState) (visits : List Visit) (ending : Ending) (q : Point) :
    (j.ended service s visits ending q).runs.find? j.run = (s.runs.find? j.run).map fun r =>
      (r.loggedAll (visits.map Visit.entry)).finished ending.outcome.status ending.error
        service.now.unix := by
  rw [ended_runs, Runs.find?_update_self]

@[simp] theorem ended_pauses (s : EngineState) (visits : List Visit) (ending : Ending) (q : Point) :
    (j.ended service s visits ending q).pauses = j.pausesAfter service s.pauses ending q.vars := rfl

/-! ### The task -/

/-- How far stopping a run has come: its record is changed, and a copy of it is written to the state
store if there is one, whether or not that works. -/
structure Stops (outcome : RunOutcome) (p : Position) (error : Option String) (s : EngineState)
    (asked : List Query) (progress : Task.Progress EngineState RunResult) : Prop where
  state : progress.state =
    s.updateRun j.run (RunRecord.finished outcome.status error service.now.unix)
  asked : service.AsksToKeep asked progress.asked
  result : ∀ r, progress.outcome = .inr r → r = j.resultOf outcome p error
  ends : service.ArchiveReplies world → progress.outcome = .inr (j.resultOf outcome p error)

theorem finish_run (outcome : RunOutcome) (p : Position) (error : Option String) (s : EngineState)
    (asked : List Query) :
    j.Stops service world outcome p error s asked
      ((j.finish service outcome p error).run world s asked) := by
  have hrun : (j.finish service outcome p error).run world s asked =
      (j.archive service >>= fun _ => pure (j.resultOf outcome p error)).run world
        (s.updateRun j.run (RunRecord.finished outcome.status error service.now.unix)) asked := rfl
  rw [hrun]
  simp only [archive, Task.state, Task.get_bind, Task.done_bind, Task.run]
  split
  · rename_i store record hstore hrecord
    simp only [Archive.save, Task.query, Task.ask_bind, Task.done_bind, Task.run]
    cases hw : world asked _ with
    | none =>
      refine ⟨rfl, Or.inr ⟨store, _, _, hstore, rfl⟩, fun r hr => ?_, fun ha => ?_⟩
      · cases hr
      · have hreply := ha store hstore asked (Archive.key j.run) (Json.text Json.spaced record.dump)
        rw [hw] at hreply
        cases hreply
    | some reply =>
      exact ⟨rfl, Or.inr ⟨store, _, _, hstore, rfl⟩, fun r hr => (Sum.inr.inj hr).symm, fun _ => rfl⟩
  · exact ⟨rfl, Or.inl rfl, fun r hr => (Sum.inr.inj hr).symm, fun _ => rfl⟩

/-- What is left to do after a node has been executed. -/
def proceed (left : Nat) (n : Node) (p : Position) :
    Except Failure (NodeResult × Entries Value) → Task EngineState RunResult
  | .error e => j.finish service .failed ⟨p.visited ++ [n.id], p.vars⟩ (some e.message)
  | .ok (r, vars) => do
    let p : Position := ⟨p.visited ++ [n.id], vars⟩
    Task.change fun s => s.updateRun j.run (RunRecord.logged (logEntry n r))
    match r.awaited with
    | some awaited =>
      Task.change fun s => s.pause (j.pauseAt service n.id awaited vars)
      j.finish service .paused p none
    | none =>
      if r.stop then j.finish service .completed p none
      else j.walk service left (j.nextAfter n r) p

theorem walk_arrived (left : Nat) {place : Option String} (h : place.getD "" = "") (p : Position) :
    j.walk service left place p = j.finish service .completed p none := by
  cases place with
  | none => cases left <;> rfl
  | some id =>
    have hid : id = "" := h
    cases left <;> simp [walk, hid]

theorem walk_limited {id : String} (h : id ≠ "") (p : Position) :
    j.walk service 0 (some id) p =
      j.finish service .limited p (some "Max iterations reached") := by
  simp [walk, h]

theorem walk_halted (left : Nat) {id : String} (h : id ≠ "") (hn : j.document.node id = none)
    (p : Position) :
    j.walk service (left + 1) (some id) p =
      j.finish service .halted p (some ("Node not found: " ++ id)) := by
  simp [walk, h, hn]

theorem walk_node (left : Nat) {id : String} {n : Node} (h : id ≠ "")
    (hn : j.document.node id = some n) (p : Position) :
    j.walk service (left + 1) (some id) p =
      j.executeNode service n p.vars >>= j.proceed service left n p := by
  simp only [walk, if_neg h, hn]
  rfl

theorem executeNode_run (n : Node) (vars : Entries Value) (s : EngineState) (asked : List Query) :
    (j.executeNode service n vars).run world s asked =
      let p := (service.executor (j.context service vars) n).run.run world s.database asked
      ⟨{ s with database := p.state }, p.asked,
        p.outcome.map (Task.within EngineState.database fun a s => { s with database := a }) id⟩ :=
  @Task.run_within _ _ _ EngineState.database (fun a s => { s with database := a })
    (fun _ => rfl) (fun _ _ => rfl) (fun _ _ _ => rfl) ..

theorem exists_place {place : Option String} (h : place.getD "" ≠ "") :
    ∃ id, place = some id ∧ id ≠ "" := by
  cases place with
  | none => exact absurd rfl h
  | some id => exact ⟨id, rfl, h⟩

variable {j service world} {left : Nat} {p q : Point} {visits : List Visit} {ending : Ending}
  {n : Node} {database : Database.Address} {asked : List Query}

theorem exists_id_of_node (h : p.place.bind j.document.node = some n) :
    ∃ id, p.place = some id ∧ id ≠ "" ∧ j.document.node id = some n := by
  obtain ⟨id, hp, hn⟩ := Option.bind_eq_some_iff.mp h
  refine ⟨id, hp, ?_, hn⟩
  rintro rfl
  cases hn

theorem Executes.place_eq {outcome : Except Failure (NodeResult × Entries Value)}
    (h : j.Executes service world p n outcome database asked) :
    p.place = some n.id ∧ j.document.node n.id = some n := by
  obtain ⟨id, hp, hn⟩ := Option.bind_eq_some_iff.mp h.node
  rw [hp, Document.id_of_node hn]
  exact ⟨rfl, hn⟩

/-- A walk at a node that is executed runs as what is left to do after it. -/
theorem Executes.run_eq {outcome : Except Failure (NodeResult × Entries Value)}
    (h : j.Executes service world p n outcome database asked) (left : Nat) (visited : List String)
    (s : EngineState) (hs : s.database = p.database) :
    (j.walk service (left + 1) p.place ⟨visited, p.vars⟩).run world s p.asked =
      (j.proceed service left n ⟨visited, p.vars⟩ outcome).run world
        { s with database := database } asked := by
  obtain ⟨id, hp, hid, hn⟩ := exists_id_of_node h.node
  rw [hp, walk_node j service left hid hn, Task.run_andThen, executeNode_run, hs, h.run]
  rfl

/-- After a node that lets the run go on the walk goes on. -/
theorem proceed_onward {r : NodeResult} (ha : r.awaited = none) (hs : r.stop = false) (left : Nat)
    (visited : List String) (vars before : Entries Value) (s : EngineState) :
    (j.proceed service left n ⟨visited, before⟩ (.ok (r, vars))).run world
        { s with database := database } asked =
      (j.walk service left (j.nextAfter n r) ⟨visited ++ [n.id], vars⟩).run world
        (j.underway s [⟨n, r⟩] database) asked := by
  simp only [proceed, ha, hs]
  rfl

/-- Along nodes that it passes a walk runs as what is left of it. -/
theorem Passes.run_eq (h : j.Passes service world p visits q) (left : Nat) (visited : List String)
    (s : EngineState) (hs : s.database = p.database) :
    (j.walk service (left + visits.length) p.place ⟨visited, p.vars⟩).run world s p.asked =
      (j.walk service left q.place ⟨visited ++ visits.map fun v => v.node.id, q.vars⟩).run world
        (j.underway s visits q.database) q.asked := by
  induction h generalizing visited s with
  | here p =>
    rw [underway_nil, ← hs]
    simp
  | @onward p q n r vars database asked visits h ha hstop hp ih =>
    have hrest := ih (visited ++ [n.id]) (j.underway s [⟨n, r⟩] database) rfl
    rw [List.length_cons, ← Nat.add_assoc, h.run_eq _ _ s hs, proceed_onward ha hstop, hrest,
      underway_underway]
    simp

/-- A walk with an ending runs as the end of it. -/
theorem Walks.run_eq (h : j.Walks service world left p visits ending q) (visited : List String)
    (s : EngineState) (hs : s.database = p.database) :
    (j.walk service left p.place ⟨visited, p.vars⟩).run world s p.asked =
      (j.finish service ending.outcome ⟨visited ++ visitedBy visits ending, q.vars⟩
        ending.error).run world (j.arrived service s visits ending q) q.asked := by
  induction h generalizing visited s with
  | arrived hp =>
    rw [walk_arrived j service _ hp, arrived_nil j service rfl, ← hs, visitedBy_nil]
    simp [Ending.broken, Ending.outcome, Ending.error]
  | limited hp =>
    obtain ⟨id, hplace, hid⟩ := exists_place hp
    rw [hplace, walk_limited j service hid, arrived_nil j service rfl, ← hs, visitedBy_nil]
    simp [Ending.broken, Ending.outcome, Ending.error]
  | halted hp hid hn =>
    rw [hp, walk_halted j service _ hid hn, arrived_nil j service rfl, ← hs, visitedBy_nil]
    simp [Ending.broken, Ending.outcome, Ending.error]
  | failed h =>
    rw [h.run_eq _ visited s hs, arrived_nil j service rfl]
    rfl
  | paused h ha =>
    rw [h.run_eq _ visited s hs]
    simp only [proceed, ha]
    rfl
  | stopped h ha hstop =>
    rw [h.run_eq _ visited s hs]
    simp only [proceed, ha, hstop]
    rfl
  | @onward left p q n r vars database asked visits ending h ha hstop hw ih =>
    have hrest := ih (visited ++ [n.id]) (j.underway s [⟨n, r⟩] database) rfl
    rw [h.run_eq _ visited s hs, proceed_onward ha hstop, hrest, arrived_underway]
    simp

variable (j service world)

/-- A walk has an ending, or it passes some nodes and waits in the midst of the next one. -/
theorem walks_or_stalls (left : Nat) (p : Point) :
    (∃ visits ending q, j.Walks service world left p visits ending q) ∨
      ∃ visits q, j.Passes service world p visits q ∧ visits.length < left ∧
        j.Stalls service world q := by
  induction left generalizing p with
  | zero =>
    by_cases h : p.place.getD "" = ""
    · exact Or.inl ⟨_, _, _, .arrived h⟩
    · exact Or.inl ⟨_, _, _, .limited h⟩
  | succ left ih =>
    by_cases h : p.place.getD "" = ""
    · exact Or.inl ⟨_, _, _, .arrived h⟩
    obtain ⟨id, hp, hid⟩ := exists_place h
    cases hn : j.document.node id with
    | none => exact Or.inl ⟨_, _, _, .halted hp hid hn⟩
    | some n =>
      have hplace : p.place.bind j.document.node = some n := by
        rw [hp]
        exact hn
      cases ho : (service.executor (j.context service p.vars) n).run.run world p.database
          p.asked with
      | mk database asked outcome =>
        cases outcome with
        | inl t => exact Or.inr ⟨[], p, .here p, left.succ_pos, n, _, _, t, hplace, ho⟩
        | inr outcome =>
          have he : j.Executes service world p n outcome database asked := ⟨hplace, ho⟩
          cases outcome with
          | error e => exact Or.inl ⟨_, _, _, .failed he⟩
          | ok outcome =>
            obtain ⟨r, vars⟩ := outcome
            cases ha : r.awaited with
            | some a => exact Or.inl ⟨_, _, _, .paused he ha⟩
            | none =>
              cases hs : r.stop with
              | true => exact Or.inl ⟨_, _, _, .stopped he ha hs⟩
              | false =>
                rcases ih ⟨j.nextAfter n r, vars, database, asked⟩ with
                  ⟨visits, ending, q, hw⟩ | ⟨visits, q, hp, hlen, hq⟩
                · exact Or.inl ⟨_, _, _, .onward he ha hs hw⟩
                · exact Or.inr ⟨_, _, .onward he ha hs hp, Nat.succ_lt_succ hlen, hq⟩

/-- A walk that waits in the midst of a node has changed nothing since the nodes before it. -/
theorem stalls_run {p : Point} (h : j.Stalls service world p) (left : Nat) (visited : List String)
    (s : EngineState) (hs : s.database = p.database) :
    ∃ database asked t, (j.walk service (left + 1) p.place ⟨visited, p.vars⟩).run world s p.asked =
      ⟨{ s with database := database }, asked, .inl t⟩ := by
  obtain ⟨n, database, asked, t, hplace, hr⟩ := h
  obtain ⟨id, hp, hid, hn⟩ := exists_id_of_node hplace
  rw [hp, walk_node j service left hid hn, Task.run_andThen, executeNode_run, hs, hr]
  exact ⟨database, asked, _, rfl⟩

/-- A walk comes to an ending, or waits in the midst of a node. -/
theorem walk_run (left : Nat) (p : Point) (visited : List String) (s : EngineState)
    (hs : s.database = p.database) :
    j.Comes service world left p visited s
      ((j.walk service left p.place ⟨visited, p.vars⟩).run world s p.asked) := by
  rcases j.walks_or_stalls service world left p with
    ⟨visits, ending, q, hw⟩ | ⟨visits, q, hp, hlen, hq⟩
  · have hstops := j.finish_run service world ending.outcome
      ⟨visited ++ visitedBy visits ending, q.vars⟩ ending.error
      (j.arrived service s visits ending q) q.asked
    rw [hw.run_eq visited s hs]
    exact .ended hw hstops.state hstops.result
  · obtain ⟨rest, rfl⟩ : ∃ rest, left = rest + 1 + visits.length :=
      ⟨left - visits.length - 1, by omega⟩
    obtain ⟨database, asked, t, hr⟩ := j.stalls_run service world hq rest
      (visited ++ visits.map fun v => v.node.id) (j.underway s visits q.database) rfl
    rw [hp.run_eq _ visited s hs, hr]
    exact .waiting rfl rfl

variable {j service world}

/-- A walk that has returned has come to an ending. -/
theorem exists_walks_of_result {visited : List String} {s : EngineState} {r : RunResult}
    (hs : s.database = p.database)
    (hr : ((j.walk service left p.place ⟨visited, p.vars⟩).run world s p.asked).outcome = .inr r) :
    ∃ visits ending q, j.Walks service world left p visits ending q ∧
      r = j.resultOf ending.outcome ⟨visited ++ visitedBy visits ending, q.vars⟩ ending.error := by
  cases j.walk_run service world left p visited s hs with
  | ended walks state result => exact ⟨_, _, _, walks, result r hr⟩
  | waiting state outcome =>
    rw [outcome] at hr
    cases hr

end Journey

end ChatFlow
