import ChatFlow.Proofs.Document.Trail
import ChatFlow.Proofs.Engine.Course
import ChatFlow.Proofs.Engine.Handling

/-!
# Runs of plain documents

In a plain document no node chooses where the run goes on, ends it or waits.  Such a
run goes the way along the edges whatever its nodes are set to do and whatever comes
of it (`Walks.follows`).  Two runs from one start, with one limit, of documents with
the same ids and edges therefore visit the same nodes and end in the same way
(`plain_runs_agree`).
-/

namespace ChatFlow

/-- A document of plain nodes. -/
def Document.Plain (d : Document) : Prop := ∀ n ∈ d.nodes, n.Plain

namespace Journey

variable {j : Journey} {service : Service} {world : World} {left : Nat} {p q : Point} {n : Node}
  {r : NodeResult} {vars : Entries Value} {database : Database.Address} {asked : List Query}
  {visits : List Visit} {ending : Ending}

/-- From a node of a plain document the run goes on along the edges. -/
theorem Executes.passes (hx : service.executor = execute []) (hd : j.document.Plain)
    {outcome : Except Failure (NodeResult × Entries Value)}
    (h : j.Executes service world p n outcome database asked) :
    ∃ r vars, outcome = .ok (r, vars) ∧ r.awaited = none ∧ r.stop = false ∧
      j.nextAfter n r = j.document.next n.id := by
  obtain ⟨g, hg, rfl⟩ := h.steers hx
  have hp := hg.passes (hd n (Document.mem_of_node h.place_eq.2))
  have hnext : (g.result n).next = none := hp.next
  refine ⟨_, _, rfl, hp.awaited, hp.stop, ?_⟩
  rw [nextAfter, hnext]

/-- A walk through a plain document goes the way along the edges. -/
theorem Walks.follows (hx : service.executor = execute []) (hd : j.document.Plain)
    (h : j.Walks service world left p visits ending q) :
    j.document.Follows p.place left (visitedBy visits ending) ending.outcome := by
  induction h with
  | arrived hp => exact .completed hp
  | limited hp => exact .limited hp
  | halted hp hid hn =>
    rw [hp]
    exact .halted hid hn
  | failed h =>
    obtain ⟨r, vars, ho, -⟩ := h.passes hx hd
    cases ho
  | paused h ha =>
    obtain ⟨r, vars, ho, hnone, -⟩ := h.passes hx hd
    cases ho
    rw [hnone] at ha
    cases ha
  | stopped h ha hs =>
    obtain ⟨r, vars, ho, -, hgoes, -⟩ := h.passes hx hd
    cases ho
    rw [hgoes] at hs
    cases hs
  | @onward left p q n r vars database asked visits ending h ha hs hw ih =>
    obtain ⟨r, vars, ho, -, -, hnext⟩ := h.passes hx hd
    cases ho
    obtain ⟨hplace, hn⟩ := h.place_eq
    have hnode : j.document.IsNode (some n.id) := by
      rw [Document.IsNode, Option.bind_some, hn]
      rfl
    rw [hplace, visitedBy_cons]
    rw [hnext] at ih
    exact .cons hnode ih

end Journey

/-- The result of a run of a plain document, which only the ids of its nodes, its edges, the start
and the limit decide. -/
theorem Call.SetsOut.follows {call : Call} {service : Service} {s : EngineState}
    {document : Document} (h : call.SetsOut service s document) (hd : document.Plain)
    (world : World) (asked : List Query) :
    call.Yields service s world asked fun r =>
      document.Follows (call.place s document) service.maxNodes.toNat r.visited r.outcome := by
  refine h.yields world asked fun j p visits ending q hdoc hplace hw => ?_
  subst hdoc
  rw [← hplace]
  exact hw.follows h.builtIn hd

/-- A run of a plain document visits the longest beginning of the way along the edges that consists
of nodes and is within the limit.  A run of another plain document that has the same ids, edges,
start and limit visits the same nodes with the same outcome, whatever else is different. -/
theorem plain_runs_agree {call call' : Call} {service service' : Service} {s s' : EngineState}
    {document document' : Document} (h : call.SetsOut service s document)
    (h' : call'.SetsOut service' s' document') (hd : document.Plain) (hd' : document'.Plain)
    (hids : document'.ids = document.ids) (hedges : document'.edges = document.edges)
    (hplace : call'.place s' document' = call.place s document)
    (hlimit : service'.maxNodes = service.maxNodes) (world world' : World)
    (asked asked' : List Query) :
    call.Yields service s world asked fun r =>
      document.Follows (call.place s document) service.maxNodes.toNat r.visited r.outcome ∧
        call'.Yields service' s' world' asked' fun r' =>
          r'.visited = r.visited ∧ r'.outcome = r.outcome := by
  have hy := h.follows hd world asked
  have hy' := h'.follows hd' world' asked'
  rw [hplace, hlimit] at hy'
  refine ⟨fun v hv => ?_, hy.returns⟩
  obtain ⟨r, rfl, hr⟩ := hy.result v hv
  refine ⟨r, rfl, hr, fun v' hv' => ?_, hy'.returns⟩
  obtain ⟨r', rfl, hr'⟩ := hy'.result v' hv'
  exact ⟨r', rfl, hr.unique (hr'.congr hids.symm hedges.symm)⟩

/-! ### Two flows round the same nodes -/

/-- A flow that goes the same way as `FlowRecord.circling` but asks a service at its second node. -/
def FlowRecord.calling : FlowRecord where
  id := "f"
  name := "Calling"
  userId := none
  description := none
  status := .active
  triggerKeywords := []
  config := .object [
    ("nodes", .list [.object [("id", .str "a"), ("type", .str "on_message")],
      .object [("id", .str "b"), ("type", .str "http"),
        ("config", .object [("url", .str "http://example.com")])]]),
    ("edges", .list [.object [("source", .str "a"), ("target", .str "b")],
      .object [("source", .str "b"), ("target", .str "a")]])]
  extra := []

/-- The document of that flow. -/
def Document.calling : Document where
  nodes := [⟨"a", "on_message", [], none, "", []⟩,
    ⟨"b", "http", [("url", .str "http://example.com")], none, "", []⟩]
  edges := [⟨"a->b", "a", "b", none, none, []⟩, ⟨"b->a", "b", "a", none, none, []⟩]
  start := none

theorem Document.ofStored_calling :
    Document.ofStored FlowRecord.calling.config = .ok .calling := by
  with_unfolding_all rfl

theorem plain_runs_agree_circling : ∃ r r',
    (((Call.run "f" "c" [] (some "a") none).task .alone).run.run .refusing
        .circling []).outcome = .inr (.ok (some r)) ∧
      (((Call.run "f" "c" [("name", .str "Ada")] (some "a") none).task .alone).run.run .refusing
        (.start [("f", .calling)] none) []).outcome = .inr (.ok (some r')) ∧
      Document.circling.Follows (some "a") Service.alone.maxNodes.toNat r.visited r.outcome ∧
      r'.visited = r.visited ∧ r'.outcome = r.outcome := by
  have h : (Call.run "f" "c" [] (some "a") none).SetsOut .alone .circling .circling :=
    ⟨rfl, ⟨.circling, rfl, Document.ofStored_circling⟩, trivial⟩
  have h' : (Call.run "f" "c" [("name", .str "Ada")] (some "a") none).SetsOut .alone
      (.start [("f", .calling)] none) .calling :=
    ⟨rfl, ⟨.calling, rfl, Document.ofStored_calling⟩, trivial⟩
  have hd : Document.circling.Plain := by
    unfold Document.Plain Node.Plain
    decide
  have hd' : Document.calling.Plain := by
    unfold Document.Plain Node.Plain
    decide
  have hy := plain_runs_agree h h' hd hd' rfl rfl rfl rfl .refusing .refusing [] []
  obtain ⟨v, hv⟩ := hy.returns World.refusing_replies
  obtain ⟨r, rfl, hr, hy'⟩ := hy.result v hv
  obtain ⟨v', hv'⟩ := hy'.returns World.refusing_replies
  obtain ⟨r', rfl, hagree⟩ := hy'.result v' hv'
  exact ⟨r, r', hv, hv', hr, hagree⟩

end ChatFlow
