import ChatFlow.Proofs.Engine.Course
import ChatFlow.Proofs.Engine.Handling

/-!
# Documents that a run cannot leave

In a closed document every edge ends at a node, and so does every way that a
conditional node can choose.  A run that is at a node then never comes to an id
without a node, so it never halts; and executing a node never fails.  What is left
is that it completes, pauses or reaches its limit (`closed_document_never_breaks`).
-/

namespace ChatFlow

/-- Every way through the document ends at a node of it. -/
structure Document.Closed (d : Document) : Prop where
  ids : "" ∉ d.ids
  edges : ∀ e ∈ d.edges, e.target ∈ d.ids
  /-- A target of a conditional node is an id or the handle of an edge that leaves the node. -/
  branches : ∀ n ∈ d.nodes, ∀ v, n.Offers v → v ≠ "" →
    v ∈ d.ids ∨ ∃ e ∈ d.outgoing n.id, e.sourceHandle = some v

namespace Document

variable {d : Document} {u v : String}

theorem Closed.mem_of_leads (h : d.Closed) (hl : d.Leads u v) : v ∈ d.ids := by
  obtain ⟨e, he, -, rfl⟩ := hl
  exact h.edges e he

theorem Closed.node_isSome (h : d.Closed) (hu : u ∈ d.ids) : (d.node u).isSome := by
  refine node_isSome_iff.mpr ⟨?_, hu⟩
  rintro rfl
  exact h.ids hu

/-- A target that a conditional node gives leads to a node. -/
theorem Closed.branchTarget_mem (h : d.Closed) {n : Node} (hn : n ∈ d.nodes) {target : String}
    (ho : target ≠ "" → n.Offers target) (hv : d.branchTarget n.id target = some v) :
    v ∈ d.ids := by
  unfold branchTarget at hv
  by_cases htarget : target = ""
  · rw [if_pos htarget] at hv
    cases hv
  rw [if_neg htarget] at hv
  by_cases hnode : d.hasNode target = true
  · rw [if_pos hnode] at hv
    obtain rfl := Option.some.inj hv
    exact hasNode_iff.mp hnode
  rw [if_neg hnode] at hv
  rcases h.branches n hn target (ho htarget) htarget with hmem | ⟨e, he, hhandle⟩
  · exact absurd (hasNode_iff.mpr hmem) hnode
  -- the edge with this handle is found, and its target is not empty since it is that of a node
  have hfound : ((d.outgoing n.id).find? fun e => e.sourceHandle = some target).isSome := by
    rw [List.find?_isSome]
    exact ⟨e, he, decide_eq_true hhandle⟩
  obtain ⟨e', he'⟩ := Option.isSome_iff_exists.mp hfound
  have hnext : d.nextBy n.id target = some e'.target := by rw [nextBy, he', Option.map_some]
  have hmem : e'.target ∈ d.ids := h.mem_of_leads (nextBy_leads hnext)
  have hne : e'.target ≠ "" := fun he => h.ids (he ▸ hmem)
  rw [hnext] at hv
  simp only [if_pos hne] at hv
  exact Option.some.inj hv ▸ hmem

theorem byOrder_mem (hu : startNode.byOrder d = some u) : u ∈ d.ids := by
  unfold startNode.byOrder at hu
  split at hu
  · rename_i n hn
    obtain rfl := Option.some.inj hu
    exact List.mem_map_of_mem (List.mem_of_find?_eq_some hn)
  · obtain ⟨n, hn, rfl⟩ := Option.map_eq_some_iff.mp hu
    exact List.mem_map_of_mem (List.mem_of_mem_head? hn)

theorem implicit_mem (hu : startNode.implicit d = some u) : u ∈ d.ids := by
  unfold startNode.implicit at hu
  split at hu
  · split at hu
    · rename_i hid
      obtain rfl := Option.some.inj hu
      exact hasNode_iff.mp hid.2
    · exact byOrder_mem hu
  · exact byOrder_mem hu

/-- A run begins at a node if the start that is given is one. -/
theorem startNode_mem {start : Option String}
    (hs : ∀ id, start = some id → id ≠ "" → id ∈ d.ids) (hu : d.startNode start = some u) :
    u ∈ d.ids := by
  unfold startNode at hu
  split at hu
  · rename_i id
    split at hu
    · rename_i hid
      obtain rfl := Option.some.inj hu
      exact hs id rfl hid
    · exact implicit_mem hu
  · exact implicit_mem hu

end Document

/-- If a call gives a start, it is a node of the document. -/
def Call.StartsIn (d : Document) : Call → Prop
  | run _ _ _ start _ => ∀ id, start = some id → id ≠ "" → id ∈ d.ids
  | webhook _ node _ _ _ => node ≠ "" → node ∈ d.ids
  | resume .. | receive _ => True

theorem Call.place_mem {call : Call} {s : EngineState} {d : Document} (hc : d.Closed)
    (hs : call.StartsIn d) {u : String} (hu : call.place s d = some u) : u ∈ d.ids := by
  cases call with
  | run flow conversation vars start id => exact Document.startNode_mem hs hu
  | webhook flow node vars conversation id =>
    have hnode : ∀ id, some node = some id → id ≠ "" → id ∈ d.ids := by
      rintro id ⟨⟩
      exact hs
    exact Document.startNode_mem hnode hu
  | resume conversation flow further =>
    obtain ⟨p, -, hp⟩ := Option.bind_eq_some_iff.mp hu
    exact hc.mem_of_leads (Document.next_leads hp)
  | receive m =>
    have hnone : ∀ id, none = some id → id ≠ "" → id ∈ d.ids := by
      rintro id ⟨⟩
    simp only [Call.place] at hu
    split at hu
    · exact hc.mem_of_leads (Document.next_leads hu)
    · exact Document.startNode_mem hnone hu

namespace Journey

variable {j : Journey} {service : Service} {world : World} {left : Nat} {p q : Point} {n : Node}
  {r : NodeResult} {vars : Entries Value} {database : Database.Address} {asked : List Query}
  {visits : List Visit} {ending : Ending} {v : String}

/-- From a node of a closed document a run goes on at a node. -/
theorem Executes.next_mem (hx : service.executor = execute []) (hc : j.document.Closed)
    (h : j.Executes service world p n (.ok (r, vars)) database asked)
    (hv : j.nextAfter n r = some v) : v ∈ j.document.ids := by
  rcases h.leads_or_branches hx hv with hl | ⟨hk, f, g, hf, hb, hnext⟩
  · exact hc.mem_of_leads hl
  · obtain ⟨target, ht, htarget⟩ := hb.next
    have hoffers := offers_of_chosen (type_of_branch hk) hf ht rfl
    exact hc.branchTarget_mem (Document.mem_of_node h.place_eq.2) hoffers (htarget.symm.trans hnext)

/-- A walk that begins at a node of a closed document does not come to an id without a node. -/
theorem Walks.not_halted (hx : service.executor = execute []) (hc : j.document.Closed)
    (h : j.Walks service world left p visits ending q)
    (hp : ∀ u, p.place = some u → u ∈ j.document.ids) (id : String) : ending ≠ .halted id := by
  induction h with
  | halted hplace hid hn =>
    have hnode := hc.node_isSome (hp _ hplace)
    rw [hn] at hnode
    cases hnode
  | onward h ha hs hw ih => exact ih fun u hu => h.next_mem hx hc hu
  | _ => exact fun he => nomatch he

end Journey

/-- A run of a closed document completes, pauses or reaches its limit, and a call that leads to one
returns that. -/
theorem closed_document_never_breaks {call : Call} {service : Service} {s : EngineState}
    {document : Document} (h : call.SetsOut service s document) (hc : document.Closed)
    (hs : call.StartsIn document) (world : World) (asked : List Query) :
    call.Yields service s world asked fun r =>
      r.outcome = .completed ∨ r.outcome = .paused ∨ r.outcome = .limited := by
  refine h.yields world asked fun j p visits ending q hdoc hplace hw => ?_
  subst hdoc
  have hp : ∀ u, p.place = some u → u ∈ j.document.ids := by
    intro u hu
    exact Call.place_mem hc hs (hplace.symm.trans hu)
  have hhalted := hw.not_halted h.builtIn hc hp
  have hbroken := hw.unbroken h.builtIn
  cases ending with
  | completed => exact Or.inl rfl
  | limited => exact Or.inr (Or.inr rfl)
  | paused n a => exact Or.inr (Or.inl rfl)
  | halted id => exact absurd rfl (hhalted id)
  | failed n e => cases hbroken

/-! ### A closed document -/

/-- A flow that branches along the handle of an edge and ends. -/
def FlowRecord.choosing : FlowRecord where
  id := "f"
  name := "Choosing"
  userId := none
  description := none
  status := .active
  triggerKeywords := []
  config := .object [
    ("nodes", .list [.object [("id", .str "choose"), ("type", .str "conditional"),
        ("config", .object [("default_next", .str "yes")])],
      .object [("id", .str "done"), ("type", .str "end")]]),
    ("edges", .list [.object [("source", .str "choose"), ("target", .str "done"),
      ("sourceHandle", .str "yes")]])]
  extra := []

/-- The conditional node of that flow. -/
def Node.choosing : Node := ⟨"choose", "conditional", [("default_next", .str "yes")], none, "", []⟩

/-- The document of that flow. -/
def Document.choosing : Document where
  nodes := [.choosing, ⟨"done", "end", [], none, "", []⟩]
  edges := [⟨"choose->done:yes", "choose", "done", some "yes", none, []⟩]
  start := none

theorem Document.ofStored_choosing :
    Document.ofStored FlowRecord.choosing.config = .ok .choosing := by
  with_unfolding_all rfl

theorem Node.choosing_filled : ∃ f, Node.choosing.filled = .ok f ∧
    f.get "default_next" = .str "yes" ∧ f.objects "conditions" = [] :=
  ⟨_, by with_unfolding_all rfl, by with_unfolding_all rfl, by with_unfolding_all rfl⟩

theorem Document.choosing_closed : Document.choosing.Closed where
  ids := by decide
  edges := by decide
  branches := by
    intro n hn v ho hv
    obtain ⟨ht, f, hf, hoffer⟩ := ho
    obtain rfl | hn := List.mem_cons.mp hn
    · obtain ⟨f', hf', hdefault, hconditions⟩ := Node.choosing_filled
      obtain rfl := Except.ok.inj (hf'.symm.trans hf)
      rcases hoffer with hoffer | ⟨condition, hmem, -⟩
      · obtain rfl := Value.str.inj (hdefault.symm.trans hoffer)
        exact Or.inr (by decide)
      · rw [hconditions] at hmem
        cases hmem
    · obtain rfl := List.mem_singleton.mp hn
      exact absurd ht (by decide)

theorem choosing_never_breaks : ∃ r,
    (((Call.run "f" "c" [] (some "choose") none).task .alone).run.run .refusing
        (.start [("f", .choosing)] none) []).outcome = .inr (.ok (some r)) ∧
      (r.outcome = .completed ∨ r.outcome = .paused ∨ r.outcome = .limited) := by
  have hs : (Call.run "f" "c" [] (some "choose") none).SetsOut .alone
      (.start [("f", .choosing)] none) .choosing :=
    ⟨rfl, ⟨.choosing, rfl, Document.ofStored_choosing⟩, trivial⟩
  have hstart : (Call.run "f" "c" [] (some "choose") none).StartsIn .choosing := by
    rintro id ⟨⟩ -
    decide
  have hy := closed_document_never_breaks hs Document.choosing_closed hstart .refusing []
  obtain ⟨v, hv⟩ := hy.returns World.refusing_replies
  obtain ⟨r, rfl, hr⟩ := hy.result v hv
  exact ⟨r, hv, hr⟩

end ChatFlow
