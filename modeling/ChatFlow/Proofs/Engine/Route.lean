import Mathlib.Data.List.Chain
import ChatFlow.Proofs.Engine.Course
import ChatFlow.Proofs.Engine.Handling

/-!
# Where a run goes

A run visits only nodes of its document.  It begins where the call or the document
says, a resumed run at the target of an edge that leaves the node at which it
paused, and every step follows an edge or the settings of a conditional node.
-/

namespace ChatFlow

/-! ### Steps -/

namespace Journey

variable {j : Journey} {service : Service} {world : World} {left : Nat} {p q : Point} {n : Node}
  {r : NodeResult} {vars : Entries Value} {database : Database.Address} {asked : List Query}
  {visits : List Visit} {ending : Ending} {v : String}

/-- From a node a walk goes on only where the document lets it go. -/
theorem Executes.names (hx : service.executor = execute [])
    (h : j.Executes service world p n (.ok (r, vars)) database asked)
    (hv : j.nextAfter n r = some v) : j.document.Names n.id v := by
  rcases h.leads_or_branches hx hv with hl | ⟨hk, f, g, hf, hb, hnext⟩
  · exact Or.inl hl
  · rcases hb.names hk hf hnext with hl | ho
    · exact Or.inl hl
    · exact Or.inr ⟨n, h.place_eq.2, ho⟩

/-- The ids that a walk visits are those of nodes, the first is where the walk begins, and each
lets the next one follow. -/
structure Route (j : Journey) (place : Option String) (ids : List String) : Prop where
  nodes : ∀ u ∈ ids, ∃ n ∈ j.document.nodes, n.id = u
  head : ∀ u, ids.head? = some u → place = some u
  chain : ids.IsChain j.document.Names

theorem Route.nil (j : Journey) (place : Option String) : j.Route place [] :=
  ⟨fun _ h => (nomatch h), fun _ h => (nomatch h), .nil⟩

theorem Executes.route {outcome : Except Failure (NodeResult × Entries Value)}
    (h : j.Executes service world p n outcome database asked) : j.Route p.place [n.id] := by
  obtain ⟨hp, hn⟩ := h.place_eq
  refine ⟨fun u hu => ?_, fun u hu => ?_, .singleton _⟩
  · obtain rfl := List.mem_singleton.mp hu
    exact ⟨n, Document.mem_of_node hn, rfl⟩
  · obtain rfl := Option.some.inj hu
    exact hp

theorem Route.cons (h : j.Route p.place [n.id]) {next : Option String} {ids : List String}
    (hr : j.Route next ids) (hn : ∀ v, next = some v → j.document.Names n.id v) :
    j.Route p.place (n.id :: ids) := by
  refine ⟨fun u hu => ?_, fun u hu => h.head u hu, ?_⟩
  · rcases List.mem_cons.mp hu with rfl | hu
    · exact h.nodes _ List.mem_cons_self
    · exact hr.nodes u hu
  · cases ids with
    | nil => exact .singleton _
    | cons v rest => exact .cons_cons (hn v (hr.head v rfl)) hr.chain

theorem Walks.route (hx : service.executor = execute [])
    (h : j.Walks service world left p visits ending q) :
    j.Route p.place (visits.map fun v => v.node.id) := by
  induction h with
  | paused h ha => exact h.route
  | stopped h ha hs => exact h.route
  | onward h ha hs hw ih => exact h.route.cons ih fun v hv => h.names hx hv
  | _ => exact .nil j _

end Journey

/-! ### Beginnings -/

/-- Where a run of a document begins: at the start that is given, if one is, else where the document
says.  An empty start is none. -/
def Document.BeginsAt (d : Document) (start : Option String) (u : String) : Prop :=
  if start.getD "" = "" then d.startNode none = some u else start = some u

/-- Where the run that a call is about begins; a paused one goes on along an edge. -/
def Call.BeginsAt (s : EngineState) (d : Document) (u : String) : Call → Prop
  | run _ _ _ start _ => d.BeginsAt start u
  | webhook _ node _ _ _ => d.BeginsAt (some node) u
  | resume conversation _ _ =>
    ∃ p, s.pauses.lookup conversation = some p ∧ d.Leads p.node u
  | receive m =>
    match s.pauses.lookup m.phone with
    | some p => d.Leads p.node u
    | none => d.startNode none = some u

theorem Document.beginsAt_of_startNode {d : Document} {start : Option String} {u : String}
    (h : d.startNode start = some u) : d.BeginsAt start u := by
  unfold BeginsAt
  cases start with
  | none => exact h
  | some id =>
    by_cases hid : id = ""
    · rw [Option.getD_some, if_pos hid]
      simpa [startNode, hid] using h
    · rw [Option.getD_some, if_neg hid]
      simpa [startNode, hid] using h

variable {service : Service} {s s' : EngineState} {call : Call} {world : World}
  {asked asked' : List Query}

theorem Call.Opens.begins {o : Opening} {s₁ : EngineState} {d : Departure} {u : String}
    (h : call.Opens service s o s₁) (hd : o.departure? = some d) (hu : d.place = some u) :
    call.BeginsAt s d.journey.document u := by
  cases h with
  | run h =>
    exact Document.beginsAt_of_startNode ((h.departs hd).2.1.symm.trans hu)
  | webhook h =>
    exact Document.beginsAt_of_startNode ((h.departs hd).2.1.symm.trans hu)
  | resume h =>
    obtain ⟨-, ⟨p, hl, -, hp⟩, -⟩ := h.departs hd
    exact ⟨p, hl, Document.next_leads (hp.symm.trans hu)⟩
  | unread _ _ => cases hd
  | reply hl _ h =>
    obtain ⟨-, ⟨p', hl', -, hp⟩, -⟩ := h.departs hd
    simp only [Call.BeginsAt, hl']
    exact Document.next_leads (hp.symm.trans hu)
  | unmatched _ _ => cases hd
  | unmatchable _ _ => cases hd
  | keyword hl _ h =>
    simp only [Call.BeginsAt, hl]
    exact (h.departs hd).2.1.symm.trans hu

/-- What a call has visited is a way through the document of its flow, from where the call begins. -/
theorem visited_follows_document (hx : service.executor = execute []) {r : RunResult}
    (h : (call.task service).run.run world s asked = ⟨s', asked', .inr (.ok (some r))⟩) :
    r.outcome = .unknownFlow ∧ r.visited = [] ∨
      ∃ document, call.Reads s document ∧
        (∀ u ∈ r.visited, ∃ n ∈ document.nodes, n.id = u) ∧
        (∀ u, r.visited.head? = some u → call.BeginsAt s document u) ∧
        r.visited.IsChain document.Names := by
  have hc := call.comes service s world asked
  rw [h] at hc
  cases hc with
  | failed opens hp => cases hp
  | answered opens hp =>
    obtain ⟨rfl, rfl, ho⟩ := Task.Progress.mk.inj hp
    obtain rfl := Except.ok.inj (Sum.inr.inj ho)
    obtain ⟨flow, rfl⟩ := opens.eq_unknownFlow
    exact Or.inl ⟨rfl, rfl⟩
  | @walked o d s₁ visits ending q opens departs walks state answer =>
    obtain rfl := Option.some.inj (Except.ok.inj (answer _ rfl))
    have hv : Journey.visitedBy visits ending = visits.map fun v => v.node.id := by
      rw [Journey.visitedBy, walks.unbroken hx, List.append_nil]
    have route := walks.route hx
    refine Or.inr ⟨d.journey.document, opens.reads departs, ?_⟩
    rw [Journey.resultOf, hv]
    exact ⟨route.nodes, fun u hu => opens.begins departs (route.head u hu), route.chain⟩
  | waiting opens departs state outcome => cases outcome

theorem visited_follows_document_waiting :
    ∃ document, (Call.run "f" "c" [] none (some "e")).Reads .waiting document ∧
      (Call.run "f" "c" [] none (some "e")).BeginsAt .waiting document "ask" := by
  have h : Call.waiting =
      ⟨Call.waiting.state, Call.waiting.asked, .inr (.ok (some .waiting))⟩ := by
    rw [← Call.waiting_outcome]
  rcases visited_follows_document rfl h with ⟨hu, -⟩ | ⟨document, hr, -, hb, -⟩
  · cases hu
  · exact ⟨document, hr, hb "ask" rfl⟩

end ChatFlow
