import ChatFlow.Proofs.Engine.Course
import ChatFlow.Proofs.Engine.Walk
import ChatFlow.Proofs.Node.Choosing

/-!
# A run goes on where a branching node says

A branching node whose settings can be read chooses a target, and does nothing else.  The
run goes on where the target leads, whatever edges leave the node, or ends if the target
is empty; and the conditions behind the one that chooses have no part in it
(`branch_follows_first_that_holds`).
-/

namespace ChatFlow

/-- The result of a branching node that has chosen a target: an empty one ends the run, and any other
sends it to where the target leads. -/
structure NodeResult.Follows (r : NodeResult) (d : Document) (id target : String) : Prop where
  success : r.success = true
  awaited : r.awaited = none
  ends : target = "" → r.stop = true ∧ r.next = none
  goesOn : target ≠ "" → r.stop = false ∧ ∃ v, r.next = some v ∧ v ≠ "" ∧ d.BranchesTo id target v

/-- A walk at a point where a node is executed with this result runs on from the place that the result
names, and only from there, with one node less to go to. -/
def Journey.GoesWhereTold (j : Journey) (service : Service) (p : Journey.Point) (n : Node)
    (r : NodeResult) (vars : Entries Value) : Prop :=
  ∀ world left visited s, s.database = p.database →
    (j.walk service (left + 1) p.place ⟨visited, p.vars⟩).run world s p.asked =
      (j.walk service left r.next ⟨visited ++ [n.id], vars⟩).run world
        (j.underway s [⟨n, r⟩] p.database) p.asked

variable {registered : Registered} {c : NodeContext} {n : Node} {f : Filled} {target : String}

theorem Finding.follows_branching (hd : c.document.Directed) (n : Node) (target : String) :
    ((branching c.document n target).result n).Follows c.document n.id target := by
  unfold branching
  by_cases hempty : target = ""
  · subst hempty
    exact ⟨rfl, rfl, fun _ => ⟨rfl, rfl⟩, fun h => absurd rfl h⟩
  · obtain ⟨v, hv, hne, hleads⟩ := hd.branchTarget n.id hempty
    rw [hv]
    exact ⟨rfl, rfl, fun h => absurd h hempty, fun _ => ⟨rfl, v, rfl, hne, hleads⟩⟩

theorem execute_branching (hr : registered.find? "conditional" = none) (ht : n.type = "conditional")
    (hf : n.filled = .ok f) (h : Control.Chooses c.scope f target) :
    execute registered c n = pure ((Finding.branching c.document n target).result n,
      (Finding.branching c.document n target).vars n c.scope.vars) := by
  unfold execute
  rw [findOut_branching hr ht hf h]
  rfl

/-- Nothing of a node but its id and its type shows in what comes of it. -/
theorem Finding.result_congr (g : Finding) {n' : Node} (hid : n'.id = n.id) (ht : n'.type = n.type)
    (before : Entries Value) : g.result n' = g.result n ∧ g.vars n' before = g.vars n before := by
  have hresult : g.result n' = g.result n := by
    simp only [result, recordOf, hid, ht]
  exact ⟨hresult, by rw [vars, vars, hresult, hid]⟩

theorem NodeResult.Follows.goesWhereTold {j : Journey} {service : Service} {p : Journey.Point}
    {r : NodeResult} {vars : Entries Value} (h : r.Follows j.document n.id target)
    (hplace : p.place.bind j.document.node = some n)
    (hexecute : service.executor (j.context service p.vars) n = pure (r, vars)) :
    j.GoesWhereTold service p n r vars := by
  intro world left visited s hs
  have he : j.Executes service world p n (.ok (r, vars)) p.database p.asked :=
    ⟨hplace, by rw [hexecute]; rfl⟩
  rw [he.run_eq left visited s hs]
  by_cases hempty : target = ""
  · obtain ⟨hstop, hnext⟩ := h.ends hempty
    rw [hnext, Journey.walk_arrived j service left rfl]
    simp only [Journey.proceed, h.awaited, hstop]
    rfl
  · obtain ⟨hstop, v, hnext, hne, -⟩ := h.goesOn hempty
    have hafter : j.nextAfter n r = r.next := by
      rw [Journey.nextAfter, hnext]
      exact if_neg hne
    rw [Journey.proceed_onward h.awaited hstop, hafter]

/-- **A branching node sends the run where the first condition that holds says.**  If every condition can
be told to hold or not, the node chooses a target: that of the first condition that holds, else the
default one.  Executing the node asks nothing and succeeds.  An empty target ends the run, whatever edges
leave the node; any other names the next node itself, or the handle of an edge that leads there, or
stands for itself, and the walk goes on there.  The conditions behind the one that holds could be any
others. -/
theorem branch_follows_first_that_holds (registered : Registered) (c : NodeContext)
    (hr : registered.find? "conditional" = none) {stored : Value}
    (hd : Document.ofStored stored = .ok c.document) (ht : n.type = "conditional")
    (hf : n.filled = .ok f) :
    ((∀ test ∈ Control.tests f, ∃ b, test.holds c.scope = .ok b) →
      ∃ target, Control.Chooses c.scope f target) ∧
    (∀ target, Control.Chooses c.scope f target → ∃ r vars, execute registered c n = pure (r, vars) ∧
      r.Follows c.document n.id target ∧
      ∀ (j : Journey) (service : Service) (p : Journey.Point),
        service.executor = execute registered → j.context service p.vars = c →
        p.place.bind j.document.node = some n → j.GoesWhereTold service p n r vars) ∧
    ∀ n' f' before test after after', n'.id = n.id → n'.type = n.type → n'.filled = .ok f' →
      Control.tests f = before ++ test :: after → Control.tests f' = before ++ test :: after' →
      (∀ other ∈ before, other.holds c.scope = .ok false) → test.holds c.scope = .ok true →
      execute registered c n' = execute registered c n := by
  refine ⟨Control.exists_chooses ht hf, fun target h => ?_, ?_⟩
  · have hfollows := Finding.follows_branching (Document.directed_of_ofStored hd) n target
    have hexecute := execute_branching hr ht hf h
    refine ⟨_, _, hexecute, hfollows, ?_⟩
    rintro j service p hservice rfl hplace
    exact hfollows.goesWhereTold hplace (by rw [hservice]; exact hexecute)
  · intro n' f' before test after after' hid htype hf' htests htests' hfail hholds
    obtain ⟨s, hs⟩ : ∃ s, test.next = .str s := by
      refine Control.exists_next ht hf ?_
      rw [htests]
      exact List.mem_append_right before List.mem_cons_self
    have hexecute := execute_branching hr ht hf (.first htests hfail hholds hs)
    have hexecute' := execute_branching hr (htype.trans ht) hf' (.first htests' hfail hholds hs)
    obtain ⟨hresult, hvars⟩ :=
      (Finding.branching c.document n s).result_congr hid htype c.scope.vars
    have hbranching : Finding.branching c.document n' s = Finding.branching c.document n s := by
      unfold Finding.branching
      rw [hid]
    rw [hexecute, hexecute', hbranching, hresult, hvars]

/-- A node that asks whether the answer was no or yes; whatever comes third is not looked at. -/
def Node.voting : Node where
  id := "vote"
  type := "conditional"
  config := [("conditions", .list [
    .object [("variable", .str "answer"), ("value", .str "no"), ("next", .str "end")],
    .object [("variable", .str "answer"), ("value", .str "yes"), ("next", .str "approved")],
    .object [("variable", .str "answer"), ("operator", .str "!="), ("next", .str "never")]])]
  position := none
  label := ""
  extra := []

/-- A flow with that node, from which edges lead back to it and, for a yes, to the end. -/
def Value.voting : Value :=
  .object [
    ("nodes", .list [.object [("id", .str "vote"), ("type", .str "conditional"),
        ("config", .object Node.voting.config)],
      .object [("id", .str "done"), ("type", .str "end")]]),
    ("edges", .list [.object [("source", .str "vote"), ("target", .str "vote")],
      .object [("source", .str "vote"), ("target", .str "done"), ("sourceHandle", .str "approved")]])]

/-- The document of that flow. -/
def Document.voting : Document where
  nodes := [.voting, ⟨"done", "end", [], none, "", []⟩]
  edges := [⟨"vote->vote", "vote", "vote", none, none, []⟩,
    ⟨"vote->done:approved", "vote", "done", some "approved", none, []⟩]
  start := none

theorem Document.ofStored_voting : Document.ofStored Value.voting = .ok .voting := by
  with_unfolding_all rfl

/-- What the node can see after a yes. -/
def NodeContext.voting : NodeContext where
  accounts := Service.alone.accounts
  now := ⟨0⟩
  document := .voting
  scope := ⟨[("answer", .str "yes")], ⟨⟨0⟩, "UTC", ""⟩⟩

theorem Node.voting_chooses :
    ∃ f, Node.voting.filled = .ok f ∧ Control.Chooses NodeContext.voting.scope f "approved" := by
  obtain ⟨f, hf, no, yes, third, htests, hno, hyes, hnext⟩ : ∃ f, Node.voting.filled = .ok f ∧
      ∃ no yes third, Control.tests f = [no] ++ yes :: [third] ∧
        no.holds NodeContext.voting.scope = .ok false ∧
        yes.holds NodeContext.voting.scope = .ok true ∧ yes.next = .str "approved" :=
    ⟨_, by with_unfolding_all rfl, _, _, _, by with_unfolding_all rfl, by with_unfolding_all rfl,
      by with_unfolding_all rfl, by with_unfolding_all rfl⟩
  have hfail : ∀ other ∈ [no], other.holds NodeContext.voting.scope = .ok false := by
    intro other hmem
    obtain rfl := List.mem_singleton.mp hmem
    exact hno
  exact ⟨f, hf, .first htests hfail hyes hnext⟩

/-- The second condition holds, and its target is the handle of an edge. -/
theorem branch_follows_first_that_holds_voting : ∃ r vars,
    execute [] .voting .voting = pure (r, vars) ∧ r.success = true ∧ r.stop = false ∧
      r.next = some "done" := by
  obtain ⟨f, hf, hchooses⟩ := Node.voting_chooses
  obtain ⟨-, hfollows, -⟩ :=
    branch_follows_first_that_holds [] .voting rfl Document.ofStored_voting rfl hf
  obtain ⟨r, vars, hexecute, hr, -⟩ := hfollows "approved" hchooses
  obtain ⟨hstop, v, hnext, -, hleads⟩ := hr.goesOn (by decide)
  refine ⟨r, vars, hexecute, hr.success, hstop, ?_⟩
  cases hleads with
  | node h => exact absurd h (by decide)
  | @handle e h he =>
    obtain rfl := Option.some.inj he
    exact hnext
  | itself h he => cases he

end ChatFlow
