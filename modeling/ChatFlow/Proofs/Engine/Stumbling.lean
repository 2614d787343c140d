import ChatFlow.Proofs.Condition.Overflow
import ChatFlow.Proofs.Engine.Choosing

/-!
# A branching node that cannot tell

The conditions of a branching node are tried in their order.  As long as each of them can be
told to hold or not, the node follows what it chooses.  It stumbles over the first one that
cannot be told (`Control.Stumbles`): then it fails, chooses nothing, and the run goes on along
the first edge that leaves the node, whatever the conditions say.  There is no third way
(`branch_chooses_or_stumbles`).
-/

namespace ChatFlow

/-- With these variables a branching node comes to a condition that it cannot tell, after conditions that
do not hold. -/
structure Control.Stumbles (scope : Scope) (f : Filled) (test : Condition.Test) (e : Failure) :
    Prop where
  exists_before : ∃ before after, Control.tests f = before ++ test :: after ∧
    ∀ other ∈ before, other.holds scope = .ok false
  fails : test.holds scope = .error e

/-- The result of a node that has failed and does not end the run; it names no place to go on at. -/
structure NodeResult.Stumbled (r : NodeResult) (e : Failure) : Prop where
  success : r.success = false
  error : r.error = some e.message
  awaited : r.awaited = none
  stop : r.stop = false
  next : r.next = none

/-- A walk at a point where a node is executed with this result runs on along the first edge that leaves
the node, and only there, with one node less to go to. -/
def Journey.GoesAlongEdge (j : Journey) (service : Service) (p : Journey.Point) (n : Node)
    (r : NodeResult) (vars : Entries Value) : Prop :=
  ∀ world left visited s, s.database = p.database →
    (j.walk service (left + 1) p.place ⟨visited, p.vars⟩).run world s p.asked =
      (j.walk service left (j.document.next n.id) ⟨visited ++ [n.id], vars⟩).run world
        (j.underway s [⟨n, r⟩] p.database) p.asked

variable {registered : Registered} {c : NodeContext} {n : Node} {f : Filled}
  {test : Condition.Test} {e : Failure}

theorem Control.chooses_or_stumbles (ht : n.type = "conditional") (hf : n.filled = .ok f)
    (scope : Scope) :
    (∃ target, Control.Chooses scope f target) ∨ ∃ test e, Control.Stumbles scope f test e := by
  rcases Condition.none_or_first scope (Control.tests f) with
    hfail | ⟨before, test, after, htests, hfail, htest⟩
  · obtain ⟨s, hs⟩ := exists_default ht hf
    exact Or.inl ⟨s, .default hfail hs⟩
  · cases hholds : test.holds scope with
    | error e => exact Or.inr ⟨test, e, ⟨before, after, htests, hfail⟩, hholds⟩
    | ok b =>
      cases b with
      | false => exact absurd hholds htest
      | true =>
        have hmem : test ∈ Control.tests f := by
          rw [htests]
          exact List.mem_append_right before List.mem_cons_self
        obtain ⟨s, hs⟩ := exists_next ht hf hmem
        exact Or.inl ⟨s, .first htests hfail hholds hs⟩

theorem Control.Stumbles.chosen (h : Control.Stumbles c.scope f test e) :
    Control.chosen c f = .error e := by
  obtain ⟨before, after, htests, hfail⟩ := h.exists_before
  unfold Control.chosen
  rw [htests, Condition.select_skip hfail]
  simp only [Condition.select, h.fails]
  rfl

theorem execute_stumbling (hr : registered.find? "conditional" = none) (ht : n.type = "conditional")
    (hf : n.filled = .ok f) (h : Control.Stumbles c.scope f test e) :
    execute registered c n =
      pure ((Finding.ofFailure n e).result n, (Finding.ofFailure n e).vars n c.scope.vars) := by
  have hhandler : handlerOf? registered n.type = some Control.branch := by
    rw [handlerOf?, ht, hr]
    rfl
  have hhandled : (handled Control.branch c n).run = pure (.error e) := by
    unfold handled
    rw [hf, Task.attempt_ok_bind]
    unfold Control.branch
    rw [h.chosen]
    rfl
  unfold execute findOut
  rw [hhandler]
  simp only [hhandled]
  rfl

theorem Finding.stumbled_ofFailure (ht : n.type = "conditional") (e : Failure) :
    ((Finding.ofFailure n e).result n).Stumbled e where
  success := rfl
  error := rfl
  awaited := rfl
  stop := by
    change typeSuspends n.type = false
    rw [ht]
    rfl
  next := rfl

theorem NodeResult.Stumbled.goesAlongEdge {j : Journey} {service : Service} {p : Journey.Point}
    {r : NodeResult} {vars : Entries Value} (h : r.Stumbled e)
    (hplace : p.place.bind j.document.node = some n)
    (hexecute : service.executor (j.context service p.vars) n = pure (r, vars)) :
    j.GoesAlongEdge service p n r vars := by
  intro world left visited s hs
  have he : j.Executes service world p n (.ok (r, vars)) p.database p.asked :=
    ⟨hplace, by rw [hexecute]; rfl⟩
  have hafter : j.nextAfter n r = j.document.next n.id := by
    rw [Journey.nextAfter, h.next]
  rw [he.run_eq left visited s hs, Journey.proceed_onward h.awaited h.stop, hafter]

/-- **A branching node chooses, or it stumbles and the run goes along its first edge.**  Comparing two
values fails exactly where the number of a whole number too large for a double is needed, and telling
whether a condition holds fails exactly there or where the condition asks for a date that there is not.
A node whose settings can be read either chooses a target or comes to such a condition.  In the first
case it succeeds, and the run goes on where the target says.  In the second it fails and names no place
to go on at, so that the run goes on along the first edge that leaves it. -/
theorem branch_chooses_or_stumbles (registered : Registered) (c : NodeContext)
    (hr : registered.find? "conditional" = none) {stored : Value}
    (hd : Document.ofStored stored = .ok c.document) (ht : n.type = "conditional")
    (hf : n.filled = .ok f) :
    (∀ same a op b e, Condition.compare same a op b = .error e ↔
      Condition.Overflows op a b ∧ e = .tooLarge) ∧
    (∀ (test : Condition.Test) e, test.holds c.scope = .error e ↔
      test.Dateless c.scope ∧ e = .noDate ∨ test.Overflows c.scope ∧ e = .tooLarge) ∧
    ((∃ target, Control.Chooses c.scope f target) ∨
      ∃ test e, Control.Stumbles c.scope f test e) ∧
    (∀ target, Control.Chooses c.scope f target → ∃ r vars, execute registered c n = pure (r, vars) ∧
      r.Follows c.document n.id target ∧
      ∀ (j : Journey) (service : Service) (p : Journey.Point),
        service.executor = execute registered → j.context service p.vars = c →
        p.place.bind j.document.node = some n → j.GoesWhereTold service p n r vars) ∧
    ∀ test e, Control.Stumbles c.scope f test e → ∃ r vars, execute registered c n = pure (r, vars) ∧
      r.Stumbled e ∧
      ∀ (j : Journey) (service : Service) (p : Journey.Point),
        service.executor = execute registered → j.context service p.vars = c →
        p.place.bind j.document.node = some n → j.GoesAlongEdge service p n r vars := by
  refine ⟨fun same a op b e => Condition.compare_eq_error_iff,
    fun test e => Condition.Test.holds_eq_error_iff, Control.chooses_or_stumbles ht hf c.scope,
    fun target h => ?_, fun test e h => ?_⟩
  · have hfollows := Finding.follows_branching (Document.directed_of_ofStored hd) n target
    have hexecute := execute_branching hr ht hf h
    refine ⟨_, _, hexecute, hfollows, ?_⟩
    rintro j service p hservice rfl hplace
    exact hfollows.goesWhereTold hplace (by rw [hservice]; exact hexecute)
  · have hstumbled := Finding.stumbled_ofFailure ht e
    have hexecute := execute_stumbling hr ht hf h
    refine ⟨_, _, hexecute, hstumbled, ?_⟩
    rintro j service p hservice rfl hplace
    exact hstumbled.goesAlongEdge hplace (by rw [hservice]; exact hexecute)

/-- A node that sends a score under five to one node and any other to another one. -/
def Node.grading : Node where
  id := "check"
  type := "conditional"
  config := [("conditions", .list [.object [("variable", .str "score"), ("operator", .str "<"),
      ("value", .int 5), ("next", .str "low")]]), ("default_next", .str "high")]
  position := none
  label := ""
  extra := []

/-- A flow with that node, of which an edge leads to the node for low scores. -/
def Value.grading : Value :=
  .object [
    ("nodes", .list [.object [("id", .str "check"), ("type", .str "conditional"),
        ("config", .object Node.grading.config)],
      .object [("id", .str "low"), ("type", .str "end")],
      .object [("id", .str "high"), ("type", .str "end")]]),
    ("edges", .list [.object [("source", .str "check"), ("target", .str "low")]])]

/-- The document of that flow. -/
def Document.grading : Document where
  nodes := [.grading, ⟨"low", "end", [], none, "", []⟩, ⟨"high", "end", [], none, "", []⟩]
  edges := [⟨"check->low", "check", "low", none, none, []⟩]
  start := none

theorem Document.ofStored_grading : Document.ofStored Value.grading = .ok .grading := by
  with_unfolding_all rfl

/-- What the node can see of a score with four hundred zeros. -/
def NodeContext.grading : NodeContext where
  accounts := Service.alone.accounts
  now := ⟨0⟩
  document := .grading
  scope := ⟨[("score", .int (Decimal.tenTo 400))], ⟨⟨0⟩, "UTC", ""⟩⟩

/-- The condition of the node. -/
def Condition.Test.grading : Condition.Test := ⟨.str "score", .str "<", .int 5, .str "low"⟩

theorem Condition.oversized_grading : Oversized (some (.int (Decimal.tenTo 400))) := by
  change Decimal.leastTooLarge ≤ _
  decide +kernel

theorem Condition.Test.overflows_grading : Test.grading.Overflows NodeContext.grading.scope := by
  refine ⟨fun h => ?_, Or.inl ?_, Or.inl ?_⟩
  · have hdated : NodeContext.grading.scope.locale.isDated = true := by decide +kernel
    exact absurd h.2 (by rw [hdated]; decide)
  · have hoperand : Test.grading.operand NodeContext.grading.scope =
        some (.int (Decimal.tenTo 400)) := by
      with_unfolding_all rfl
    rw [hoperand]
    exact oversized_grading
  · decide

theorem Node.grading_stumbles : ∃ f, Node.grading.filled = .ok f ∧
    f.get "default_next" = .str "high" ∧
    Control.Stumbles NodeContext.grading.scope f .grading .tooLarge := by
  obtain ⟨f, hf, hdefault, htests⟩ : ∃ f, Node.grading.filled = .ok f ∧
      f.get "default_next" = .str "high" ∧ Control.tests f = [.grading] :=
    ⟨_, by with_unfolding_all rfl, by with_unfolding_all rfl, by with_unfolding_all rfl⟩
  exact ⟨f, hf, hdefault, ⟨[], [], htests, List.forall_mem_nil _⟩,
    Condition.Test.holds_eq_error_iff.mpr (Or.inr ⟨Condition.Test.overflows_grading, rfl⟩)⟩

theorem branch_chooses_or_stumbles_grading : ∃ r vars,
    execute [] .grading .grading = pure (r, vars) ∧ r.Stumbled .tooLarge := by
  obtain ⟨f, hf, -, hstumbles⟩ := Node.grading_stumbles
  obtain ⟨-, -, -, -, hfails⟩ :=
    branch_chooses_or_stumbles [] .grading rfl Document.ofStored_grading rfl hf
  obtain ⟨r, vars, hexecute, hr, -⟩ := hfails .grading .tooLarge hstumbles
  exact ⟨r, vars, hexecute, hr⟩

/-- The one condition does not hold of so great a score, so the node should choose the default target; but
it fails, and the edge that it leaves along leads to the node for low scores. -/
theorem great_score_goes_low :
    Condition.compare false (some (.int (Decimal.tenTo 400))) "<" (some (.int 5)) = .error .tooLarge ∧
    ∃ f r vars, Node.grading.filled = .ok f ∧ f.get "default_next" = .str "high" ∧
      execute [] .grading .grading = pure (r, vars) ∧ r.success = false ∧ r.stop = false ∧
      r.next = none ∧ Document.grading.next Node.grading.id = some "low" := by
  obtain ⟨f, hf, hdefault, hstumbles⟩ := Node.grading_stumbles
  have hstumbled := Finding.stumbled_ofFailure (n := .grading) rfl .tooLarge
  have hcompare : Condition.compare false (some (.int (Decimal.tenTo 400))) "<" (some (.int 5)) =
      .error .tooLarge :=
    Condition.compare_eq_error_iff.mpr
      ⟨⟨Or.inl Condition.oversized_grading, Or.inl (by decide)⟩, rfl⟩
  exact ⟨hcompare, f, _, _, hf, hdefault, execute_stumbling rfl rfl hf hstumbles,
    hstumbled.success, hstumbled.stop, hstumbled.next, by with_unfolding_all rfl⟩

end ChatFlow
