import ChatFlow.Proofs.Engine.Walk
import ChatFlow.Proofs.Node.Branching

/-!
# What handlers do to walks

With the handlers of this library executing a node never fails, a walk waits only
at a node that has done what it is for, and it goes on only where the document
lets it go (`Executes.leads_or_branches`).  Of handlers that were registered only
the second of these is asked (`Handler.WaitsOnSuccess`).
-/

namespace ChatFlow

/-! ### Waiting -/

/-- A handler that makes a run wait only if it did what the node is for. -/
def Handler.WaitsOnSuccess (handler : Handler) : Prop :=
  ∀ c n f, Task.Ensures (fun g => ∀ a, g.awaited = some a → g.success = true) (handler c n f)

/-- A way to execute nodes that makes a run wait only if the node did what it is for. -/
def Executor.WaitsOnSuccess (executor : Executor) : Prop :=
  ∀ c n, Task.Ensures (fun r => ∀ a, r.1.awaited = some a → r.1.success = true) (executor c n)

theorem NodeKind.handler_waitsOnSuccess (kind : NodeKind) : kind.handler.WaitsOnSuccess :=
  fun c n f => (ensures_steers c n f kind).mono fun _ hg _ ha => (hg.awaited ha).2

theorem handlerOf?_waitsOnSuccess {registered : Registered}
    (hr : ∀ type handler, registered.find? type = some handler → handler.WaitsOnSuccess)
    {type : String} {handler : Handler} (h : handlerOf? registered type = some handler) :
    handler.WaitsOnSuccess := by
  unfold handlerOf? at h
  cases hf : registered.find? type with
  | some own =>
    rw [hf] at h
    obtain rfl := Option.some.inj h
    exact hr type own hf
  | none =>
    rw [hf, Option.none_or] at h
    obtain ⟨kind, -, rfl⟩ := Option.map_eq_some_iff.mp h
    exact kind.handler_waitsOnSuccess

theorem Handler.WaitsOnSuccess.handled {handler : Handler} (h : handler.WaitsOnSuccess)
    (c : NodeContext) (n : Node) :
    Task.Ensures (fun g => ∀ a, g.awaited = some a → g.success = true) (handled handler c n) := by
  unfold ChatFlow.handled
  rw [Task.ensures_bind, Task.ensures_attempt]
  intro f _
  refine (Task.ensures_bind _ _ _).mpr ?_
  refine (h c n f).mono fun g hg => Task.ensures_then fun _ => ?_
  exact Task.Ensures.pure hg

/-- Nodes that are executed by handlers which wait only on success wait only on success. -/
theorem execute_waitsOnSuccess {registered : Registered}
    (hr : ∀ type handler, registered.find? type = some handler → handler.WaitsOnSuccess) :
    (execute registered).WaitsOnSuccess := by
  intro c n
  unfold execute
  refine (Task.ensures_lift_bind _ _ _).mpr ?_
  unfold findOut
  cases hk : handlerOf? registered n.type with
  | none => exact Task.Always.pure (Task.Ensures.pure fun a ha => (nomatch ha))
  | some handler =>
    have hh := ((handlerOf?_waitsOnSuccess hr hk).handled c n).always
    refine (Task.always_bind _ _ _).mpr (hh.mono fun r hr => ?_)
    cases r with
    | error e =>
      exact Task.Always.pure (Task.Ensures.pure fun a ha => (nomatch ha))
    | ok g => exact Task.Always.pure (Task.Ensures.pure (hr g rfl))

theorem execute_nil_waitsOnSuccess : (execute []).WaitsOnSuccess :=
  execute_waitsOnSuccess fun _ _ h => by cases h

namespace Journey

variable {j : Journey} {service : Service} {world : World} {left : Nat} {p q : Point} {n : Node}
  {r : NodeResult} {vars : Entries Value} {database : Database.Address} {asked : List Query}
  {visits : List Visit} {ending : Ending} {a : Awaited}

theorem Executes.success (hx : service.executor.WaitsOnSuccess)
    (h : j.Executes service world p n (.ok (r, vars)) database asked) (ha : r.awaited = some a) :
    r.success = true :=
  (hx _ n).always.of_run h.run _ rfl a ha

/-- The last visit of a walk that pauses is the one of the node that waits. -/
theorem Walks.exists_paused (h : j.Walks service world left p visits (.paused n a) q) :
    ∃ before r p' vars database asked, visits = before ++ [⟨n, r⟩] ∧ r.awaited = some a ∧
      j.Executes service world p' n (.ok (r, vars)) database asked := by
  generalize he : Ending.paused n a = ending at h
  induction h with
  | arrived _ => cases he
  | limited _ => cases he
  | halted _ _ _ => cases he
  | failed _ => cases he
  | paused h ha =>
    obtain ⟨rfl, rfl⟩ := Ending.paused.inj he
    exact ⟨[], _, _, _, _, _, rfl, ha, h⟩
  | stopped _ _ _ => cases he
  | onward h ha hs hw ih =>
    obtain ⟨before, r, p', vars, database, asked, rfl, hr, hx⟩ := ih he
    exact ⟨_ :: before, r, p', vars, database, asked, rfl, hr, hx⟩

/-! ### The handlers of this library -/

theorem Executes.steers (hx : service.executor = execute [])
    {outcome : Except Failure (NodeResult × Entries Value)}
    (h : j.Executes service world p n outcome database asked) :
    ∃ g, n.Steers (j.context service p.vars) g ∧ outcome = .ok (g.result n, g.vars n p.vars) := by
  have hr := h.run
  rw [hx] at hr
  exact (always_execute _ n).of_run hr

theorem Executes.result_eq (hx : service.executor = execute [])
    (h : j.Executes service world p n (.ok (r, vars)) database asked) :
    ∃ g, n.Steers (j.context service p.vars) g ∧ r = g.result n := by
  obtain ⟨g, hg, ho⟩ := h.steers hx
  exact ⟨g, hg, (Prod.mk.inj (Except.ok.inj ho)).1⟩

theorem Executes.awaited (hx : service.executor = execute [])
    (h : j.Executes service world p n (.ok (r, vars)) database asked) (ha : r.awaited = some a) :
    n.awaited? = some a := by
  obtain ⟨g, hg, rfl⟩ := h.result_eq hx
  exact (hg.awaited ha).1

/-- From a node a walk goes on along an edge, or where a branching node has sent it. -/
theorem Executes.leads_or_branches (hx : service.executor = execute [])
    (h : j.Executes service world p n (.ok (r, vars)) database asked) {v : String}
    (hv : j.nextAfter n r = some v) :
    j.document.Leads n.id v ∨
      NodeKind.ofType? n.type = some .branch ∧ ∃ f g, n.filled = .ok f ∧
        Finding.Branches (j.context service p.vars) n f g ∧ g.next = some v := by
  obtain ⟨g, hg, rfl⟩ := h.result_eq hx
  unfold nextAfter at hv
  split at hv
  · rename_i next hnext
    split at hv
    · exact Or.inl (Document.next_leads hv)
    · obtain rfl := Option.some.inj hv
      obtain ⟨hk, f, hf, hb⟩ := hg.next hnext
      exact Or.inr ⟨hk, f, g, hf, hb, hnext⟩
  · exact Or.inl (Document.next_leads hv)

/-- No walk breaks down at a node. -/
theorem Walks.unbroken (hx : service.executor = execute [])
    (h : j.Walks service world left p visits ending q) : ending.broken = [] := by
  induction h with
  | failed h =>
    obtain ⟨g, -, ho⟩ := h.steers hx
    cases ho
  | onward _ _ _ _ ih => exact ih
  | _ => rfl

end Journey

end ChatFlow
