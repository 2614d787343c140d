import ChatFlow.Node.Execute
import ChatFlow.Proofs.Document.Trimming

/-!
# What a node sees of the document

A handler is given the whole document.  Of those that are built in only the one for
branches looks at it, and it asks where a target leads.  So a node does the same in
two documents that have the same ways (`execute_seesWays`).
-/

namespace ChatFlow

/-- The same context in another document. -/
def NodeContext.within (c : NodeContext) (d : Document) : NodeContext := { c with document := d }

/-- A handler sees no more of the document than its ways. -/
def Handler.SeesWays (handler : Handler) : Prop :=
  ∀ c n f d, c.document.SameWays d → handler (c.within d) n f = handler c n f

/-- The same of a way to execute nodes. -/
def Executor.SeesWays (executor : Executor) : Prop :=
  ∀ c n d, c.document.SameWays d → executor (c.within d) n = executor c n

theorem branch_seesWays : Handler.SeesWays Control.branch := by
  intro c n f d h
  have htarget : ∀ target, (c.within d).document.branchTarget n.id target =
      c.document.branchTarget n.id target := fun target => h.branchTarget n.id target
  simp only [Control.branch, htarget]
  rfl

theorem NodeKind.handler_seesWays (kind : NodeKind) : kind.handler.SeesWays := by
  cases kind with
  | branch => exact branch_seesWays
  | _ => exact fun c n f d h => rfl

variable {registered : Registered}

theorem handlerOf?_seesWays
    (hr : ∀ type handler, registered.find? type = some handler → handler.SeesWays)
    {type : String} {handler : Handler} (h : handlerOf? registered type = some handler) :
    handler.SeesWays := by
  rcases Option.or_eq_some_iff.mp h with h | ⟨-, h⟩
  · exact hr type handler h
  · obtain ⟨kind, -, rfl⟩ := Option.map_eq_some_iff.mp h
    exact kind.handler_seesWays

/-- What executing a node comes to depends on the ways of the document only, if that holds of the
handlers that were registered. -/
theorem execute_seesWays
    (hr : ∀ type handler, registered.find? type = some handler → handler.SeesWays) :
    (execute registered).SeesWays := by
  intro c n d h
  have hfind : findOut registered (c.within d) n = findOut registered c n := by
    unfold findOut
    cases hk : handlerOf? registered n.type with
    | none => rfl
    | some handler =>
      have hhandled : handled handler (c.within d) n = handled handler c n := by
        simp only [handled, handlerOf?_seesWays hr hk c n _ d h]
      simp only [hhandled]
  simp only [execute, hfind]
  rfl

end ChatFlow
