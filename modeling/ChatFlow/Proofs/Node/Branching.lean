import ChatFlow.Proofs.Document.Graph
import ChatFlow.Proofs.Node.Steering

/-!
# Where a branch can lead

A branching node says where the run goes on.  It can say only what its settings
or the edges of the document say: the target is the default one or that of one
of the conditions, and it is the id itself or leads along an edge.
-/

namespace ChatFlow

/-- The settings of a conditional node give an id as a target: as the default one or as that of a
condition. -/
def Node.Offers (n : Node) (v : String) : Prop :=
  n.type = "conditional" ∧ ∃ f, n.filled = .ok f ∧
    (f.get "default_next" = .str v ∨
      ∃ condition ∈ f.objects "conditions", condition.find? "next" = some (.str v))

/-- A document lets a run go on from one id to another: along an edge, or because a conditional node
gives it as a target. -/
def Document.Names (d : Document) (u v : String) : Prop :=
  d.Leads u v ∨ ∃ n, d.node u = some n ∧ n.Offers v

theorem type_of_branch {type : String} (h : NodeKind.ofType? type = some .branch) :
    type = "conditional" := by
  simpa [NodeKind.types] using NodeKind.mem_types h

/-- The target that is chosen is the default one or that of a condition. -/
theorem Condition.select_eq {scope : Scope} {default_ : Value} {tests : List Condition.Test}
    {target : Option Value} (h : Condition.select scope default_ tests = .ok target) :
    target = Condition.target? default_ ∨ ∃ t ∈ tests, target = Condition.target? t.next := by
  induction tests with
  | nil =>
    obtain rfl := Except.ok.inj h
    exact Or.inl rfl
  | cons t rest ih =>
    simp only [Condition.select] at h
    cases hb : t.holds scope with
    | error e =>
      rw [hb] at h
      cases h
    | ok b =>
      rw [hb] at h
      cases b with
      | true =>
        obtain rfl := Except.ok.inj h
        exact Or.inr ⟨t, List.mem_cons_self, rfl⟩
      | false =>
        rcases ih h with hd | ⟨t', ht, he⟩
        · exact Or.inl hd
        · exact Or.inr ⟨t', List.mem_cons_of_mem t ht, he⟩

theorem Condition.eq_str_of_target? {v : Value} {s : String}
    (h : (Value.ofOption (Condition.target? v)).text?.getD "" = s) (hs : s ≠ "") : v = .str s := by
  unfold Condition.target? at h
  split at h
  · cases v with
    | str t =>
      obtain rfl := h
      rfl
    | _ => exact absurd h.symm hs
  · exact absurd h.symm hs

variable {c : NodeContext} {n : Node} {f : Filled} {v : String}

/-- A chosen target that is not empty is one that the node gives. -/
theorem offers_of_chosen {target : Option Value} (hn : n.type = "conditional")
    (hf : n.filled = .ok f) (h : Control.chosen c f = .ok target)
    (hv : (Value.ofOption target).text?.getD "" = v) (hne : v ≠ "") : n.Offers v := by
  refine ⟨hn, f, hf, ?_⟩
  rcases Condition.select_eq h with rfl | ⟨t, ht, rfl⟩
  · exact Or.inl (Condition.eq_str_of_target? hv hne)
  · obtain ⟨condition, hc, rfl⟩ := List.mem_map.mp ht
    have hnext : Value.ofOption (condition.find? "next") = .str v :=
      Condition.eq_str_of_target? hv hne
    refine Or.inr ⟨condition, hc, ?_⟩
    cases he : condition.find? "next" with
    | none =>
      rw [he] at hnext
      cases hnext
    | some w =>
      rw [he] at hnext
      exact congrArg some hnext

/-- Where a branching node sends the run, the document lets it go. -/
theorem Finding.Branches.names {g : Finding} (h : g.Branches c n f)
    (hn : NodeKind.ofType? n.type = some .branch) (hf : n.filled = .ok f) (hv : g.next = some v) :
    c.document.Leads n.id v ∨ n.Offers v := by
  obtain ⟨target, ht, hg⟩ := h.next
  rw [hv] at hg
  by_cases hne : (Value.ofOption target).text?.getD "" = ""
  · rw [hne] at hg
    cases hg
  · rcases Document.branchTarget_leads hg.symm with hl | rfl
    · exact Or.inl hl
    · exact Or.inr (offers_of_chosen (type_of_branch hn) hf ht rfl hne)

end ChatFlow
