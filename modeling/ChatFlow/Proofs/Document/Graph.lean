import Mathlib.Data.List.Nodup
import ChatFlow.Document.Graph

/-!
# What a document names

Every answer that a document gives to a run is the target of one of its edges or
the id of one of its nodes, except that the target of a branch which is neither
stands for itself.
-/

namespace ChatFlow.Document

variable {d : Document} {u v : String}

/-- The ids of the nodes. -/
def ids (d : Document) : List String := d.nodes.map Node.id

/-- An edge of the document leads from one id to another. -/
def Leads (d : Document) (u v : String) : Prop :=
  ∃ e ∈ d.edges, e.source = u ∧ e.target = v

theorem leads_of_mem_outgoing {e : Edge} (h : e ∈ d.outgoing u) : d.Leads u e.target := by
  obtain ⟨he, hs⟩ := List.mem_filter.mp h
  exact ⟨e, he, of_decide_eq_true hs, rfl⟩

theorem next_leads (h : d.next u = some v) : d.Leads u v := by
  unfold next at h
  split at h
  · rename_i e he
    obtain rfl := Option.some.inj h
    exact leads_of_mem_outgoing (List.mem_of_find?_eq_some he)
  · obtain ⟨e, he, rfl⟩ := Option.map_eq_some_iff.mp h
    exact leads_of_mem_outgoing (List.mem_of_mem_head? he)

theorem nextBy_leads {handle : String} (h : d.nextBy u handle = some v) : d.Leads u v := by
  obtain ⟨e, he, rfl⟩ := Option.map_eq_some_iff.mp h
  exact leads_of_mem_outgoing (List.mem_of_find?_eq_some he)

/-- A branch leads along an edge or to the target itself. -/
theorem branchTarget_leads {target : String} (h : d.branchTarget u target = some v) :
    d.Leads u v ∨ v = target := by
  unfold branchTarget at h
  split at h
  · cases h
  · split at h
    · exact Or.inr (Option.some.inj h).symm
    · split at h
      · rename_i t ht
        split at h
        · obtain rfl := Option.some.inj h
          exact Or.inl (nextBy_leads ht)
        · exact Or.inr (Option.some.inj h).symm
      · exact Or.inr (Option.some.inj h).symm

/-! ### Nodes and their ids -/

theorem hasNode_iff : d.hasNode u = true ↔ u ∈ d.ids := by
  simp [hasNode, ids]

/-- An id names a node exactly when it is that of a node and not empty. -/
theorem node_isSome_iff : (d.node u).isSome ↔ u ≠ "" ∧ u ∈ d.ids := by
  unfold node
  by_cases hu : u = ""
  · simp [hu]
  · simp [hu, ids]

theorem id_of_node {n : Node} (h : d.node u = some n) : n.id = u := by
  unfold node at h
  split at h
  · cases h
  · have hid := List.find?_some h
    simpa using hid

theorem node_id {n : Node} (h : d.node u = some n) : d.node n.id = some n := by
  rw [id_of_node h]
  exact h

theorem mem_of_node {n : Node} (h : d.node u = some n) : n ∈ d.nodes := by
  unfold node at h
  split at h
  · cases h
  · exact List.mem_of_find?_eq_some h

/-- Where ids differ, the id of a node names it. -/
theorem node_of_mem {n : Node} (hn : d.ids.Nodup) (h : n ∈ d.nodes) (hid : n.id ≠ "") :
    d.node n.id = some n := by
  have hsome : (d.node n.id).isSome :=
    node_isSome_iff.mpr ⟨hid, List.mem_map.mpr ⟨n, h, rfl⟩⟩
  obtain ⟨n', hn'⟩ := Option.isSome_iff_exists.mp hsome
  rw [hn', List.inj_on_of_nodup_map hn (mem_of_node hn') h (id_of_node hn')]

end ChatFlow.Document
