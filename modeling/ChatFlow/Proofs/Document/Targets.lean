import ChatFlow.Document.Graph
import ChatFlow.Document.Parse
import ChatFlow.Proofs.Document.Fields
import ChatFlow.Proofs.Document.Graph
import ChatFlow.Proofs.Value.Parts
import ChatFlow.Proofs.Value.Shown

/-!
# Where the edges of a stored document lead

In whichever shape a document is stored, an edge without a target is left out when
it is read, and a successor in the older form is written out as a text.  So no edge of a
document that was read leads to the empty id, and where a run goes on after a node
is never the empty id (`next_ne_empty`), also after one that branches
(`Directed.branchTarget`).
-/

namespace ChatFlow.Document

/-- The fields of an edge whose target, if it is a text, is not the empty one. -/
def Aimed (fields : Entries Value) : Prop :=
  ∀ target, Value.requiredText? fields "target" = some target → target ≠ ""

theorem target_of_edge? {fields : Entries Value} {e : Edge} (h : edge? fields = some e) :
    Value.requiredText? fields "target" = some e.target :=
  Value.requiredText?_eq_some_iff.mpr (edge?_eq_some_iff.mp h).target

/-! ### The two shapes of edges -/

theorem aimed_of_find? {fields : Entries Value} {v : Value} (h : fields.find? "target" = some v)
    (hv : v.truthy = true) : Aimed fields := by
  intro target ht
  rw [Value.requiredText?, h, Option.bind_some] at ht
  cases v with
  | str s =>
    obtain rfl := Option.some.inj ht
    exact of_decide_eq_true hv
  | _ => cases ht

theorem aimed_of_edgeFields? {v : Value} {fields : Entries Value}
    (h : edgeFields? v = some fields) : Aimed fields := by
  unfold edgeFields? at h
  split at h
  · rename_i fs
    simp only at h
    split at h
    · rename_i hends
      obtain ⟨-, htarget⟩ := Bool.and_eq_true_iff.mp hends
      obtain rfl := Option.some.inj h
      cases hf : Entries.find? fs "target" with
      | none =>
        rw [fieldOf, hf] at htarget
        cases htarget
      | some target =>
        rw [fieldOf, hf] at htarget
        refine aimed_of_find? (v := target) ?_ htarget
        split
        · exact hf
        · rw [Entries.find?_put_ne _ _ (by decide), hf]
    · cases h
  · cases h

/-- Only the items of a list are edges. -/
theorem exists_of_mem_edgesOf {v : Value} {edges : List (Entries Value)} (h : edgesOf v = .ok edges)
    {fields : Entries Value} (hmem : fields ∈ edges) :
    ∃ items, v = .list items ∧ ∃ item ∈ items, edgeFields? item = some fields := by
  unfold edgesOf at h
  split at h
  · obtain rfl := Except.ok.inj h
    exact ⟨_, rfl, List.mem_filterMap.mp hmem⟩
  · obtain rfl := Except.ok.inj h
    cases hmem
  · obtain rfl := Except.ok.inj h
    cases hmem
  · split at h
    · cases h
    · obtain rfl := Except.ok.inj h
      cases hmem

theorem aimed_of_mem_edgesOf {v : Value} {edges : List (Entries Value)}
    (h : edgesOf v = .ok edges) : ∀ fields ∈ edges, Aimed fields := by
  intro fields hmem
  obtain ⟨-, -, item, -, hitem⟩ := exists_of_mem_edgesOf h hmem
  exact aimed_of_edgeFields? hitem

theorem aimed_of_buttonEdge? {id : String} {place : Nat} {button : Value} {fields : Entries Value}
    (h : buttonEdge? id place button = some fields) : Aimed fields := by
  unfold buttonEdge? at h
  split at h
  · simp only at h
    split at h
    · rename_i hnext
      obtain rfl := Option.some.inj h
      exact aimed_of_find? rfl (decide_eq_true (Value.display_ne_empty hnext))
    · cases h
  · cases h

theorem aimed_of_mem_buttonEdges {id : String} {buttons : List Value} {place : Nat} :
    ∀ fields ∈ buttonEdges id place buttons, Aimed fields := by
  induction buttons generalizing place with
  | nil => exact fun fields hmem => nomatch hmem
  | cons button rest ih =>
    intro fields hmem
    rcases List.mem_append.mp hmem with hmem | hmem
    · exact aimed_of_buttonEdge? (Option.mem_toList.mp hmem)
    · exact ih fields hmem

theorem aimed_of_mem_legacyEdges {key : String} {entry : Entries Value} :
    ∀ fields ∈ legacyEdges key entry, Aimed fields := by
  intro fields hmem
  unfold legacyEdges at hmem
  simp only at hmem
  rcases List.mem_append.mp hmem with hmem | hmem
  · split at hmem
    · rename_i hnext
      obtain rfl := List.mem_singleton.mp hmem
      exact aimed_of_find? rfl (decide_eq_true (Value.display_ne_empty hnext))
    · cases hmem
  · split at hmem
    · exact aimed_of_mem_buttonEdges fields hmem
    · cases hmem

/-! ### Documents -/

theorem aimed_of_partsOf {raw : Entries Value} {parts : Parts} (h : partsOf raw = .ok parts) :
    ∀ fields ∈ parts.edges, Aimed fields := by
  unfold partsOf at h
  split at h
  · obtain rfl := Except.ok.inj h
    intro fields hmem
    obtain ⟨entry, -, hmem⟩ := List.mem_flatMap.mp hmem
    exact aimed_of_mem_legacyEdges fields hmem
  · obtain ⟨edges, hedges, h⟩ := bind_eq_ok_iff.mp h
    obtain ⟨nodes, -, h⟩ := bind_eq_ok_iff.mp h
    obtain rfl := Except.ok.inj h
    exact aimed_of_mem_edgesOf hedges
  · cases h

/-- No edge of the document leads to the empty id. -/
def Directed (d : Document) : Prop := ∀ e ∈ d.edges, e.target ≠ ""

theorem directed_of_ofParts {parts : Parts} {d : Document} (hp : ∀ fields ∈ parts.edges, Aimed fields)
    (h : ofParts parts = .ok d) : d.Directed := by
  intro e he
  obtain ⟨fields, hmem, hedge⟩ := mem_of_allOf (ofParts_eq_ok_iff.mp h).2.1 he
  exact hp fields hmem e.target (target_of_edge? hedge)

theorem directed_of_ofValue {v : Value} {d : Document} (h : ofValue v = .ok d) : d.Directed := by
  unfold ofValue at h
  split at h
  · obtain ⟨parts, hparts, h⟩ := bind_eq_ok_iff.mp h
    exact directed_of_ofParts (aimed_of_partsOf hparts) h
  · cases h

theorem directed_empty : Document.empty.Directed := fun _ he => nomatch he

theorem directed_of_parse {v : Value} {d : Document} (h : parse v = .ok d) : d.Directed := by
  unfold parse at h
  split at h
  · obtain rfl := Except.ok.inj h
    exact directed_empty
  · unfold ofText ofRead at h
    split at h
    · exact directed_of_ofValue h
    · cases h
  · exact directed_of_ofValue h

/-- No edge of a document that was read leads to the empty id. -/
theorem directed_of_ofStored {v : Value} {d : Document} (h : ofStored v = .ok d) : d.Directed := by
  unfold ofStored orEmpty at h
  split at h
  · obtain rfl := Except.ok.inj h
    exact directed_empty
  · exact directed_of_parse h

theorem Directed.next_ne_empty {d : Document} (h : d.Directed) {id t : String}
    (ht : d.next id = some t) : t ≠ "" := by
  obtain ⟨e, he, -, rfl⟩ := next_leads ht
  exact h e he

/-- Where the target of a branch leads: to the node of this id, else along the first edge that leaves
the branching node by this handle, else to the id itself, which names no node. -/
inductive BranchesTo (d : Document) (id target : String) : String → Prop
  | node (h : d.hasNode target = true) : BranchesTo d id target target
  | handle {e : Edge} (h : d.hasNode target = false)
      (he : ((d.outgoing id).find? fun e => e.sourceHandle = some target) = some e) :
      BranchesTo d id target e.target
  | itself (h : d.hasNode target = false)
      (he : ((d.outgoing id).find? fun e => e.sourceHandle = some target) = none) :
      BranchesTo d id target target

theorem Directed.branchTarget {d : Document} (h : d.Directed) (id : String) {target : String}
    (ht : target ≠ "") :
    ∃ v, d.branchTarget id target = some v ∧ v ≠ "" ∧ d.BranchesTo id target v := by
  unfold Document.branchTarget nextBy
  rw [if_neg ht]
  cases hn : d.hasNode target with
  | true => exact ⟨target, rfl, ht, .node hn⟩
  | false =>
    cases he : (d.outgoing id).find? fun e => e.sourceHandle = some target with
    | none => exact ⟨target, rfl, ht, .itself hn he⟩
    | some e =>
      have hmem : e ∈ d.edges := (List.mem_filter.mp (List.mem_of_find?_eq_some he)).1
      exact ⟨e.target, if_pos (h e hmem), h e hmem, .handle hn he⟩

end ChatFlow.Document
