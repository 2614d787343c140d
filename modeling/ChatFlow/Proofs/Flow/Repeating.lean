import ChatFlow.Flow.Record
import ChatFlow.Proofs.Document.Repeated

/-!
# Keywords of nodes that repeat an id

The keywords of a flow are collected from all nodes of its document that start it on a
message, also from those that repeat an id and are never executed.  So a flow has the
same keywords without the nodes that repeat an id exactly if these give it none
(`keywords_distinct_iff`).
-/

namespace ChatFlow

open FlowRecord

/-- The keywords that a node gives to its flow. -/
def Node.keywords (n : Node) : List String :=
  if n.type = "on_message" then splitKeywords (Value.ofOption (n.config.find? "keywords")) else []

theorem nodeKeywords_eq (d : Document) : nodeKeywords d = d.nodes.flatMap Node.keywords := by
  rw [nodeKeywords]
  induction d.nodes with
  | nil => rfl
  | cons n rest ih =>
    by_cases hn : n.type = "on_message"
    · simp [Node.keywords, hn, ih]
    · simp [Node.keywords, hn, ih]

section

variable {α : Type} (g : Node → List α) (seen : List String) (nodes : List Node)

theorem length_flatMap_firstOfEach_le :
    ((firstOfEach seen nodes).flatMap g).length ≤ (nodes.flatMap g).length := by
  induction nodes generalizing seen with
  | nil => exact Nat.le_refl _
  | cons n rest ih =>
    by_cases hn : n.id ∈ seen
    · have hrest := ih seen
      rw [firstOfEach_of_mem hn, List.flatMap_cons, List.length_append]
      omega
    · have hrest := ih (n.id :: seen)
      rw [firstOfEach_of_not_mem hn, List.flatMap_cons, List.flatMap_cons, List.length_append,
        List.length_append]
      omega

/-- What the nodes give together is given by the first of each id exactly if the others give
nothing. -/
theorem flatMap_firstOfEach_eq_iff :
    (firstOfEach seen nodes).flatMap g = nodes.flatMap g ↔ ∀ n ∈ repeating seen nodes, g n = [] := by
  induction nodes generalizing seen with
  | nil => exact iff_of_true rfl fun n hn => nomatch hn
  | cons n rest ih =>
    by_cases hn : n.id ∈ seen
    · rw [firstOfEach_of_mem hn, repeating, if_pos hn, List.forall_mem_cons, ← ih, List.flatMap_cons]
      constructor
      · intro h
        -- the rest gives no less than what is left of it, so this node gives nothing
        have hle := length_flatMap_firstOfEach_le g seen rest
        have hlength := congrArg List.length h
        rw [List.length_append] at hlength
        have hnil : g n = [] := List.eq_nil_of_length_eq_zero (by omega)
        exact ⟨hnil, by simpa [hnil] using h⟩
      · rintro ⟨hnil, h⟩
        rw [hnil, h, List.nil_append]
    · rw [firstOfEach_of_not_mem hn, repeating, if_neg hn, List.flatMap_cons, List.flatMap_cons,
        List.append_cancel_left_eq]
      exact ih _

end

/-- A flow has the same keywords without the nodes that repeat an id exactly if these give it none. -/
theorem keywords_distinct_iff {r r' : FlowRecord} {block : List String} {d : Document}
    (hown : r'.triggerKeywords = r.triggerKeywords) (hblock : blockKeywords r.configValue = .ok block)
    (hblock' : blockKeywords r'.configValue = .ok block)
    (hd : Document.ofStored r.configValue = .ok d)
    (hd' : Document.ofStored r'.configValue = .ok d.distinct) :
    r'.keywords = r.keywords ↔ ∀ n ∈ d.repeated, n.keywords = [] := by
  have hr : r.keywords = .ok (splitKeywords (.list (r.triggerKeywords.map .str)) ++ block ++
      nodeKeywords d) := by
    simp only [FlowRecord.keywords, hblock, hd]
    rfl
  have hr' : r'.keywords = .ok (splitKeywords (.list (r.triggerKeywords.map .str)) ++ block ++
      nodeKeywords d.distinct) := by
    simp only [FlowRecord.keywords, hown, hblock', hd']
    rfl
  rw [hr, hr', Except.ok.injEq, List.append_cancel_left_eq, nodeKeywords_eq, nodeKeywords_eq]
  exact flatMap_firstOfEach_eq_iff Node.keywords [] d.nodes

/-- **Nodes that repeat an id are not ignored everywhere.**  Without the nodes that repeat an id
every id names the same node, and a run begins at the same node if that is asked for or the document
says where.  If not, then without these nodes it begins at the first trigger, else at the first
node; with them it begins there too exactly if none of them misleads it.  And the flow has the same
keywords exactly if these nodes give it none. -/
theorem repeated_nodes_unnoticed_iff (d : Document) :
    (∀ id, d.distinct.node id = d.node id) ∧
    (∀ explicit, d.Decided explicit → d.distinct.startNode explicit = d.startNode explicit) ∧
    (∀ explicit, ¬ d.Decided explicit →
      d.distinct.startNode explicit =
          ((d.distinct.nodes.find? fun n => Document.isTriggerType n.type).or d.nodes.head?).map
            Node.id ∧
        (d.startNode explicit = d.distinct.startNode explicit ↔ ¬ d.Misled)) ∧
    ∀ (r r' : FlowRecord) (block : List String), r'.triggerKeywords = r.triggerKeywords →
      blockKeywords r.configValue = .ok block → blockKeywords r'.configValue = .ok block →
      Document.ofStored r.configValue = .ok d → Document.ofStored r'.configValue = .ok d.distinct →
        (r'.keywords = r.keywords ↔ ∀ n ∈ d.repeated, n.keywords = []) := by
  refine ⟨d.node_distinct, fun _ h => Document.startNode_distinct_of_decided h, fun explicit h => ?_,
    fun r r' block hown hblock hblock' hd hd' =>
      keywords_distinct_iff hown hblock hblock' hd hd'⟩
  have hdistinct : ¬ d.distinct.Decided explicit := fun h' => h (Document.decided_distinct.mp h')
  rw [Document.startNode_of_not_decided h, Document.startNode_of_not_decided hdistinct]
  refine ⟨?_, d.byOrder_eq_distinct_iff⟩
  rw [Document.byOrder_eq, d.head?_distinct]

/-! ### A node that misleads -/

/-- A node without a position, a label or further entries. -/
def Node.bare (id type : String) (config : Entries Value) : Node := ⟨id, type, config, none, "", []⟩

/-- Two nodes that send messages, and a trigger that repeats the id of the second one. -/
def Document.misleading : Document where
  nodes := [.bare "x" "send_message" [], .bare "a" "send_message" [],
    .bare "a" "on_message" [("keywords", .str "hi")]]
  edges := []
  start := none

/-- The flow with these nodes. -/
def FlowRecord.ofNodes (nodes : List Node) : FlowRecord where
  id := "f"
  name := "Repeating"
  userId := none
  description := none
  status := .active
  triggerKeywords := []
  config := .object [("nodes", .list (nodes.map fun n =>
    .object [("id", .str n.id), ("type", .str n.type), ("config", .object n.config)]))]
  extra := []

/-- The trigger counts for nothing, and still a run begins at its id, and its keyword is one of the
flow. -/
theorem repeated_node_misleads :
    (∀ n ∈ Document.misleading.nodes, n.id ≠ "") ∧
      (Document.misleading.node "a").map Node.type = some "send_message" ∧
      Document.misleading.startNode none = some "a" ∧
      Document.misleading.distinct.startNode none = some "x" ∧
      nodeKeywords .misleading = ["hi"] ∧ nodeKeywords (Document.distinct .misleading) = [] := by
  decide +kernel

theorem repeated_nodes_unnoticed_iff_misleading :
    Document.misleading.startNode none ≠ Document.misleading.distinct.startNode none ∧
      (FlowRecord.ofNodes Document.misleading.distinct.nodes).keywords ≠
        (FlowRecord.ofNodes Document.misleading.nodes).keywords := by
  obtain ⟨-, -, hstart, hkeywords⟩ := repeated_nodes_unnoticed_iff .misleading
  constructor
  · have hnot : ¬ Document.misleading.Decided none := by
      rintro (⟨id, h, -⟩ | ⟨id, h, -⟩)
      · cases h
      · cases h
    have hmisled : Document.misleading.Misled := ⟨_, rfl, by decide, Or.inr (by decide)⟩
    exact fun h => (hstart none hnot).2.mp h hmisled
  · intro h
    have hnone := (hkeywords (.ofNodes Document.misleading.nodes)
      (.ofNodes Document.misleading.distinct.nodes) [] rfl rfl rfl (by with_unfolding_all rfl)
      (by with_unfolding_all rfl)).mp h
    have hrepeated : Document.misleading.repeated =
        [.bare "a" "on_message" [("keywords", .str "hi")]] := rfl
    rw [hrepeated] at hnone
    exact absurd (hnone _ List.mem_cons_self) (by decide +kernel)

end ChatFlow
