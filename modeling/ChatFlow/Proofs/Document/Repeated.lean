import ChatFlow.Proofs.Document.Graph

/-!
# Nodes that repeat an id

Of several nodes with one id the first counts: an id names it and no other.  But where
a run begins is looked for among all nodes of the document, those that repeat an id
included.  So a run may begin because of a node that does not count, at the node whose
id it repeats.

`Document.distinct` is the document without the nodes that repeat an id.  It names the
same nodes (`node_distinct`), and a run begins in it where it begins in the document
itself unless a repeating node misleads it (`byOrder_eq_distinct_iff`).
-/

namespace ChatFlow

/-- The nodes of which the id has not been seen, neither before nor at an earlier one of them. -/
def firstOfEach (seen : List String) : List Node → List Node
  | [] => []
  | n :: rest =>
    if n.id ∈ seen then firstOfEach seen rest else n :: firstOfEach (n.id :: seen) rest

/-- The other nodes, which repeat an id. -/
def repeating (seen : List String) : List Node → List Node
  | [] => []
  | n :: rest =>
    if n.id ∈ seen then n :: repeating seen rest else repeating (n.id :: seen) rest

variable {seen seen' : List String} {nodes before after : List Node} {n t : Node} {id : String}

theorem firstOfEach_of_mem (h : n.id ∈ seen) (rest : List Node) :
    firstOfEach seen (n :: rest) = firstOfEach seen rest := if_pos h

theorem firstOfEach_of_not_mem (h : n.id ∉ seen) (rest : List Node) :
    firstOfEach seen (n :: rest) = n :: firstOfEach (n.id :: seen) rest := if_neg h

/-- What counts is which ids have been seen, not in what order. -/
theorem firstOfEach_congr (h : ∀ id, id ∈ seen ↔ id ∈ seen') :
    firstOfEach seen nodes = firstOfEach seen' nodes := by
  induction nodes generalizing seen seen' with
  | nil => rfl
  | cons n rest ih =>
    by_cases hn : n.id ∈ seen
    · rw [firstOfEach_of_mem hn, firstOfEach_of_mem ((h n.id).mp hn)]
      exact ih h
    · rw [firstOfEach_of_not_mem hn, firstOfEach_of_not_mem fun hn' => hn ((h n.id).mpr hn')]
      refine congrArg (n :: ·) (ih fun id => ?_)
      simp only [List.mem_cons, h]

theorem firstOfEach_append (before after : List Node) :
    firstOfEach seen (before ++ after) =
      firstOfEach seen before ++ firstOfEach (before.map Node.id ++ seen) after := by
  induction before generalizing seen with
  | nil => rfl
  | cons n rest ih =>
    by_cases hn : n.id ∈ seen
    · rw [List.cons_append, firstOfEach_of_mem hn, firstOfEach_of_mem hn, ih]
      refine congrArg _ (firstOfEach_congr fun id => ?_)
      simp only [List.map_cons, List.cons_append, List.mem_cons, List.mem_append]
      constructor
      · exact Or.inr
      · rintro (rfl | h)
        · exact Or.inr hn
        · exact h
    · rw [List.cons_append, firstOfEach_of_not_mem hn, firstOfEach_of_not_mem hn, ih, List.cons_append]
      refine congrArg _ (congrArg _ (firstOfEach_congr fun id => ?_))
      simp only [List.map_cons, List.cons_append, List.mem_cons, List.mem_append]
      exact or_left_comm

theorem mem_of_mem_firstOfEach (h : n ∈ firstOfEach seen nodes) : n ∈ nodes ∧ n.id ∉ seen := by
  induction nodes generalizing seen with
  | nil => cases h
  | cons n' rest ih =>
    by_cases hn : n'.id ∈ seen
    · rw [firstOfEach_of_mem hn] at h
      obtain ⟨hmem, hseen⟩ := ih h
      exact ⟨List.mem_cons_of_mem _ hmem, hseen⟩
    · rw [firstOfEach_of_not_mem hn] at h
      rcases List.mem_cons.mp h with rfl | h
      · exact ⟨List.mem_cons_self, hn⟩
      · obtain ⟨hmem, hseen⟩ := ih h
        exact ⟨List.mem_cons_of_mem _ hmem, fun hs => hseen (List.mem_cons_of_mem _ hs)⟩

/-- An id that has not been seen names the same node without those that repeat an id. -/
theorem find?_firstOfEach (h : id ∉ seen) :
    (firstOfEach seen nodes).find? (fun n => n.id = id) = nodes.find? fun n => n.id = id := by
  induction nodes generalizing seen with
  | nil => rfl
  | cons n rest ih =>
    by_cases hid : n.id = id
    · have hn : n.id ∉ seen := by rwa [hid]
      rw [firstOfEach_of_not_mem hn]
      simp [hid]
    · by_cases hn : n.id ∈ seen
      · rw [firstOfEach_of_mem hn, ih h]
        simp [hid]
      · have hseen : id ∉ n.id :: seen := by
          intro hmem
          rcases List.mem_cons.mp hmem with heq | hmem
          · exact hid heq.symm
          · exact h hmem
        rw [firstOfEach_of_not_mem hn]
        simpa [hid] using ih hseen

theorem head?_firstOfEach : (firstOfEach [] nodes).head? = nodes.head? := by
  cases nodes with
  | nil => rfl
  | cons n rest => rw [firstOfEach_of_not_mem List.not_mem_nil]; rfl

namespace Document

variable {d : Document}

/-- The document without the nodes that repeat an id. -/
def distinct (d : Document) : Document := { d with nodes := firstOfEach [] d.nodes }

/-- The nodes that repeat an id. -/
def repeated (d : Document) : List Node := repeating [] d.nodes

theorem node_distinct (d : Document) (id : String) : d.distinct.node id = d.node id := by
  simp only [node, distinct, find?_firstOfEach List.not_mem_nil]

theorem hasNode_eq_isSome (d : Document) (id : String) :
    d.hasNode id = (d.nodes.find? fun n => n.id = id).isSome := by
  rw [Bool.eq_iff_iff, List.find?_isSome]
  simp [hasNode]

theorem hasNode_distinct (d : Document) (id : String) : d.distinct.hasNode id = d.hasNode id := by
  rw [hasNode_eq_isSome, hasNode_eq_isSome, distinct, find?_firstOfEach List.not_mem_nil]

/-! ### Where a run begins -/

/-- Where a run begins is said by whoever starts it, or by the document. -/
def Decided (d : Document) (explicit : Option String) : Prop :=
  (∃ id, explicit = some id ∧ id ≠ "") ∨ ∃ id, d.start = some id ∧ id ≠ "" ∧ d.hasNode id = true

/-- The nodes before the first trigger. -/
def leading (d : Document) : List Node := d.nodes.takeWhile fun n => !isTriggerType n.type

/-- The first trigger repeats the id of a node before it, and among the nodes that count there is
another trigger, or else the first of them has another id. -/
def Misled (d : Document) : Prop :=
  ∃ t, d.nodes.find? (fun n => isTriggerType n.type) = some t ∧ t.id ∈ d.leading.map Node.id ∧
    ((∃ n ∈ d.distinct.nodes, isTriggerType n.type = true) ∨ d.nodes.head?.map Node.id ≠ some t.id)

theorem startNode_of_not_decided {explicit : Option String} (h : ¬ d.Decided explicit) :
    d.startNode explicit = startNode.byOrder d := by
  have himplicit : startNode.implicit d = startNode.byOrder d := by
    unfold startNode.implicit
    split
    · rename_i id hid
      exact if_neg fun hnode => h (Or.inr ⟨id, hid, hnode⟩)
    · rfl
  unfold startNode
  split
  · rename_i id
    by_cases hid : id = ""
    · rw [if_neg (not_not_intro hid), himplicit]
    · exact absurd (Or.inl ⟨id, rfl, hid⟩) h
  · exact himplicit

theorem decided_distinct {explicit : Option String} :
    d.distinct.Decided explicit ↔ d.Decided explicit := by
  simp only [Decided, hasNode_distinct]
  rfl

theorem startNode_distinct_of_decided {explicit : Option String} (h : d.Decided explicit) :
    d.distinct.startNode explicit = d.startNode explicit := by
  rcases h with ⟨id, rfl, hid⟩ | ⟨id, hstart, hid, hnode⟩
  · simp [startNode, hid]
  · have hd : startNode.implicit d = some id := by
      simp [startNode.implicit, hstart, hid, hnode]
    have hdistinct : startNode.implicit d.distinct = some id := by
      have hstart' : d.distinct.start = some id := hstart
      simp [startNode.implicit, hstart', hid, hasNode_distinct, hnode]
    simp only [startNode, hd, hdistinct]

theorem byOrder_eq (d : Document) : startNode.byOrder d =
    ((d.nodes.find? fun n => isTriggerType n.type).or d.nodes.head?).map Node.id := by
  unfold startNode.byOrder
  cases d.nodes.find? fun n => isTriggerType n.type <;> rfl

theorem head?_distinct (d : Document) : d.distinct.nodes.head? = d.nodes.head? := head?_firstOfEach

/-- Where the first trigger stands. -/
theorem exists_leading (h : d.nodes.find? (fun n => isTriggerType n.type) = some t) :
    isTriggerType t.type = true ∧ ∃ after, d.nodes = d.leading ++ t :: after := by
  obtain ⟨ht, before, after, hnodes, hbefore⟩ := List.find?_eq_some_iff_append.mp h
  have hleading : d.leading = before := by
    rw [leading, hnodes, List.takeWhile_append_of_pos hbefore, List.takeWhile_cons_of_neg (by simp [ht]),
      List.append_nil]
  exact ⟨ht, after, by rw [hleading]; exact hnodes⟩

theorem find?_leading (d : Document) :
    (firstOfEach [] d.leading).find? (fun n => isTriggerType n.type) = none := by
  refine List.find?_eq_none.mpr fun n hn => ?_
  have hmem : n ∈ d.leading := (mem_of_mem_firstOfEach hn).1
  simpa using List.all_eq_true.mp List.all_takeWhile n hmem

/-- Unless the first trigger is a node that repeats an id, it counts, and a run begins at it. -/
theorem byOrder_distinct_of_not_mem (h : d.nodes.find? (fun n => isTriggerType n.type) = some t)
    (ht : t.id ∉ d.leading.map Node.id) : startNode.byOrder d.distinct = startNode.byOrder d := by
  obtain ⟨htrigger, after, hnodes⟩ := exists_leading h
  have hdistinct : d.distinct.nodes.find? (fun n => isTriggerType n.type) = some t := by
    rw [distinct, hnodes, firstOfEach_append, List.append_nil, firstOfEach_of_not_mem ht,
      List.find?_append, find?_leading, Option.none_or]
    simp [htrigger]
  rw [byOrder_eq, byOrder_eq, h, hdistinct]
  rfl

/-- A trigger that counts after one that does not has another id. -/
theorem id_ne_of_find?_distinct (h : d.nodes.find? (fun n => isTriggerType n.type) = some t)
    (ht : t.id ∈ d.leading.map Node.id)
    (hn : d.distinct.nodes.find? (fun n => isTriggerType n.type) = some n) : n.id ≠ t.id := by
  obtain ⟨-, after, hnodes⟩ := exists_leading h
  rw [distinct, hnodes, firstOfEach_append, List.append_nil, firstOfEach_of_mem ht, List.find?_append,
    find?_leading, Option.none_or] at hn
  have hfresh := (mem_of_mem_firstOfEach (List.mem_of_find?_eq_some hn)).2
  intro heq
  exact hfresh (heq ▸ ht)

/-- By the order of the nodes a run begins at the same node without those that repeat an id, unless
one of them misleads it. -/
theorem byOrder_eq_distinct_iff (d : Document) :
    startNode.byOrder d = startNode.byOrder d.distinct ↔ ¬ d.Misled := by
  cases h : d.nodes.find? fun n => isTriggerType n.type with
  | none =>
    have hdistinct : d.distinct.nodes.find? (fun n => isTriggerType n.type) = none := by
      refine List.find?_eq_none.mpr fun n hn => ?_
      exact List.find?_eq_none.mp h n (mem_of_mem_firstOfEach hn).1
    refine iff_of_true ?_ ?_
    · rw [byOrder_eq, byOrder_eq, h, hdistinct, head?_distinct]
    · rintro ⟨t, ht, -⟩
      rw [h] at ht
      cases ht
  | some t =>
    have hmisled : d.Misled ↔ t.id ∈ d.leading.map Node.id ∧
        ((∃ n ∈ d.distinct.nodes, isTriggerType n.type = true) ∨
          d.nodes.head?.map Node.id ≠ some t.id) := by
      simp only [Misled, h, Option.some.injEq, exists_eq_left']
    rw [hmisled]
    by_cases ht : t.id ∈ d.leading.map Node.id
    · cases hn : d.distinct.nodes.find? fun n => isTriggerType n.type with
      | some n =>
        have htrigger : isTriggerType n.type = true :=
          List.find?_some (p := fun n : Node => isTriggerType n.type) hn
        refine iff_of_false ?_ (not_not_intro
          ⟨ht, Or.inl ⟨n, List.mem_of_find?_eq_some hn, htrigger⟩⟩)
        rw [byOrder_eq, byOrder_eq, h, hn]
        intro heq
        exact id_ne_of_find?_distinct h ht hn (Option.some.inj heq).symm
      | none =>
        have hnone : ¬ ∃ n ∈ d.distinct.nodes, isTriggerType n.type = true := by
          rintro ⟨n, hmem, htrigger⟩
          exact List.find?_eq_none.mp hn n hmem htrigger
        rw [byOrder_eq, byOrder_eq, h, hn, head?_distinct]
        simp only [Option.some_or, Option.map_some, Option.none_or, ht, hnone, true_and, false_or,
          ne_eq, Decidable.not_not]
        exact eq_comm
    · rw [byOrder_distinct_of_not_mem h ht]
      exact iff_of_true rfl fun hm => ht hm.1

end Document

end ChatFlow
