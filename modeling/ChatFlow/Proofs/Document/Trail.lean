import ChatFlow.Engine.State
import ChatFlow.Proofs.Document.Graph

/-!
# The way along the edges

From any start the edges of a document alone give a way, `Document.trail`.
`Document.Follows` says that a run has gone this way as far as there are nodes on it
and as its limit lets it, and that its outcome tells why it went no further.  There
is one such run (`Follows.unique`), and only the ids of the nodes and the edges
have a part in it (`Follows.congr`).
-/

namespace ChatFlow.Document

variable {d d' : Document} {start : Option String} {limit : Nat} {visited : List String}
  {outcome : RunOutcome}

/-- The id at which the way along the edges arrives after so many steps. -/
def trail (d : Document) (start : Option String) : Nat → Option String
  | 0 => start
  | i + 1 => (d.trail start i).bind d.next

/-- There is a node at a place of the way; at the empty id there is none. -/
def IsNode (d : Document) (place : Option String) : Prop := (place.bind d.node).isSome

/-- A run visits the longest beginning of the way that consists of nodes and is within the limit.
It completes if the way ends there, reaches its limit if the way goes on, and halts if there is no
node where it goes on. -/
structure Follows (d : Document) (start : Option String) (limit : Nat) (visited : List String)
    (outcome : RunOutcome) : Prop where
  length_le : visited.length ≤ limit
  visits : ∀ i, i < visited.length → visited[i]? = d.trail start i ∧ d.IsNode (d.trail start i)
  longest : visited.length < limit → ¬ d.IsNode (d.trail start visited.length)
  outcome : outcome =
    if (d.trail start visited.length).getD "" = "" then .completed
    else if visited.length = limit then .limited
    else .halted

theorem isNode_iff {place : Option String} :
    d.IsNode place ↔ ∃ u, place = some u ∧ u ≠ "" ∧ u ∈ d.ids := by
  cases place with
  | none => simp [IsNode]
  | some u =>
    have hu : d.IsNode (some u) ↔ u ≠ "" ∧ u ∈ d.ids := node_isSome_iff
    simp [hu]

theorem not_isNode_of_empty {place : Option String} (h : place.getD "" = "") : ¬ d.IsNode place := by
  rw [isNode_iff]
  rintro ⟨u, rfl, hu, -⟩
  exact hu h

theorem trail_succ (d : Document) (start : Option String) (i : Nat) :
    d.trail start (i + 1) = d.trail (start.bind d.next) i := by
  induction i with
  | zero => rfl
  | succ i ih => exact congrArg (fun place : Option String => place.bind d.next) ih

/-! ### Beginnings of the way -/

theorem Follows.completed (h : start.getD "" = "") : d.Follows start limit [] .completed where
  length_le := Nat.zero_le limit
  visits _ hi := nomatch hi
  longest _ := not_isNode_of_empty h
  outcome := (if_pos h).symm

theorem Follows.limited (h : start.getD "" ≠ "") : d.Follows start 0 [] .limited where
  length_le := Nat.le_refl 0
  visits _ hi := nomatch hi
  longest hlt := nomatch hlt
  outcome := ((if_neg h).trans (if_pos rfl)).symm

theorem Follows.halted {u : String} (hu : u ≠ "") (h : d.node u = none) :
    d.Follows (some u) (limit + 1) [] .halted where
  length_le := Nat.zero_le _
  visits _ hi := nomatch hi
  longest _ hnode := by
    have hnone : (d.node u).isSome := hnode
    rw [h] at hnone
    cases hnone
  outcome := ((if_neg hu).trans (if_neg (Nat.succ_ne_zero limit).symm)).symm

/-- From a node the way goes on along the edge that leaves it. -/
theorem Follows.cons {u : String} (hu : d.IsNode (some u))
    (h : d.Follows (d.next u) limit visited outcome) :
    d.Follows (some u) (limit + 1) (u :: visited) outcome where
  length_le := Nat.succ_le_succ h.length_le
  visits i hi := by
    cases i with
    | zero => exact ⟨rfl, hu⟩
    | succ i =>
      rw [List.getElem?_cons_succ, trail_succ]
      exact h.visits i (Nat.lt_of_succ_lt_succ hi)
  longest hlt := by
    rw [List.length_cons, trail_succ]
    exact h.longest (Nat.lt_of_succ_lt_succ hlt)
  outcome := by
    rw [List.length_cons, trail_succ]
    simpa using h.outcome

/-! ### What a run along the edges depends on -/

theorem Follows.length_le_length {visited' : List String} {outcome' : RunOutcome}
    (h : d.Follows start limit visited outcome) (h' : d.Follows start limit visited' outcome') :
    visited.length ≤ visited'.length := by
  rcases Nat.lt_or_ge visited'.length visited.length with hlt | hle
  · have hnode := (h.visits visited'.length hlt).2
    exact absurd hnode (h'.longest (Nat.lt_of_lt_of_le hlt h.length_le))
  · exact hle

/-- From one start and with one limit there is one run along the edges. -/
theorem Follows.unique {visited' : List String} {outcome' : RunOutcome}
    (h : d.Follows start limit visited outcome) (h' : d.Follows start limit visited' outcome') :
    visited' = visited ∧ outcome' = outcome := by
  have hlen : visited'.length = visited.length :=
    Nat.le_antisymm (h'.length_le_length h) (h.length_le_length h')
  refine ⟨List.ext_getElem? fun i => ?_, ?_⟩
  · by_cases hi : i < visited.length
    · rw [(h.visits i hi).1, (h'.visits i (hlen ▸ hi)).1]
    · rw [List.getElem?_eq_none (by omega), List.getElem?_eq_none (by omega)]
  · rw [h.outcome, h'.outcome, hlen]

theorem trail_congr (hedges : d'.edges = d.edges) (start : Option String) (i : Nat) :
    d'.trail start i = d.trail start i := by
  have hnext : d'.next = d.next := by
    funext u
    simp only [next, outgoing, hedges]
  induction i with
  | zero => rfl
  | succ i ih => rw [trail, trail, ih, hnext]

/-- Only the ids of the nodes and the edges have a part in where a run along the edges goes. -/
theorem Follows.congr (h : d.Follows start limit visited outcome) (hids : d'.ids = d.ids)
    (hedges : d'.edges = d.edges) : d'.Follows start limit visited outcome := by
  have hnode : ∀ place, d'.IsNode place ↔ d.IsNode place := by
    intro place
    rw [isNode_iff, isNode_iff, hids]
  refine ⟨h.length_le, fun i hi => ?_, fun hlt => ?_, ?_⟩
  · rw [trail_congr hedges, hnode]
    exact h.visits i hi
  · rw [trail_congr hedges, hnode]
    exact h.longest hlt
  · rw [trail_congr hedges]
    exact h.outcome

end ChatFlow.Document
