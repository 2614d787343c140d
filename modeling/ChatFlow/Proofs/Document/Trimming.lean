import ChatFlow.Proofs.Document.Graph

/-!
# Edges that nobody takes

A document answers for each node by the first of its edges that fits, and whether an
edge fits is said by its source and its handle alone.  So an edge behind another one
with the same source and the same handle is never taken, and in which order the edges
of different nodes stand has no part in any answer.  A document that is trimmed of
such edges has the same ways (`Document.Trims.sameWays`).
-/

namespace ChatFlow

variable {before es kept es' : List Edge} {d d' : Document} {id : String}

/-- Edges look alike if they leave the same node by the same handle. -/
def Edge.Alike (e e' : Edge) : Prop := e.source = e'.source ∧ e.sourceHandle = e'.sourceHandle

/-- What is left of edges that come after `before` when some are dropped, of which each has an
earlier one that looks alike. -/
inductive Thinned : List Edge → List Edge → List Edge → Prop
  | nil {before : List Edge} : Thinned before [] []
  | keep {before es kept : List Edge} {e : Edge} (h : Thinned (e :: before) es kept) :
      Thinned before (e :: es) (e :: kept)
  | drop {before es kept : List Edge} {e e' : Edge} (he : e' ∈ before) (hl : e'.Alike e)
      (h : Thinned (e :: before) es kept) : Thinned before (e :: es) kept

/-- The same edges in an order in which those of each node stand as they did. -/
structure Reordered (es es' : List Edge) : Prop where
  perm : es.Perm es'
  order : ∀ id, es'.filter (fun e => e.source = id) = es.filter (fun e => e.source = id)

/-- A document differs from another one only in its edges: some that have an earlier one which looks
alike are dropped, and the rest may be reordered. -/
structure Document.Trims (d d' : Document) : Prop where
  nodes : d'.nodes = d.nodes
  start : d'.start = d.start
  edges : ∃ kept, Thinned [] d.edges kept ∧ Reordered kept d'.edges

/-- A test that passes both or none of two edges that look alike. -/
def Uniform (p : Edge → Bool) : Prop := ∀ e e', e.Alike e' → p e = p e'

/-- A search that passes over all that came before does not miss an edge that is dropped. -/
theorem Thinned.find?_eq {p : Edge → Bool} (h : Thinned before es kept) (hp : Uniform p)
    (hbefore : ∀ e ∈ before, p e = false) : kept.find? p = es.find? p := by
  induction h with
  | nil => rfl
  | @keep before es kept e h ih =>
    cases he : p e with
    | true => simp [he]
    | false =>
      have hrest := ih (List.forall_mem_cons.mpr ⟨he, hbefore⟩)
      simpa [he] using hrest
  | @drop before es kept e e' hmem hl h ih =>
    -- the earlier edge that looks alike has been passed over, so this one is too
    have he : p e = false := (hp e' e hl).symm.trans (hbefore e' hmem)
    have hrest := ih (List.forall_mem_cons.mpr ⟨he, hbefore⟩)
    simpa [he] using hrest

theorem uniform_source (id : String) : Uniform fun e => e.source = id := by
  intro e e' h
  simp only [h.1]

theorem uniform_and {p q : Edge → Bool} (hp : Uniform p) (hq : Uniform q) :
    Uniform fun e => decide (p e = true ∧ q e = true) := by
  intro e e' h
  simp only [hp e e' h, hq e e' h]

theorem uniform_isPlain : Uniform Document.isPlain := by
  intro e e' h
  simp only [Document.isPlain, h.2]

theorem uniform_handle (handle : String) : Uniform fun e => e.sourceHandle = some handle := by
  intro e e' h
  simp only [h.2]

theorem uniform_true : Uniform fun _ => true := fun _ _ _ => rfl

namespace Document

/-- Among the edges that leave a node, one that is dropped or moved is not missed. -/
theorem Trims.find?_outgoing (h : d.Trims d') {p : Edge → Bool} (hp : Uniform p) (id : String) :
    (d'.outgoing id).find? p = (d.outgoing id).find? p := by
  obtain ⟨kept, hthin, horder⟩ := h.edges
  have hboth := uniform_and (uniform_source id) hp
  calc (d'.outgoing id).find? p = (kept.filter fun e => e.source = id).find? p := by
        rw [outgoing, horder.order]
    _ = kept.find? fun e => decide (decide (e.source = id) = true ∧ p e = true) := List.find?_filter
    _ = d.edges.find? fun e => decide (decide (e.source = id) = true ∧ p e = true) :=
      hthin.find?_eq hboth fun e he => nomatch he
    _ = (d.outgoing id).find? p := List.find?_filter.symm

/-- Two documents have the same ways: they name the same nodes, and where one leads the other does. -/
structure SameWays (d d' : Document) : Prop where
  nodes : d'.nodes = d.nodes
  start : d'.start = d.start
  next : ∀ id, d'.next id = d.next id
  nextBy : ∀ id handle, d'.nextBy id handle = d.nextBy id handle

theorem head?_eq_find? (es : List Edge) : es.head? = es.find? fun _ => true := by
  cases es <;> rfl

theorem Trims.sameWays (h : d.Trims d') : d.SameWays d' where
  nodes := h.nodes
  start := h.start
  next id := by
    simp only [next, head?_eq_find?, h.find?_outgoing uniform_isPlain,
      h.find?_outgoing uniform_true]
  nextBy id handle := by
    simp only [nextBy, h.find?_outgoing (uniform_handle handle)]

namespace SameWays

theorem refl (d : Document) : d.SameWays d := ⟨rfl, rfl, fun _ => rfl, fun _ _ => rfl⟩

variable (h : d.SameWays d')
include h

theorem node (id : String) : d'.node id = d.node id := by
  simp only [Document.node, h.nodes]

theorem hasNode (id : String) : d'.hasNode id = d.hasNode id := by
  simp only [Document.hasNode, h.nodes]

theorem startNode (explicit : Option String) : d'.startNode explicit = d.startNode explicit := by
  simp only [Document.startNode, startNode.implicit, startNode.byOrder, h.start, h.nodes, h.hasNode]

theorem branchTarget (id target : String) : d'.branchTarget id target = d.branchTarget id target := by
  simp only [Document.branchTarget, h.hasNode, h.nextBy]

end SameWays

end Document

end ChatFlow
