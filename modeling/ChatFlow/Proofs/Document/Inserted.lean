import ChatFlow.Proofs.Document.Settled

/-!
# One edge more

A value that is put in among the edges of a document is left out unless it has a source and a
target (`Joins`), and is an edge if what it says of itself is text (`Spelled`).  Either way the
rest of the document is read as before.

Between the two stands a value that has both ends but not as text: it passes for an edge until the
document is checked, and then the whole document is faulty.  `inserted_edge` is the main statement,
with these three cases.
-/

namespace ChatFlow

namespace Document

variable {v v' x : Value} {raw fields : Entries Value} {before after : List Value} {d : Document}
  {parts : Parts}

/-- A value with a source and a target. -/
def Joins (x : Value) : Prop :=
  (x.part "source").truthy = true ∧ (x.part "target").truthy = true

/-- A value that says by texts what edge it is: its ends, its name if it has one, and its handles
if they are not null. -/
structure Spelled (x : Value) : Prop where
  id : ∀ w, x.field? "id" = some w → ∃ s, w = .str s
  source : ∃ s, x.part "source" = .str s
  target : ∃ s, x.part "target" = .str s
  sourceHandle : ∃ s, x.part "sourceHandle" = Value.ofText? s
  targetHandle : ∃ s, x.part "targetHandle" = Value.ofText? s

/-! ### Reading a value as an edge -/

theorem edgeFields?_eq_none_iff : edgeFields? x = none ↔ ¬ Joins x := by
  cases x with
  | object fs =>
    have hends : edgeFields? (.object fs) = none ↔
        ¬ ((fieldOf fs "source").truthy && (fieldOf fs "target").truthy) = true := by
      simp only [edgeFields?]
      split <;> simp_all
    rw [hends, Bool.and_eq_true]
    rfl
  | _ =>
    refine iff_of_true rfl ?_
    rintro ⟨h, -⟩
    cases h

/-- A value that is taken for an edge is completed by a name at most. -/
theorem exists_of_edgeFields? (h : edgeFields? x = some fields) :
    (∀ name, name ≠ "id" → Value.ofOption (fields.find? name) = x.part name) ∧
      ((∃ s, fields.find? "id" = some (.str s)) ↔ ∀ w, x.field? "id" = some w → ∃ s, w = .str s) := by
  cases x with
  | object fs =>
    simp only [edgeFields?] at h
    split at h
    · obtain rfl := Option.some.inj h
      have hfield (name : String) : (Value.object fs).field? name = Entries.find? fs name := rfl
      simp only [hfield]
      cases hid : Entries.find? fs "id" with
      | some w =>
        rw [if_pos (by rw [Entries.has, hid]; rfl)]
        refine ⟨fun name _ => rfl, ?_⟩
        simp [hid]
      | none =>
        rw [if_neg (by rw [Entries.has, hid]; decide)]
        refine ⟨fun name hname => ?_, ?_⟩
        · rw [Entries.find?_put_ne _ _ hname]
          rfl
        · simp
    · cases h
  | _ => cases h

theorem exists_edge?_iff (h : edgeFields? x = some fields) :
    (∃ e, edge? fields = some e) ↔ Spelled x := by
  obtain ⟨hother, hid⟩ := exists_of_edgeFields? h
  have htext {name : String} (hname : name ≠ "id") :
      (∃ s, fields.find? name = some (.str s)) ↔ ∃ s, x.part name = .str s := by
    rw [← hother name hname]
    cases fields.find? name <;> simp [Value.ofOption]
  have hhandle {name : String} (hname : name ≠ "id") :
      (fields.find? name).getD .null = x.part name := by
    rw [← hother name hname]
    exact Value.getD_null _
  simp only [edge?_eq_some_iff]
  constructor
  · rintro ⟨e, he⟩
    exact
      { id := hid.mp ⟨_, he.id⟩
        source := (htext (by decide)).mp ⟨_, he.source⟩
        target := (htext (by decide)).mp ⟨_, he.target⟩
        sourceHandle := ⟨_, (hhandle (by decide)).symm.trans he.sourceHandle⟩
        targetHandle := ⟨_, (hhandle (by decide)).symm.trans he.targetHandle⟩ }
  · intro hx
    obtain ⟨id, hid⟩ := hid.mpr hx.id
    obtain ⟨source, hsource⟩ := (htext (by decide)).mpr hx.source
    obtain ⟨target, htarget⟩ := (htext (by decide)).mpr hx.target
    obtain ⟨handle, hsourceHandle⟩ := hx.sourceHandle
    obtain ⟨handle', htargetHandle⟩ := hx.targetHandle
    refine ⟨⟨id, source, target, handle, handle', Value.without edgeNames fields⟩, ?_⟩
    exact
      { id := hid
        source := hsource
        target := htarget
        sourceHandle := (hhandle (by decide)).trans hsourceHandle
        targetHandle := (hhandle (by decide)).trans htargetHandle
        extra := rfl }

/-! ### Other edges in the same document -/

/-- Other edges change nothing but the edges. -/
theorem partsOf_put_edges (h : Listed raw) (hparts : partsOf raw = .ok parts) (edges : List Value) :
    partsOf (raw.put "edges" (.list edges)) =
      .ok { parts with edges := edges.filterMap edgeFields? } := by
  have hother {name : String} (hname : name ≠ "edges") :
      fieldOf (raw.put "edges" (.list edges)) name = fieldOf raw name := by
    rw [fieldOf, fieldOf, Entries.find?_put_ne _ _ hname]
  have hedges : fieldOf (raw.put "edges" (.list edges)) "edges" = .list edges := by
    rw [fieldOf, Entries.find?_put_self]
    rfl
  obtain ⟨nodes, hnodes, -⟩ := h.exists_nodes
  rw [partsOf_of_nodes hnodes] at hparts
  obtain ⟨old, -, hparts⟩ := bind_eq_ok_iff.mp hparts
  obtain ⟨ns, hns, hparts⟩ := bind_eq_ok_iff.mp hparts
  obtain rfl := Except.ok.inj hparts
  have hnodes' := hnodes
  rw [← hother (by decide)] at hnodes'
  rw [partsOf_of_nodes hnodes', hedges, hother (by decide), hother (by decide)]
  exact bind_eq_ok_iff.mpr ⟨_, rfl, bind_eq_ok_iff.mpr ⟨ns, hns, rfl⟩⟩

theorem edges_of_partsOf (h : Listed raw) (hparts : partsOf raw = .ok parts) {edges : List Value}
    (hedges : raw.find? "edges" = some (.list edges)) :
    parts.edges = edges.filterMap edgeFields? := by
  obtain ⟨nodes, hnodes, -⟩ := h.exists_nodes
  rw [partsOf_of_nodes hnodes, fieldOf, hedges] at hparts
  obtain ⟨read, hread, hparts⟩ := bind_eq_ok_iff.mp hparts
  obtain ⟨ns, -, hparts⟩ := bind_eq_ok_iff.mp hparts
  obtain rfl := Except.ok.inj hparts
  exact (Except.ok.inj hread).symm

/-- A document is faulty in its edges alone, where only these cannot be read. -/
theorem ofParts_of_unread_edges (h : ofParts parts = .ok d) {edges : List (Entries Value)}
    (hedges : allOf edge? edges = none) :
    ofParts { parts with edges } = .error (.document (.malformed ["edges"])) := by
  obtain ⟨hnodes, -, hstart⟩ := ofParts_eq_ok_iff.mp h
  simp only [ofParts, hnodes, hedges, hstart]
  rfl

/-- **One edge more.**  A value `x` is put in anywhere among the edges of a document that is read.
Without a source and a target it is left out.  If it spells an edge, the document has that edge in
its place and is the same otherwise.  But if it has both ends and does not spell an edge, the document
is not read any more, and counts as the empty one. -/
theorem inserted_edge (hraw : said? v = some (.object raw)) (hlisted : Listed raw)
    (hedges : raw.find? "edges" = some (.list (before ++ after))) (hread : parse v = .ok d)
    (hraw' : said? v' = some (.object (raw.put "edges" (.list (before ++ x :: after))))) :
    (¬ Joins x → parse v' = .ok d) ∧
    (Joins x → Spelled x → ∃ first last e, d.edges = first ++ last ∧
      allOf edge? (before.filterMap edgeFields?) = some first ∧
      (edgeFields? x).bind edge? = some e ∧
      parse v' = .ok { d with edges := first ++ e :: last }) ∧
    (Joins x → ¬ Spelled x → parse v' = .error (.document (.malformed ["edges"])) ∧
      ofStored v' = .ok empty) := by
  have hsaid {w : Value} {fs : Entries Value} (h : said? w = some (.object fs)) :
      parse w = partsOf fs >>= ofParts := by
    have hnull : w ≠ .null := by
      rintro rfl
      cases h
    rw [parse_eq_ofRead hnull, h]
    rfl
  rw [hsaid hraw] at hread
  obtain ⟨parts, hparts, hd⟩ := bind_eq_ok_iff.mp hread
  obtain ⟨hnodes, hallEdges, hstart⟩ := ofParts_eq_ok_iff.mp hd
  rw [edges_of_partsOf hlisted hparts hedges, List.filterMap_append] at hallEdges
  have hitems : (before ++ x :: after).filterMap edgeFields? = before.filterMap edgeFields? ++
      ((edgeFields? x).toList ++ after.filterMap edgeFields?) := by
    rw [List.filterMap_append, List.filterMap_cons]
    cases edgeFields? x <;> rfl
  have hparse : parse v' =
      ofParts { parts with edges := (before ++ x :: after).filterMap edgeFields? } := by
    rw [hsaid hraw', partsOf_put_edges hlisted hparts]
    rfl
  rw [hitems] at hparse
  rw [hparse]
  refine ⟨fun hx => ?_, fun hx hspelled => ?_, fun hx hspelled => ?_⟩
  · rw [edgeFields?_eq_none_iff.mpr hx]
    exact ofParts_eq_ok_iff.mpr ⟨hnodes, hallEdges, hstart⟩
  all_goals
    obtain ⟨fields, hfields⟩ := Option.ne_none_iff_exists'.mp fun h => edgeFields?_eq_none_iff.mp h hx
    rw [hfields]
  · obtain ⟨e, he⟩ := (exists_edge?_iff hfields).mpr hspelled
    obtain ⟨first, last, hsplit, hfirst, hlast⟩ := allOf_append.mp hallEdges
    refine ⟨first, last, e, hsplit, hfirst, he, ofParts_eq_ok_iff.mpr ⟨hnodes, ?_, hstart⟩⟩
    refine allOf_append.mpr ⟨first, e :: last, rfl, hfirst, ?_⟩
    exact allOf_append.mpr ⟨[e], last, rfl, by rw [Option.toList_some, allOf, he]; rfl, hlast⟩
  · have hnone : edge? fields = none := by
      refine Option.eq_none_iff_forall_ne_some.mpr fun e he => ?_
      exact hspelled ((exists_edge?_iff hfields).mp ⟨e, he⟩)
    have hfaulty := ofParts_of_unread_edges hd (allOf_eq_none
      (l := before.filterMap edgeFields? ++ ([fields] ++ after.filterMap edgeFields?)) (by simp) hnone)
    refine ⟨hfaulty, ?_⟩
    rw [ofStored, hparse, hfields]
    exact congrArg orEmpty hfaulty

/-- A flow with one node and these edges. -/
def alone (edges : List Value) : Entries Value :=
  [("nodes", .list [.object [("id", .str "a"), ("type", .str "end")]]), ("edges", .list edges)]

/-- That flow without edges. -/
def aloneRead : Document := ⟨[⟨"a", "end", [], none, "", []⟩], [], none⟩

/-- A value that leads from one node to another one. -/
def link (source target : Value) : Value := .object [("source", source), ("target", target)]

theorem inserted_edge_alone :
    parse (.object (alone [.int 5])) = .ok aloneRead ∧
    (∃ e, parse (.object (alone [link (.str "a") (.str "b")])) =
      .ok { aloneRead with edges := [e] }) ∧
    ofStored (.object (alone [link (.str "a") (.int 5)])) = .ok empty := by
  have hread : parse (.object (alone [])) = .ok aloneRead := rfl
  have hedges : Entries.find? (alone []) "edges" = some (.list ([] ++ [])) := rfl
  have hput (x : Value) : said? (.object (alone [x])) =
      some (.object (Entries.put (alone []) "edges" (.list ([] ++ x :: [])))) := rfl
  have hall (x : Value) := inserted_edge rfl (Or.inr ⟨_, rfl⟩) hedges hread (hput x)
  refine ⟨(hall (.int 5)).1 ?_, ?_, ((hall _).2.2 ⟨rfl, rfl⟩ ?_).2⟩
  · rintro ⟨h, -⟩
    cases h
  · have hspelled : Spelled (link (.str "a") (.str "b")) :=
      { id := fun w h => nomatch h
        source := ⟨"a", rfl⟩
        target := ⟨"b", rfl⟩
        sourceHandle := ⟨none, rfl⟩
        targetHandle := ⟨none, rfl⟩ }
    obtain ⟨first, last, e, hsplit, -, -, hparse⟩ :=
      (hall _).2.1 ⟨by decide, by decide⟩ hspelled
    obtain ⟨rfl, rfl⟩ := List.nil_eq_append_iff.mp hsplit
    exact ⟨e, hparse⟩
  · intro h
    obtain ⟨s, hs⟩ := h.target
    cases hs

/-- A target that is a number empties the document. -/
theorem numbered_target_empties :
    parse (.object (alone [])) = .ok aloneRead ∧
    (∀ d, parse (.object (alone [link (.str "a") (.int 5)])) ≠ .ok d) ∧
    ofStored (.object (alone [link (.str "a") (.int 5)])) = .ok empty := by
  refine ⟨rfl, fun d h => ?_, rfl⟩
  cases h

end Document

end ChatFlow
