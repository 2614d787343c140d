import ChatFlow.Proofs.Document.Reading
import ChatFlow.Proofs.Value.Parts

/-!
# Which stored documents can be read

Before the nodes and edges of a stored flow are checked, its shape is put right, and
that goes wrong where a value of another kind stands: edges that cannot be gone
through, and the type of a wrapped node that cannot be looked up (`Misshapen`).  Both
concern only the newer form, in which the nodes are a list.

`document_read_or_faulty` is the main statement.  A stored flow of any other shape is
read or is found to be faulty, and a faulty one counts as the empty document.  One of
these shapes is neither read nor found to be faulty, also where a faulty one is to
count as empty.
-/

namespace ChatFlow

namespace Value

/-- Whether a value can be gone through, an absent one having nothing in it. -/
def isSequence : Value → Bool
  | list _ | object _ | str _ => true
  | v => !v.truthy

/-- Whether a value can be looked up among others. -/
def isKey : Value → Bool
  | list _ | object _ => false
  | _ => true

end Value

namespace Document

/-- A node of an editor whose type cannot be looked up. -/
def Untyped (node : Entries Value) : Prop :=
  (∃ data, node.find? "data" = some (.object data)) ∧
    ((node.find? "type").getD (.str "")).isKey = false

/-- The nodes of a document are a list, or there are none. -/
def Listed (raw : Entries Value) : Prop :=
  (fieldOf raw "nodes").truthy = false ∨ ∃ nodes, fieldOf raw "nodes" = .list nodes

/-- What cannot be put right in a document whose nodes are a list. -/
inductive Crooked (raw : Entries Value) : Prop
  | edges (h : (fieldOf raw "edges").isSequence = false)
  | type {nodes : List Value} {node : Entries Value} (hn : fieldOf raw "nodes" = .list nodes)
      (hm : .object node ∈ nodes) (hid : (fieldOf node "id").truthy = true) (ht : Untyped node)

/-- The shape of a document cannot be put right. -/
def Misshapen (raw : Entries Value) : Prop := Listed raw ∧ Crooked raw

/-- What a stored flow says: a text stands for the JSON in it. -/
def said? : Value → Option Value
  | .str s => Json.parse? s
  | v => some v

/-- A stored flow is an object whose shape cannot be put right. -/
def Misread (v : Value) : Prop := ∃ raw, said? v = some (.object raw) ∧ Misshapen raw

/-! ### Nodes and edges -/

theorem exists_isWrapper_iff {type : Value} :
    (∃ wrapped, isWrapper type = .ok wrapped) ↔ type.isKey = true := by
  cases type <;> simp [isWrapper, Value.isKey]

theorem exists_nodeFields_iff {node : Entries Value} :
    (∃ fields, nodeFields node = .ok fields) ↔ ¬ Untyped node := by
  unfold nodeFields Untyped
  dsimp only
  split
  · rename_i data hdata
    have hiff : (∃ fields, unwrap node data = .ok fields) ↔
        ((node.find? "type").getD (.str "")).isKey = true := by
      simp only [unwrap, exists_ok_bind_iff, ← exists_isWrapper_iff]
      constructor
      · rintro ⟨wrapped, h, -⟩
        exact ⟨wrapped, h⟩
      · rintro ⟨wrapped, h⟩
        exact ⟨wrapped, h, _, rfl⟩
    rw [exists_ok_bind_iff]
    have hpure : ∀ x : Entries Value, ∃ b, (pure x : Except Failure (Entries Value)) = .ok b :=
      fun x => ⟨x, rfl⟩
    simp only [hpure, and_true, hiff, hdata, Option.some.injEq, Value.object.injEq, exists_eq',
      true_and, Bool.not_eq_false]
  · rename_i hdata
    refine iff_of_true ⟨_, rfl⟩ ?_
    rintro ⟨⟨data, h⟩, -⟩
    exact hdata data h

theorem exists_edgesOf_iff {edges : Value} :
    (∃ fields, edgesOf edges = .ok fields) ↔ edges.isSequence = true := by
  cases edges with
  | null => exact iff_of_true ⟨_, rfl⟩ rfl
  | list items => exact iff_of_true ⟨_, rfl⟩ rfl
  | object fs => exact iff_of_true ⟨_, rfl⟩ rfl
  | str s => exact iff_of_true ⟨_, rfl⟩ rfl
  | bool b => cases h : (Value.bool b).truthy <;> simp [edgesOf, Value.isSequence, h]
  | int n => cases h : (Value.int n).truthy <;> simp [edgesOf, Value.isSequence, h]
  | float x => cases h : (Value.float x).truthy <;> simp [edgesOf, Value.isSequence, h]

theorem exists_mapM_iff {ε α β : Type} {f : α → Except ε β} {l : List α} :
    (∃ bs, l.mapM f = .ok bs) ↔ ∀ a ∈ l, ∃ b, f a = .ok b := by
  induction l with
  | nil => exact iff_of_true ⟨[], rfl⟩ fun a h => (nomatch h)
  | cons a rest ih =>
    simp only [List.mapM_cons, exists_ok_bind_iff, List.forall_mem_cons, ← ih]
    constructor
    · rintro ⟨b, hb, bs, hbs, -⟩
      exact ⟨⟨b, hb⟩, bs, hbs⟩
    · rintro ⟨⟨b, hb⟩, bs, hbs⟩
      exact ⟨b, hb, bs, hbs, _, rfl⟩

theorem mem_of_mapM {ε α β : Type} {f : α → Except ε β} {l : List α} {bs : List β}
    (h : l.mapM f = .ok bs) {b : β} (hb : b ∈ bs) : ∃ a ∈ l, f a = .ok b := by
  induction l generalizing bs with
  | nil =>
    obtain rfl := pure_eq_ok_iff.mp h
    cases hb
  | cons a rest ih =>
    rw [List.mapM_cons] at h
    obtain ⟨b', hb', h⟩ := bind_eq_ok_iff.mp h
    obtain ⟨bs', hbs', h⟩ := bind_eq_ok_iff.mp h
    obtain rfl := pure_eq_ok_iff.mp h
    rcases List.mem_cons.mp hb with rfl | hb
    · exact ⟨a, List.mem_cons_self, hb'⟩
    · obtain ⟨a', ha', hf⟩ := ih hbs' hb
      exact ⟨a', List.mem_cons_of_mem a ha', hf⟩

theorem mapM_of_forall {ε α β : Type} {f : α → Except ε β} {g : α → β} {l : List α}
    (h : ∀ a ∈ l, f a = .ok (g a)) : l.mapM f = .ok (l.map g) := by
  induction l with
  | nil => rfl
  | cons a rest ih =>
    obtain ⟨ha, hrest⟩ := List.forall_mem_cons.mp h
    rw [List.mapM_cons, ha, ih hrest]
    rfl

theorem mem_namedNodes {nodes : List Value} {node : Entries Value} :
    node ∈ namedNodes nodes ↔ .object node ∈ nodes ∧ (fieldOf node "id").truthy = true := by
  simp only [namedNodes, List.mem_filterMap]
  constructor
  · rintro ⟨v, hv, h⟩
    split at h
    · split at h
      · rename_i hid
        obtain rfl := Option.some.inj h
        exact ⟨hv, hid⟩
      · cases h
    · cases h
  · rintro ⟨hv, hid⟩
    exact ⟨_, hv, if_pos hid⟩

/-! ### Whole documents -/

section

variable {raw : Entries Value} {nodes : List Value} {e : Failure}

/-- Nodes that are a list, or none, are gone through as a list. -/
theorem Listed.exists_nodes (h : Listed raw) :
    ∃ nodes, firstPresent (fieldOf raw "nodes") (.list []) = .list nodes ∧
      (fieldOf raw "nodes" = .list nodes ∨ nodes = []) := by
  rcases h with h | ⟨nodes, h⟩
  · exact ⟨[], by rw [firstPresent, h]; rfl, Or.inr rfl⟩
  · refine ⟨nodes, ?_, Or.inl h⟩
    cases nodes <;> simp [firstPresent, h, Value.truthy]

theorem listed_of_nodes (h : firstPresent (fieldOf raw "nodes") (.list []) = .list nodes) :
    Listed raw := by
  cases ht : (fieldOf raw "nodes").truthy with
  | false => exact Or.inl ht
  | true =>
    rw [firstPresent, if_pos ht] at h
    exact Or.inr ⟨nodes, h⟩

theorem exists_partsOf_of_nodes
    (h : firstPresent (fieldOf raw "nodes") (.list []) = .list nodes) :
    (∃ parts, partsOf raw = .ok parts) ↔ (fieldOf raw "edges").isSequence = true ∧
      ∀ node, .object node ∈ nodes → (fieldOf node "id").truthy = true → ¬ Untyped node := by
  have hnodes : (∃ fields, (namedNodes nodes).mapM nodeFields = .ok fields) ↔
      ∀ node, .object node ∈ nodes → (fieldOf node "id").truthy = true → ¬ Untyped node := by
    rw [exists_mapM_iff]
    simp only [mem_namedNodes, exists_nodeFields_iff, and_imp]
  rw [← hnodes, ← exists_edgesOf_iff]
  simp only [partsOf, h, exists_ok_bind_iff]
  constructor
  · rintro ⟨edges, he, fields, hf, -⟩
    exact ⟨⟨edges, he⟩, fields, hf⟩
  · rintro ⟨⟨edges, he⟩, fields, hf⟩
    exact ⟨edges, he, fields, hf, _, rfl⟩

theorem exists_partsOf_iff (h : Listed raw) :
    (∃ parts, partsOf raw = .ok parts) ↔ ¬ Crooked raw := by
  obtain ⟨nodes, hnodes, hsame⟩ := h.exists_nodes
  rw [exists_partsOf_of_nodes hnodes]
  constructor
  · rintro ⟨hedges, htypes⟩ hc
    cases hc with
    | edges he => rw [he] at hedges; cases hedges
    | @type nodes' node hn hm hid ht =>
      rcases hsame with hs | rfl
      · obtain rfl := Value.list.inj (hs.symm.trans hn)
        exact htypes node hm hid ht
      · -- a list with a node in it would have been taken for the nodes
        obtain ⟨first, rest, rfl⟩ := List.exists_cons_of_ne_nil (List.ne_nil_of_mem hm)
        rw [hn] at hnodes
        cases hnodes
  · intro hc
    refine ⟨?_, fun node hm hid ht => hc ?_⟩
    · cases he : (fieldOf raw "edges").isSequence with
      | true => rfl
      | false => exact absurd (.edges he) hc
    · rcases hsame with hs | rfl
      · exact .type hs hm hid ht
      · cases hm

/-- Where the nodes are a list, whatever fails fails for a value of a wrong kind. -/
theorem partsOf_error_of_nodes (h : firstPresent (fieldOf raw "nodes") (.list []) = .list nodes)
    (he : partsOf raw = .error e) : ∃ reason, e = .wrongKind reason := by
  unfold partsOf at he
  rw [h] at he
  rcases error_of_bind he with he | ⟨edges, -, he⟩
  · exact edgesOf_error he
  rcases error_of_bind he with he | ⟨fields, -, he⟩
  · obtain ⟨node, -, he⟩ := error_of_mapM he
    exact nodeFields_error he
  · cases he

theorem Misshapen.partsOf (h : Misshapen raw) :
    ∃ reason, Document.partsOf raw = .error (.wrongKind reason) := by
  obtain ⟨nodes, hnodes, -⟩ := h.1.exists_nodes
  have hfails : ¬ ∃ parts, Document.partsOf raw = .ok parts := by
    rw [exists_partsOf_iff h.1]
    exact fun hc => hc h.2
  obtain ⟨e, he⟩ := exists_error_iff.mpr hfails
  obtain ⟨reason, rfl⟩ := partsOf_error_of_nodes hnodes he
  exact ⟨reason, he⟩

/-- A document of any other shape is put right, or its nodes are at fault. -/
theorem partsOf_of_not_misshapen (h : ¬ Misshapen raw) :
    (∃ parts, partsOf raw = .ok parts) ∨ partsOf raw = .error (.document .badNodes) := by
  by_cases hl : Listed raw
  · exact Or.inl ((exists_partsOf_iff hl).mpr fun hc => h ⟨hl, hc⟩)
  · unfold partsOf
    split
    · exact Or.inl ⟨_, rfl⟩
    · rename_i hnodes
      exact absurd (listed_of_nodes hnodes) hl
    · exact Or.inr rfl

end

variable {v : Value}

theorem ofParts_reads_or_faulty (parts : Parts) :
    (∃ d, ofParts parts = .ok d) ∨ ∃ fault, ofParts parts = .error (.document fault) := by
  unfold ofParts
  split
  · exact Or.inl ⟨_, rfl⟩
  · exact Or.inr ⟨_, rfl⟩

theorem ofValue_of_misshapen {raw : Entries Value} (h : Misshapen raw) :
    ∃ reason, ofValue (.object raw) = .error (.wrongKind reason) := by
  obtain ⟨reason, hparts⟩ := h.partsOf
  exact ⟨reason, by rw [ofValue, hparts]; rfl⟩

theorem ofValue_reads_or_faulty (h : ∀ raw, v = .object raw → ¬ Misshapen raw) :
    (∃ d, ofValue v = .ok d) ∨ ∃ fault, ofValue v = .error (.document fault) := by
  unfold ofValue
  split
  · rename_i raw
    rcases partsOf_of_not_misshapen (h raw rfl) with ⟨parts, hparts⟩ | hparts
    · rw [hparts]
      exact ofParts_reads_or_faulty parts
    · rw [hparts]
      exact Or.inr ⟨_, rfl⟩
  · exact Or.inr ⟨_, rfl⟩

/-- A stored flow is read by what it says. -/
theorem parse_eq_ofRead (h : v ≠ .null) : parse v = ofRead (said? v) := by
  cases v with
  | null => exact absurd rfl h
  | _ => rfl

theorem Misread.parse (h : Misread v) :
    ∃ reason, Document.parse v = .error (.wrongKind reason) := by
  obtain ⟨raw, hsaid, hraw⟩ := h
  have hnull : v ≠ .null := by
    rintro rfl
    cases hsaid
  rw [parse_eq_ofRead hnull, hsaid]
  exact ofValue_of_misshapen hraw

theorem parse_reads_or_faulty (h : ¬ Misread v) :
    (∃ d, parse v = .ok d) ∨ ∃ fault, parse v = .error (.document fault) := by
  by_cases hnull : v = .null
  · subst hnull
    exact Or.inl ⟨empty, rfl⟩
  · rw [parse_eq_ofRead hnull]
    cases hsaid : said? v with
    | none => exact Or.inr ⟨.notJson, rfl⟩
    | some w =>
      refine ofValue_reads_or_faulty fun raw hw hraw => h ⟨raw, ?_, hraw⟩
      rw [hsaid, hw]

theorem ofStored_of_parse {d : Document} (h : parse v = .ok d) : ofStored v = .ok d := by
  rw [ofStored, h]
  rfl

theorem ofStored_of_faulty {fault : DocumentFault} (h : parse v = .error (.document fault)) :
    ofStored v = .ok empty := by
  rw [ofStored, h]
  rfl

theorem Misread.ofStored (h : Misread v) :
    ∃ reason, Document.ofStored v = .error (.wrongKind reason) := by
  obtain ⟨reason, hp⟩ := h.parse
  exact ⟨reason, by rw [Document.ofStored, hp]; rfl⟩

/-- A stored flow counts as a document exactly if its shape can be put right. -/
theorem exists_ofStored_iff : (∃ d, ofStored v = .ok d) ↔ ¬ Misread v := by
  constructor
  · rintro ⟨d, hd⟩ hm
    obtain ⟨reason, he⟩ := hm.ofStored
    rw [hd] at he
    cases he
  · intro hm
    rcases parse_reads_or_faulty hm with ⟨d, hd⟩ | ⟨fault, hf⟩
    · exact ⟨d, ofStored_of_parse hd⟩
    · exact ⟨empty, ofStored_of_faulty hf⟩

/-- A stored flow is read, or it is found to be faulty and counts as the empty document, unless its
shape cannot be put right.  Then it is neither, and does not count as a document at all. -/
theorem document_read_or_faulty (v : Value) :
    (¬ Misread v →
      ((∃ d, parse v = .ok d) ∨ ∃ fault, parse v = .error (.document fault)) ∧
      ∃ d, ofStored v = .ok d ∧ (∀ d', parse v = .ok d' → d' = d) ∧
        (d = empty ↔ (∃ fault, parse v = .error (.document fault)) ∨ parse v = .ok empty)) ∧
    (Misread v → ∃ reason, parse v = .error (.wrongKind reason) ∧
      ofStored v = .error (.wrongKind reason)) := by
  refine ⟨fun hm => ?_, fun hm => ?_⟩
  · have hread := parse_reads_or_faulty hm
    refine ⟨hread, ?_⟩
    rcases hread with ⟨d, hd⟩ | ⟨fault, hf⟩
    · refine ⟨d, ofStored_of_parse hd, fun d' hd' => ?_, ?_⟩
      · exact Except.ok.inj (hd'.symm.trans hd)
      · constructor
        · rintro rfl
          exact Or.inr hd
        · rintro (⟨fault, hf⟩ | he)
          · rw [hd] at hf
            cases hf
          · exact Except.ok.inj (hd.symm.trans he)
    · refine ⟨empty, ofStored_of_faulty hf, fun d' hd' => ?_, ?_⟩
      · rw [hf] at hd'
        cases hd'
      · exact iff_of_true rfl (Or.inl ⟨fault, hf⟩)
  · obtain ⟨reason, hp⟩ := hm.parse
    exact ⟨reason, hp, by rw [Document.ofStored, hp]; rfl⟩

/-- A stored flow without nodes that has a number in the place of its edges. -/
def numbered : Value := .object [("nodes", .list []), ("edges", .int 5)]

theorem misread_numbered : Misread numbered := ⟨_, rfl, Or.inl rfl, .edges rfl⟩

/-- The shape of that flow cannot be put right; a list is only faulty. -/
theorem document_read_or_faulty_numbered :
    (∃ reason, parse numbered = .error (.wrongKind reason)) ∧
      ∃ d, ofStored (.list []) = .ok d ∧ d = empty := by
  have hm : ¬ Misread (.list []) := by
    rintro ⟨raw, hsaid, -⟩
    cases hsaid
  obtain ⟨reason, hp, -⟩ := (document_read_or_faulty numbered).2 misread_numbered
  obtain ⟨-, d, hd, -, hempty⟩ := (document_read_or_faulty (.list [])).1 hm
  exact ⟨⟨reason, hp⟩, d, hd, hempty.mpr (Or.inl ⟨.notObject "list", rfl⟩)⟩

/-- A stored flow that is neither read nor found to be faulty, and that does not count as empty. -/
theorem numbered_edges_escape :
    (¬ ∃ d, parse numbered = .ok d) ∧ (∀ fault, parse numbered ≠ .error (.document fault)) ∧
      ∀ d, ofStored numbered ≠ .ok d := by
  obtain ⟨reason, hp⟩ := misread_numbered.parse
  obtain ⟨reason', ho⟩ := misread_numbered.ofStored
  refine ⟨?_, fun fault hf => ?_, fun d hd => ?_⟩
  · rintro ⟨d, hd⟩
    rw [hp] at hd
    cases hd
  · rw [hp] at hf
    cases hf
  · rw [ho] at hd
    cases hd

end Document

end ChatFlow
