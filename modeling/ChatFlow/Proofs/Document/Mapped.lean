import ChatFlow.Proofs.Document.Fields
import ChatFlow.Proofs.Document.Graph
import ChatFlow.Proofs.Document.Shape
import ChatFlow.Proofs.Entries
import ChatFlow.Proofs.Value.Shown

/-!
# Documents in the older form

In the older form a flow is a map of nodes, and an entry of the map says itself where
the run goes on: under `next`, and for each button that has a successor.  When such a
flow is read, each entry that is an object becomes a node and each of its exits an edge
(`StoresMap.nodes_eq`, `StoresMap.edges_eq`).  Nothing else does: an entry of another
kind and a button without a successor leave no trace, except that a button keeps its
place among the others.

`older_form_leads_as_told` is the main statement: from a node that is read in this
way the document leads where its entry says.
-/

namespace ChatFlow

namespace Document

/-! ### What an entry says -/

/-- A stored flow says an object with a map of nodes; an empty map counts as none. -/
structure StoresMap (v : Value) (raw nodes : Entries Value) : Prop where
  said : said? v = some (.object raw)
  map : fieldOf raw "nodes" = .object nodes
  nonempty : nodes ≠ []

/-- The entries of a map that are objects, with the names that they stand under. -/
def mapped (nodes : Entries Value) : List (String × Entries Value) :=
  nodes.filterMap fun e =>
    match e.2 with
    | .object fs => some (e.1, fs)
    | _ => none

/-- The id of an entry: its own, else the name that it stands under. -/
def entryId (e : String × Entries Value) : String := legacyId e.1 e.2

/-- The buttons of an entry: those in its settings, else those beside them. -/
def buttonsOf (entry : Entries Value) : List Value :=
  let settings := fieldOf (legacyConfig entry) "buttons"
  match if settings.truthy then settings else fieldOf entry "buttons" with
  | .list buttons => buttons
  | _ => []

/-- The handle of a button: its id as text, else its place. -/
def handleAt (place : Nat) (button : Value) : String :=
  if (button.part "id").truthy then (button.part "id").display
  else "btn_" ++ String.ofList (Decimal.natChars place)

/-- Whether a button has a successor. -/
def leads (button : Value) : Bool := (button.part "nextNodeId").truthy

/-- The handles of the buttons that have a successor, each with the id of the successor. -/
def buttonExits (buttons : List Value) : Entries String :=
  (buttons.zipIdx.filter fun b => leads b.1).map fun b =>
    (handleAt b.2 b.1, (b.1.part "nextNodeId").display)

/-- Where an entry leads, by a handle or without: to its successor and to those of its buttons. -/
def exits (entry : Entries Value) : List (Option String × String) :=
  (if (fieldOf entry "next").truthy then [(none, (fieldOf entry "next").display)] else []) ++
    (buttonExits (buttonsOf entry)).map fun x => (some x.1, x.2)

/-- The name of an edge that has none. -/
def exitName (source : String) (exit : Option String × String) : String :=
  source ++ "->" ++ exit.2 ++
    match exit.1 with
    | some handle => ":" ++ handle
    | none => ""

/-- The edge that an exit of the node `source` becomes. -/
def exitEdge (source : String) (exit : Option String × String) : Edge :=
  ⟨exitName source exit, source, exit.2, exit.1, none, []⟩

/-! ### Reading an entry -/

section

variable {entry : Entries Value} {key id : String}

theorem btn_append_ne_empty (s : String) : "btn_" ++ s ≠ "" := by
  intro h
  have hlength := congrArg String.length h
  rw [String.length_append] at hlength
  exact absurd hlength (by simp)

theorem handleAt_ne_empty (place : Nat) (button : Value) : handleAt place button ≠ "" := by
  unfold handleAt
  split
  · exact Value.display_ne_empty ‹_›
  · exact btn_append_ne_empty _

/-- The fields of the edge that an exit is written down as. -/
def exitFields (source : String) (exit : Option String × String) : Entries Value :=
  [("id", .str (exitName source exit)), ("source", .str source), ("target", .str exit.2)] ++
    match exit.1 with
    | some handle => [("sourceHandle", .str handle)]
    | none => []

theorem edge?_exitFields (source : String) (exit : Option String × String) :
    edge? (exitFields source exit) = some (exitEdge source exit) := by
  obtain ⟨handle, target⟩ := exit
  cases handle <;> rfl

theorem buttonEdge?_eq (source : String) (place : Nat) (button : Value) :
    buttonEdge? source place button =
      if leads button then
        some (exitFields source (some (handleAt place button), (button.part "nextNodeId").display))
      else none := by
  cases button with
  | object fs =>
    have hpart (name : String) : (Value.object fs).part name = fieldOf fs name := rfl
    simp only [buttonEdge?, leads, hpart]
    split
    · have hhandle : (Value.str (handleAt place (.object fs))).truthy = true :=
        decide_eq_true (handleAt_ne_empty place _)
      simp only [handleAt, hpart] at hhandle
      simp only [edgeName, hhandle, if_true, handleAt, hpart, exitFields, exitName,
        Value.display_str, String.append_assoc]
      rfl
    · rfl
  | _ => rfl

theorem buttonEdges_eq (source : String) (place : Nat) (buttons : List Value) :
    buttonEdges source place buttons =
      (((buttons.zipIdx place).filter fun b => leads b.1).map fun b =>
        (handleAt b.2 b.1, (b.1.part "nextNodeId").display)).map fun x =>
          exitFields source (some x.1, x.2) := by
  induction buttons generalizing place with
  | nil => rfl
  | cons button rest ih =>
    rw [buttonEdges, buttonEdge?_eq, ih, List.zipIdx_cons]
    cases h : leads button <;> simp [h]

theorem legacyEdges_eq (key : String) (entry : Entries Value) :
    legacyEdges key entry = (exits entry).map (exitFields (legacyId key entry)) := by
  have hnext : (if (fieldOf entry "next").truthy then
      [[("id", .str (edgeName (.str (legacyId key entry)) (fieldOf entry "next") .null)),
        ("source", .str (legacyId key entry)), ("target", .str (fieldOf entry "next").display)]]
      else []) = (if (fieldOf entry "next").truthy then
        [((none : Option String), (fieldOf entry "next").display)] else []).map
          (exitFields (legacyId key entry)) := by
    split
    · simp [edgeName, exitFields, exitName, Value.truthy]
    · rfl
  have hbuttons : (match firstPresent (fieldOf (legacyConfig entry) "buttons")
        (fieldOf entry "buttons") with
      | .list bs => buttonEdges (legacyId key entry) 0 bs
      | _ => []) = ((buttonExits (buttonsOf entry)).map fun x => (some x.1, x.2)).map
        (exitFields (legacyId key entry)) := by
    simp only [buttonsOf, firstPresent, List.map_map]
    split
    · exact buttonEdges_eq _ 0 _
    · rfl
  rw [exits, List.map_append, ← hnext, ← hbuttons]
  rfl

/-- What is read of an entry: a node with its id, its type and its settings. -/
theorem readFrom_legacyNode {n : Node} (h : n.ReadFrom (legacyNode key entry)) :
    n.id = legacyId key entry ∧ Value.str n.type = (entry.find? "type").getD (.str "") ∧
      n.config = legacyConfig entry ∧ n.extra = [] :=
  ⟨(Value.str.inj (Option.some.inj h.id)).symm, (Option.some.inj h.type).symm,
    (Value.object.inj h.config).symm, h.extra⟩

end

/-! ### Documents -/

section

variable {v : Value} {raw nodes : Entries Value} {d : Document}

theorem legacyParts_eq (nodes raw : Entries Value) : legacyParts nodes raw =
    ⟨(mapped nodes).map fun e => legacyNode e.1 e.2,
      (mapped nodes).flatMap fun e => legacyEdges e.1 e.2,
      firstPresent (fieldOf raw "start_node") (fieldOf raw "startNode")⟩ := rfl

theorem StoresMap.partsOf_eq (h : StoresMap v raw nodes) :
    partsOf raw = .ok (legacyParts nodes raw) := by
  have htruthy : (fieldOf raw "nodes").truthy = true := by
    rw [h.map]
    cases hn : nodes with
    | nil => exact absurd hn h.nonempty
    | cons e rest => rfl
  rw [partsOf, firstPresent, if_pos htruthy, h.map]
  rfl

theorem StoresMap.parse_eq (h : StoresMap v raw nodes) :
    parse v = ofParts (legacyParts nodes raw) := by
  have hnull : v ≠ .null := by
    rintro rfl
    exact nomatch h.said
  rw [parse_eq_ofRead hnull, h.said, ofRead, ofValue, h.partsOf_eq]
  rfl

theorem StoresMap.allOf_nodes (h : StoresMap v raw nodes) (hd : parse v = .ok d) :
    allOf (fun e : String × Entries Value => node? (legacyNode e.1 e.2)) (mapped nodes) =
      some d.nodes := by
  rw [h.parse_eq, ofParts_eq_ok_iff] at hd
  rw [← hd.1, legacyParts_eq, allOf_map]

/-- Every entry becomes a node. -/
theorem StoresMap.nodes_eq (h : StoresMap v raw nodes) (hd : parse v = .ok d) :
    d.nodes.map (fun n => (n.id, Value.str n.type, n.config)) = (mapped nodes).map fun e =>
      (entryId e, (e.2.find? "type").getD (.str ""), legacyConfig e.2) := by
  refine map_of_allOf (fun e n hn => ?_) (h.allOf_nodes hd)
  obtain ⟨hid, htype, hconfig, -⟩ := readFrom_legacyNode (node?_eq_some_iff.mp hn)
  rw [hid, htype, hconfig]
  rfl

/-- Every exit of an entry becomes an edge. -/
theorem StoresMap.edges_eq (h : StoresMap v raw nodes) (hd : parse v = .ok d) :
    d.edges = (mapped nodes).flatMap fun e => (exits e.2).map (exitEdge (entryId e)) := by
  rw [h.parse_eq, ofParts_eq_ok_iff] at hd
  have hfields : (legacyParts nodes raw).edges = ((mapped nodes).flatMap fun e =>
      (exits e.2).map fun x => (entryId e, x)).map fun x => exitFields x.1 x.2 := by
    rw [legacyParts_eq, List.map_flatMap]
    simp only [legacyEdges_eq, List.map_map]
    rfl
  have hedges := hd.2.1
  rw [hfields, allOf_map, allOf_of_forall fun x _ => edge?_exitFields x.1 x.2] at hedges
  rw [← Option.some.inj hedges, List.map_flatMap]
  simp only [List.map_map]
  rfl

/-! ### Where the document leads -/

/-- From a node the document leads where the entries of its id lead, in their order. -/
theorem StoresMap.outgoing_eq (h : StoresMap v raw nodes) (hd : parse v = .ok d) (id : String) :
    d.outgoing id = ((mapped nodes).filter fun e => entryId e = id).flatMap fun e =>
      (exits e.2).map (exitEdge id) := by
  rw [outgoing, h.edges_eq hd, List.filter_flatMap]
  induction mapped nodes with
  | nil => rfl
  | cons e rest ih =>
    rw [List.flatMap_cons, ih]
    by_cases he : entryId e = id
    · subst he
      have hall : ∀ e' ∈ (exits e.2).map (exitEdge (entryId e)),
          decide (e'.source = entryId e) = true := by
        intro e' he'
        obtain ⟨x, -, rfl⟩ := List.mem_map.mp he'
        exact decide_eq_true rfl
      have hkept : decide (entryId e = entryId e) = true := decide_eq_true rfl
      rw [List.filter_eq_self.mpr hall, List.filter_cons, if_pos hkept, List.flatMap_cons]
    · have hnone : ∀ e' ∈ (exits e.2).map (exitEdge (entryId e)),
          ¬ decide (e'.source = id) = true := by
        intro e' he'
        obtain ⟨x, -, rfl⟩ := List.mem_map.mp he'
        exact fun hx => he (of_decide_eq_true hx)
      rw [List.filter_eq_nil_iff.mpr hnone, List.filter_cons_of_neg (by simpa using he),
        List.nil_append]

/-- A handle leads where the first button with this handle leads. -/
theorem find?_exits (source handle : String) (entry : Entries Value) :
    (((exits entry).map (exitEdge source)).find? fun e => e.sourceHandle = some handle).map
      Edge.target = (buttonExits (buttonsOf entry)).find? handle := by
  have hbuttons (xs : Entries String) :
      (((xs.map fun x => (some x.1, x.2)).map (exitEdge source)).find? fun e =>
        e.sourceHandle = some handle).map Edge.target = xs.find? handle := by
    induction xs with
    | nil => rfl
    | cons x rest ih =>
      by_cases hx : x.1 = handle
      · simp [exitEdge, hx, Entries.find?]
      · simpa [exitEdge, hx, Entries.find?] using ih
  rw [exits, List.map_append, List.find?_append]
  split
  · exact hbuttons _
  · exact hbuttons _

theorem handle_of_mem_buttonExits {buttons : List Value} {x : String × String}
    (h : x ∈ buttonExits buttons) : x.1 ≠ "" := by
  obtain ⟨b, -, rfl⟩ := List.mem_map.mp h
  exact handleAt_ne_empty b.2 b.1

/-- Without a handle an entry leads to its successor, else where its first button leads. -/
theorem first_of_exits (source : String) (entry : Entries Value) :
    (match ((exits entry).map (exitEdge source)).find? isPlain with
      | some e => some e.target
      | none => ((exits entry).map (exitEdge source)).head?.map Edge.target) =
      if (fieldOf entry "next").truthy then some (fieldOf entry "next").display
      else (buttonExits (buttonsOf entry)).head?.map (·.2) := by
  cases hnext : (fieldOf entry "next").truthy with
  | true => simp [exits, hnext, exitEdge, isPlain]
  | false =>
    have hexits : exits entry = (buttonExits (buttonsOf entry)).map fun x => (some x.1, x.2) := by
      rw [exits, hnext]
      rfl
    have hnone : ((exits entry).map (exitEdge source)).find? isPlain = none := by
      refine List.find?_eq_none.mpr fun e he => ?_
      obtain ⟨x, hx, rfl⟩ := List.mem_map.mp he
      rw [hexits] at hx
      obtain ⟨y, hy, rfl⟩ := List.mem_map.mp hx
      exact fun h => handle_of_mem_buttonExits hy (of_decide_eq_true h)
    rw [hnone, hexits, List.head?_map, List.head?_map, Option.map_map, Option.map_map]
    rfl

/-- Among entries with different ids there is one of each id only. -/
theorem filter_entryId {entries : List (String × Entries Value)} (hn : (entries.map entryId).Nodup)
    {e : String × Entries Value} (he : e ∈ entries) :
    (entries.filter fun e' => entryId e' = entryId e) = [e] := by
  induction entries with
  | nil => cases he
  | cons e' rest ih =>
    obtain ⟨hfresh, hn⟩ := List.nodup_cons.mp hn
    rcases List.mem_cons.mp he with rfl | he
    · have hnone : ∀ e' ∈ rest, ¬ decide (entryId e' = entryId e) = true := by
        intro e' he' h
        exact hfresh (List.mem_map.mpr ⟨e', he', of_decide_eq_true h⟩)
      have hkept : decide (entryId e = entryId e) = true := decide_eq_true rfl
      rw [List.filter_cons, if_pos hkept, List.filter_eq_nil_iff.mpr hnone]
    · have hother : ¬ decide (entryId e' = entryId e) = true := by
        intro h
        exact hfresh (List.mem_map.mpr ⟨e, he, (of_decide_eq_true h).symm⟩)
      rw [List.filter_cons, if_neg hother, ih hn he]

/-- What is stored again with other entries that are no objects is read as before. -/
theorem StoresMap.parse_restored (h : StoresMap v raw nodes) {nodes' : Entries Value}
    (hne : nodes' ≠ []) (hsame : mapped nodes' = mapped nodes) :
    parse (.object (raw.put "nodes" (.object nodes'))) = parse v := by
  have h' : StoresMap (.object (raw.put "nodes" (.object nodes')))
      (raw.put "nodes" (.object nodes')) nodes' := by
    refine ⟨rfl, ?_, hne⟩
    rw [fieldOf, Entries.find?_put_self]
    rfl
  have hother {name : String} (hname : name ≠ "nodes") :
      fieldOf (raw.put "nodes" (.object nodes')) name = fieldOf raw name := by
    rw [fieldOf, Entries.find?_put_ne _ _ hname]
    rfl
  rw [h'.parse_eq, h.parse_eq, legacyParts_eq, legacyParts_eq, hsame, hother (by decide),
    hother (by decide)]

/-- Of an entry with an id like no other the exits are the only edges that leave its node. -/
theorem StoresMap.outgoing_of_mem (h : StoresMap v raw nodes) (hd : parse v = .ok d)
    (hn : ((mapped nodes).map entryId).Nodup) {e : String × Entries Value} (he : e ∈ mapped nodes) :
    d.outgoing (entryId e) = (exits e.2).map (exitEdge (entryId e)) := by
  rw [h.outgoing_eq hd, filter_entryId hn he, List.flatMap_singleton]

theorem StoresMap.ids_eq (h : StoresMap v raw nodes) (hd : parse v = .ok d) :
    d.ids = (mapped nodes).map entryId := by
  have hids := congrArg (List.map Prod.fst) (h.nodes_eq hd)
  rw [List.map_map, List.map_map] at hids
  exact hids

/-- The id of an entry names the node that is read of it, if it is like no other and not empty. -/
theorem StoresMap.node_of_mem (h : StoresMap v raw nodes) (hd : parse v = .ok d)
    (hn : ((mapped nodes).map entryId).Nodup) {e : String × Entries Value} (he : e ∈ mapped nodes)
    (hid : entryId e ≠ "") :
    ∃ n, d.node (entryId e) = some n ∧ Value.str n.type = (e.2.find? "type").getD (.str "") ∧
      n.config = legacyConfig e.2 := by
  have hmem : (entryId e, (e.2.find? "type").getD (.str ""), legacyConfig e.2) ∈
      d.nodes.map fun n => (n.id, Value.str n.type, n.config) := by
    rw [h.nodes_eq hd]
    exact List.mem_map_of_mem he
  obtain ⟨n, hmem, hfields⟩ := List.mem_map.mp hmem
  simp only [Prod.mk.injEq] at hfields
  obtain ⟨hnid, htype, hconfig⟩ := hfields
  refine ⟨n, ?_, htype, hconfig⟩
  rw [← hnid] at hid ⊢
  rw [← h.ids_eq hd] at hn
  exact Document.node_of_mem hn hmem hid

/-- Settings of its own count, if they are an object. -/
theorem legacyConfig_of_object {entry settings : Entries Value}
    (h : entry.find? "config" = some (.object settings)) : legacyConfig entry = settings := by
  rw [legacyConfig, h]

/-- Without settings of its own the other fields of an entry are its settings. -/
theorem legacyConfig_of_not_isObject {entry : Entries Value}
    (h : (fieldOf entry "config").isObject = false) :
    legacyConfig entry = entry.filter fun f => !legacyNames.contains f.1 := by
  unfold legacyConfig
  split
  · rename_i fs hfs
    rw [fieldOf, hfs] at h
    cases h
  · rfl

/-- **A document in the older form leads where its entries say.**  The entries that are objects
have different ids, none of them empty.  Then the id of each of them names a node with its type
and its settings.  From it the document leads to the successor of the entry, else where its first
button with a successor leads, and by a handle where the first such button with this handle leads.
There are no other nodes and no other edges: an entry of another kind and a button without a
successor might as well not be there, except that the button keeps its place. -/
theorem older_form_leads_as_told (h : StoresMap v raw nodes) (hd : parse v = .ok d)
    (hn : ((mapped nodes).map entryId).Nodup) (hids : ∀ e ∈ mapped nodes, entryId e ≠ "") :
    (∀ e ∈ mapped nodes,
      (∃ n, d.node (entryId e) = some n ∧ Value.str n.type = (e.2.find? "type").getD (.str "") ∧
        (∀ settings, e.2.find? "config" = some (.object settings) → n.config = settings) ∧
        ((fieldOf e.2 "config").isObject = false →
          n.config = e.2.filter fun f => !legacyNames.contains f.1)) ∧
      (d.next (entryId e) =
        if (fieldOf e.2 "next").truthy then some (fieldOf e.2 "next").display
        else (buttonExits (buttonsOf e.2)).head?.map (·.2)) ∧
      ∀ handle, d.nextBy (entryId e) handle = (buttonExits (buttonsOf e.2)).find? handle) ∧
    d.ids = (mapped nodes).map entryId ∧
    d.edges = ((mapped nodes).flatMap fun e => (exits e.2).map (exitEdge (entryId e))) ∧
    ∀ nodes', nodes' ≠ [] → mapped nodes' = mapped nodes →
      parse (.object (raw.put "nodes" (.object nodes'))) = .ok d := by
  refine ⟨fun e he => ⟨?_, ?_, fun handle => ?_⟩, h.ids_eq hd, h.edges_eq hd,
    fun nodes' hne hsame => ?_⟩
  · obtain ⟨n, hnode, htype, hconfig⟩ := h.node_of_mem hd hn he (hids e he)
    refine ⟨n, hnode, htype, fun settings hs => ?_, fun hno => ?_⟩
    · rw [hconfig, legacyConfig_of_object hs]
    · rw [hconfig, legacyConfig_of_not_isObject hno]
  · rw [next, h.outgoing_of_mem hd hn he]
    exact first_of_exits (entryId e) e.2
  · rw [nextBy, h.outgoing_of_mem hd hn he]
    exact find?_exits (entryId e) handle e.2
  · rw [h.parse_restored hne hsame, hd]

end

/-- A question with two answers; beside it stands an entry that is no object, and among its
buttons one that is none. -/
def questioning : Entries Value :=
  [("welcome", .object [("type", .str "start"), ("next", .str "question")]), ("note", .int 3),
    ("ask", .object [("id", .str "question"), ("type", .str "send_button"),
      ("config", .object [("body", .str "Ready?"), ("buttons", .list
        [.object [("id", .str "yes"), ("title", .str "Yes"), ("nextNodeId", .str "done")],
          .str "maybe", .object [("title", .str "Later"), ("nextNodeId", .str "welcome")]])])]),
    ("done", .object [("type", .str "end"), ("text", .str "Bye")])]

theorem storesMap_questioning : StoresMap (.object [("nodes", .object questioning)])
    [("nodes", .object questioning)] questioning :=
  ⟨rfl, rfl, List.cons_ne_nil _ _⟩

/-- The third button keeps its place, and what is no object is passed over. -/
theorem older_form_leads_as_told_questioning :
    ∃ d, parse (.object [("nodes", .object questioning)]) = .ok d ∧
      d.ids = ["welcome", "question", "done"] ∧ d.next "welcome" = some "question" ∧
      d.next "question" = some "done" ∧ d.nextBy "question" "btn_2" = some "welcome" ∧
      d.nextBy "question" "btn_1" = none := by
  have hd : ∃ d, parse (.object [("nodes", .object questioning)]) = .ok d := ⟨_, rfl⟩
  obtain ⟨d, hd⟩ := hd
  obtain ⟨hled, hids, -, -⟩ := older_form_leads_as_told storesMap_questioning hd (by decide)
    (by decide)
  obtain ⟨-, hwelcome, -⟩ := hled _ List.mem_cons_self
  obtain ⟨-, hnext, hby⟩ := hled _ (List.mem_cons_of_mem _ List.mem_cons_self)
  exact ⟨d, hd, hids, hwelcome, hnext, hby "btn_2", hby "btn_1"⟩

end Document

end ChatFlow
