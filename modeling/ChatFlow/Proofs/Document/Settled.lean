import ChatFlow.Proofs.Document.Fields
import ChatFlow.Proofs.Document.Mapped
import ChatFlow.Proofs.Document.Shape
import ChatFlow.Proofs.Document.Targets
import ChatFlow.Proofs.Value.Keyed

/-!
# Documents that are written out and read again

When a stored flow is read its shape is put right.  `Node.Settled` and `Edge.Settled` say
when there is nothing left to be put right: what stands under `data` has nothing more to
give to the node, and what is written out is read again as it was
(`Node.Settled.nodeFields_eq`, `Edge.Settled.edgeFields?_eq`).  Every node and every edge of
a document that was read is of this kind, from whichever shape it came.

`document_read_again` is the main statement: a document that was read is read again from
what it is written out as.
-/

namespace ChatFlow

open Document

/-! ### What is written out -/

/-- The coordinates of a node: those of its position, else those of the origin. -/
def Node.coordinates (n : Node) : List (String × Float) := n.position.getD [("x", 0), ("y", 0)]

/-- The node with its position said. -/
def Node.placed (n : Node) : Node := { n with position := some n.coordinates }

/-- What stands under `data` has nothing more to give to the node. -/
structure Node.Spent (n : Node) (data : Entries Value) : Prop where
  type : wrapperTypes.contains n.type = true → (fieldOf data "type").truthy = true →
    fieldOf data "type" = .str n.type
  config : n.config = [] → (fieldOf data "config").isObject = true →
    fieldOf data "config" = .object []
  label : n.label = "" → (fieldOf data "label").truthy = false

/-- A node in which nothing is left to be put right. -/
structure Node.Settled (n : Node) : Prop where
  named : n.id ≠ ""
  nodup : (Entries.keys n.extra).Nodup
  apart : ∀ name ∈ nodeNames, name ∉ Entries.keys n.extra
  spent : ∀ data, n.extra.find? "data" = some (.object data) → n.Spent data

/-- An edge in which nothing is left to be put right. -/
structure Edge.Settled (e : Edge) : Prop where
  source : e.source ≠ ""
  target : e.target ≠ ""
  nodup : (Entries.keys e.extra).Nodup
  apart : ∀ name ∈ edgeNames, name ∉ Entries.keys e.extra

/-- The fields that every node is written out with. -/
def Node.own (n : Node) : Entries Value :=
  [("id", .str n.id), ("type", .str n.type), ("config", .object n.config),
    ("position", .object n.positionFields), ("label", .str n.label)]

/-- The fields that a node is written out with. -/
def Node.fields (n : Node) : Entries Value := n.own ++ n.extra

/-- The fields that every edge is written out with. -/
def Edge.own (e : Edge) : Entries Value :=
  [("id", .str e.id), ("source", .str e.source), ("target", .str e.target),
    ("sourceHandle", Value.ofText? e.sourceHandle), ("targetHandle", Value.ofText? e.targetHandle)]

/-- The fields that an edge is written out with. -/
def Edge.fields (e : Edge) : Entries Value := e.own ++ e.extra

/-- The fields that a document is written out with. -/
def Document.fields (d : Document) : Entries Value :=
  [("nodes", .list (d.nodes.map Node.dump)), ("edges", .list (d.edges.map Edge.dump)),
    ("startNode", Value.ofText? d.start)]

namespace Document

/-- What stands under other names is what is left without these. -/
theorem without_append (own extra : Entries Value)
    (h : ∀ name ∈ Entries.keys own, name ∉ Entries.keys extra) :
    Value.without (Entries.keys own) (own ++ extra) = extra := by
  have hown : Value.without (Entries.keys own) own = [] :=
    List.filter_eq_nil_iff.mpr fun e he => by
      have hname : e.1 ∈ Entries.keys own := List.mem_map_of_mem he
      simpa using hname
  have hextra : Value.without (Entries.keys own) extra = extra :=
    List.filter_eq_self.mpr fun e he => by
      have hname : e.1 ∉ Entries.keys own := fun hmem => h e.1 hmem (List.mem_map_of_mem he)
      simpa using hname
  rw [Value.without, List.filter_append]
  exact congr (congrArg _ hown) hextra

section

variable {fields : Entries Value} {names : List String}

theorem not_mem_keys_without : ∀ name ∈ names, name ∉ Entries.keys (Value.without names fields) := by
  rintro name hname hmem
  obtain ⟨e, he, rfl⟩ := List.mem_map.mp hmem
  have hout := (List.mem_filter.mp he).2
  simp [hname] at hout

theorem find?_without {name : String} (h : name ∉ names) :
    Entries.find? (Value.without names fields) name = fields.find? name := by
  have hfilter : Entries.find? (Value.without names fields) name =
      if !names.contains name then fields.find? name else none :=
    Entries.find?_filter fun other => !names.contains other
  have hpass : (!names.contains name) = true := by simpa using h
  rw [hfilter, if_pos hpass]

end

/-- Writes an entry if there is a reason to. -/
def putIf (reason : Bool) (fields : Entries Value) (name : String) (value : Value) :
    Entries Value :=
  if reason then fields.put name value else fields

section

variable {reason : Bool} {fields : Entries Value} {name other : String} {value : Value}

theorem putIf_of_find? (h : reason = true → fields.find? name = some value) :
    putIf reason fields name value = fields := by
  unfold putIf
  split
  · exact Entries.put_of_find? (h ‹_›)
  · rfl

theorem find?_putIf_self : (putIf reason fields name value).find? name =
    if reason then some value else fields.find? name := by
  unfold putIf
  split
  · exact Entries.find?_put_self _ _ _
  · rfl

theorem find?_putIf_ne (h : other ≠ name) :
    (putIf reason fields name value).find? other = fields.find? other := by
  unfold putIf
  split
  · exact Entries.find?_put_ne _ _ h
  · rfl

theorem nodup_keys_putIf (h : (Entries.keys fields).Nodup) :
    (Entries.keys (putIf reason fields name value)).Nodup := by
  unfold putIf
  split
  · exact Entries.nodup_keys_put h value
  · exact h

end

/-- The fields of a wrapped node with the type that stands under `data`. -/
def typed (wrapped : Bool) (fields data : Entries Value) : Entries Value :=
  putIf (wrapped && (fieldOf data "type").truthy) fields "type" (fieldOf data "type")

/-- The fields of a node with the settings that stand under `data`, unless it has any. -/
def configuredFrom (fields data : Entries Value) : Entries Value :=
  putIf (!(fieldOf fields "config").truthy && (fieldOf data "config").isObject) fields "config"
    (fieldOf data "config")

/-- The fields of a node with the label that stands under `data`, unless it has one. -/
def labelled (fields data : Entries Value) : Entries Value :=
  putIf (!(fieldOf fields "label").truthy && (fieldOf data "label").truthy) fields "label"
    (.str (fieldOf data "label").display)

theorem unwrap_eq (fields data : Entries Value) : unwrap fields data =
    (isWrapper ((fields.find? "type").getD (.str ""))).map fun wrapped =>
      labelled (configuredFrom (typed wrapped fields data) data) data := by
  unfold unwrap
  cases isWrapper ((fields.find? "type").getD (.str "")) <;> rfl

/-- The fields of a node, and what stands under `data` where it has none of its own. -/
def unwrapped (fields : Entries Value) : Except Failure (Entries Value) :=
  match fields.find? "data" with
  | some (.object data) => unwrap fields data
  | _ => .ok fields

/-- The fields of a node with settings that are an object. -/
def configured (fields : Entries Value) : Entries Value :=
  putIf (!(fieldOf fields "config").isObject) fields "config" (.object [])

/-- The fields of a node with an id that is a text. -/
def identified (fields : Entries Value) : Entries Value :=
  fields.put "id" (.str ((fields.find? "id").getD (.str "")).display)

theorem nodeFields_eq (fields : Entries Value) :
    nodeFields fields = (unwrapped fields).map fun us => identified (configured us) := by
  have hconfigured (us : Entries Value) : configured us =
      if (fieldOf us "config").isObject then us else us.put "config" (.object []) := by
    unfold configured putIf
    cases (fieldOf us "config").isObject <;> rfl
  unfold nodeFields unwrapped
  simp only [hconfigured]
  cases fields.find? "data" with
  | none => rfl
  | some v =>
    cases v with
    | object data => cases hu : unwrap fields data <;> simp only [hu] <;> rfl
    | _ => rfl

end Document

namespace Node

variable {n : Node} {data : Entries Value}

theorem coordinates?_positionFields (n : Node) :
    coordinates? (.object n.positionFields) = some n.coordinates := by
  unfold positionFields coordinates
  cases n.position with
  | none => rfl
  | some coordinates =>
    simp only [coordinates?, Option.getD_some]
    rw [allOf_map, allOf_eq_some_iff]
    rfl

theorem Settled.dump_eq (h : n.Settled) : n.dump = .object n.fields :=
  congrArg Value.object (Entries.merge_eq_append h.nodup fun name hname hmem =>
    h.apart name hmem hname)

/-- A settled node is read of the fields that it is written out with. -/
theorem Settled.node?_eq (h : n.Settled) : node? n.fields = some n.placed := by
  have hextra : Value.without nodeNames n.fields = n.extra := without_append n.own n.extra h.apart
  exact node?_eq_some_iff.mpr
    { id := rfl
      type := rfl
      config := rfl
      position := congrArg some n.coordinates?_positionFields
      label := rfl
      extra := hextra.symm }

theorem find?_data_fields (n : Node) : n.fields.find? "data" = n.extra.find? "data" := by
  rw [fields, Entries.find?_append]
  rfl

/-- What has nothing more to give leaves the node as it is. -/
theorem Spent.unwrap_eq (h : n.Spent data) : unwrap n.fields data = .ok n.fields := by
  have hwrapped : isWrapper ((n.fields.find? "type").getD (.str "")) =
      .ok (wrapperTypes.contains n.type) := rfl
  have htype : (wrapperTypes.contains n.type && (fieldOf data "type").truthy) = true →
      n.fields.find? "type" = some (fieldOf data "type") := by
    intro hc
    obtain ⟨hcontains, htruthy⟩ := Bool.and_eq_true_iff.mp hc
    rw [h.type hcontains htruthy]
    rfl
  have hconfig : (!(fieldOf n.fields "config").truthy && (fieldOf data "config").isObject) = true →
      n.fields.find? "config" = some (fieldOf data "config") := by
    intro hc
    obtain ⟨hfalsy, hobject⟩ := Bool.and_eq_true_iff.mp hc
    have hempty : n.config = [] := by
      have hnot : (!(Value.object n.config).truthy) = true := hfalsy
      simpa [Value.truthy] using hnot
    have hown : n.fields.find? "config" = some (.object n.config) := rfl
    rw [h.config hempty hobject, hown, hempty]
  have hlabel : (!(fieldOf n.fields "label").truthy && (fieldOf data "label").truthy) = true →
      n.fields.find? "label" = some (.str (fieldOf data "label").display) := by
    intro hc
    obtain ⟨hfalsy, htruthy⟩ := Bool.and_eq_true_iff.mp hc
    have hempty : n.label = "" := by
      have hnot : (!(Value.str n.label).truthy) = true := hfalsy
      simpa [Value.truthy] using hnot
    rw [h.label hempty] at htruthy
    cases htruthy
  rw [Document.unwrap_eq, hwrapped, Except.map, typed, putIf_of_find? htype, configuredFrom,
    putIf_of_find? hconfig, labelled, putIf_of_find? hlabel]

/-- In the fields of a settled node nothing is put right. -/
theorem Settled.nodeFields_eq (h : n.Settled) : nodeFields n.fields = .ok n.fields := by
  have hunwrapped : unwrapped n.fields = .ok n.fields := by
    unfold unwrapped
    rw [find?_data_fields]
    split
    · exact (h.spent _ ‹_›).unwrap_eq
    · rfl
  have hid : n.fields.put "id" (.str n.id) = n.fields := Entries.put_of_find? rfl
  rw [Document.nodeFields_eq, hunwrapped]
  exact congrArg Except.ok hid

end Node

namespace Document

/-! ### Nodes of a list -/

section

variable {fields us data : Entries Value} {n : Node}

/-- What unwrapping a node makes of its fields. -/
structure Unwraps (fields data us : Entries Value) : Prop where
  type : ∃ wrapped, isWrapper ((fields.find? "type").getD (.str "")) = .ok wrapped ∧
    us.find? "type" = if wrapped && (fieldOf data "type").truthy then some (fieldOf data "type")
      else fields.find? "type"
  config : us.find? "config" =
    if !(fieldOf fields "config").truthy && (fieldOf data "config").isObject
    then some (fieldOf data "config") else fields.find? "config"
  label : us.find? "label" =
    if !(fieldOf fields "label").truthy && (fieldOf data "label").truthy
    then some (.str (fieldOf data "label").display) else fields.find? "label"
  other : ∀ name, name ∉ ["type", "config", "label"] → us.find? name = fields.find? name
  nodup : (Entries.keys fields).Nodup → (Entries.keys us).Nodup

theorem unwraps_of_unwrap (h : unwrap fields data = .ok us) : Unwraps fields data us := by
  rw [unwrap_eq] at h
  obtain ⟨wrapped, hwrapped, rfl⟩ := map_eq_ok_iff.mp h
  have htyped (name : String) (hname : name ≠ "type") :
      (typed wrapped fields data).find? name = fields.find? name := find?_putIf_ne hname
  have hset (name : String) (hname : name ≠ "config") :
      (configuredFrom (typed wrapped fields data) data).find? name =
        (typed wrapped fields data).find? name := find?_putIf_ne hname
  refine ⟨⟨wrapped, hwrapped, ?_⟩, ?_, ?_, fun name hname => ?_, fun hn => ?_⟩
  · rw [labelled, find?_putIf_ne (by decide), hset _ (by decide)]
    exact find?_putIf_self
  · rw [labelled, find?_putIf_ne (by decide), configuredFrom, find?_putIf_self, fieldOf,
      htyped _ (by decide)]
    rfl
  · rw [labelled, find?_putIf_self, fieldOf, hset _ (by decide), htyped _ (by decide)]
    rfl
  · simp only [List.mem_cons, List.not_mem_nil, or_false, not_or] at hname
    rw [labelled, find?_putIf_ne hname.2.2, hset _ hname.2.1, htyped _ hname.1]
  · exact nodup_keys_putIf (nodup_keys_putIf (nodup_keys_putIf hn))

theorem find?_configured (h : (fieldOf us "config").isObject = true) :
    (configured us).find? "config" = us.find? "config" := by
  rw [configured, h]
  rfl

/-- A field that is present does not count as what stands for it when it is left out. -/
theorem fieldOf_of_truthy {name : String} {default_ v : Value}
    (h : (fieldOf fields name).truthy = true) (hv : (fields.find? name).getD default_ = v) :
    fieldOf fields name = v := by
  unfold fieldOf at h ⊢
  cases hfield : fields.find? name with
  | none =>
    rw [hfield] at h
    cases h
  | some w =>
    rw [hfield] at hv
    exact hv

/-- What has been given once is not given again. -/
theorem Unwraps.spent (h : Unwraps fields data us)
    (hplain : (fieldOf fields "config").truthy = true → (fieldOf fields "config").isObject = true)
    (htype : us.find? "type" = some (.str n.type))
    (hconfig : ((configured us).find? "config").getD (.object []) = .object n.config)
    (hlabel : (us.find? "label").getD (.str "") = .str n.label) : n.Spent data := by
  refine ⟨fun hcontains htruthy => ?_, fun hempty hobject => ?_, fun hempty => ?_⟩
  · obtain ⟨wrapped, hwrapped, hfound⟩ := h.type
    rw [htype, htruthy, Bool.and_true] at hfound
    split at hfound
    · exact (Option.some.inj hfound).symm
    · rename_i hnot
      rw [← hfound] at hwrapped
      exact absurd ((Except.ok.inj hwrapped).symm.trans hcontains) hnot
  · have hfound := h.config
    rw [hobject, Bool.and_true] at hfound
    cases htruthy : (fieldOf fields "config").truthy with
    | false =>
      have hus : us.find? "config" = some (fieldOf data "config") := by
        rw [hfound, htruthy]
        rfl
      have hkept : (fieldOf us "config").isObject = true := by
        rw [fieldOf, hus]
        exact hobject
      rw [find?_configured hkept, hus, hempty] at hconfig
      exact hconfig
    | true =>
      have hus : us.find? "config" = fields.find? "config" := by
        rw [hfound, htruthy]
        rfl
      have hkept : (fieldOf us "config").isObject = true := by
        rw [fieldOf, hus]
        exact hplain htruthy
      rw [find?_configured hkept, hus, hempty] at hconfig
      rw [fieldOf_of_truthy htruthy hconfig] at htruthy
      cases htruthy
  · cases hgiven : (fieldOf data "label").truthy with
    | false => rfl
    | true =>
      have hfound := h.label
      rw [hgiven, Bool.and_true] at hfound
      rw [hfound, hempty] at hlabel
      cases htruthy : (fieldOf fields "label").truthy with
      | false =>
        rw [htruthy] at hlabel
        exact absurd (Value.str.inj hlabel) (Value.display_ne_empty hgiven)
      | true =>
        rw [htruthy] at hlabel
        rw [fieldOf_of_truthy htruthy hlabel] at htruthy
        cases htruthy

/-- What stands under `data` is the only thing that a node is unwrapped by. -/
structure Unwrapped (fields us : Entries Value) : Prop where
  data : ∀ data, fields.find? "data" = some (.object data) → Unwraps fields data us
  other : ∀ name, name ∉ ["type", "config", "label"] → us.find? name = fields.find? name
  nodup : (Entries.keys fields).Nodup → (Entries.keys us).Nodup

theorem unwrapped_of_eq_ok (h : unwrapped fields = .ok us) : Unwrapped fields us := by
  unfold unwrapped at h
  split at h
  · rename_i data hdata
    have hunwraps := unwraps_of_unwrap h
    refine ⟨fun data' hdata' => ?_, hunwraps.other, hunwraps.nodup⟩
    obtain rfl := Value.object.inj (Option.some.inj (hdata.symm.trans hdata'))
    exact hunwraps
  · rename_i hnone
    obtain rfl := Except.ok.inj h
    exact ⟨fun data hdata => absurd hdata (hnone data), fun name _ => rfl, fun hn => hn⟩

/-- A node of a list is settled once it has been read. -/
theorem settled_of_nodeFields {out : Entries Value} (h : nodeFields fields = .ok out)
    (hread : n.ReadFrom out) (hn : (Entries.keys fields).Nodup)
    (hid : (fieldOf fields "id").truthy = true)
    (hplain : (fieldOf fields "config").truthy = true →
      (fieldOf fields "config").isObject = true) : n.Settled := by
  rw [nodeFields_eq] at h
  obtain ⟨us, hus, rfl⟩ := map_eq_ok_iff.mp h
  have hunwrapped := unwrapped_of_eq_ok hus
  have hnodup : (Entries.keys (identified (configured us))).Nodup :=
    Entries.nodup_keys_put (nodup_keys_putIf (hunwrapped.nodup hn)) _
  have hout {name : String} (hname : name ≠ "id") :
      (identified (configured us)).find? name = (configured us).find? name :=
    Entries.find?_put_ne _ _ hname
  have hconfigured {name : String} (hname : name ≠ "config") :
      (configured us).find? name = us.find? name := find?_putIf_ne hname
  refine ⟨?_, ?_, hread.extra ▸ not_mem_keys_without, fun data hdata => ?_⟩
  · have hown : us.find? "id" = fields.find? "id" := hunwrapped.other "id" (by decide)
    have hread := hread.id
    rw [identified, Entries.find?_put_self, hconfigured (by decide), hown] at hread
    rw [← Value.str.inj (Option.some.inj hread), ← fieldOf_of_truthy hid rfl]
    exact Value.display_ne_empty hid
  · rw [hread.extra]
    exact Entries.nodup_keys_filter hnodup _
  · rw [hread.extra, find?_without (by decide), hout (by decide), hconfigured (by decide),
      hunwrapped.other "data" (by decide)] at hdata
    have htype := hread.type
    rw [hout (by decide), hconfigured (by decide)] at htype
    have hlabel := hread.label
    rw [hout (by decide), hconfigured (by decide)] at hlabel
    have hconfig := hread.config
    rw [hout (by decide)] at hconfig
    exact (hunwrapped.data data hdata).spent hplain htype hconfig hlabel

end

end Document

/-! ### Edges -/

namespace Edge

variable {e : Edge}

theorem Settled.dump_eq (h : e.Settled) : e.dump = .object e.fields :=
  congrArg Value.object (Entries.merge_eq_append h.nodup fun name hname hmem =>
    h.apart name hmem hname)

/-- A settled edge is read of the fields that it is written out with. -/
theorem Settled.edge?_eq (h : e.Settled) : edge? e.fields = some e := by
  have hextra : Value.without edgeNames e.fields = e.extra := without_append e.own e.extra h.apart
  exact edge?_eq_some_iff.mpr
    { id := rfl
      source := rfl
      target := rfl
      sourceHandle := rfl
      targetHandle := rfl
      extra := hextra.symm }

/-- In the fields of a settled edge nothing is put right. -/
theorem Settled.edgeFields?_eq (h : e.Settled) : edgeFields? e.dump = some e.fields := by
  have hends : ((Value.str e.source).truthy && (Value.str e.target).truthy) = true := by
    simp [Value.truthy, h.source, h.target]
  rw [h.dump_eq]
  exact if_pos hends

end Edge

namespace Document

section

variable {e : Edge} {fields : Entries Value}

theorem ne_empty_of_truthy {name s : String} (h : (fieldOf fields name).truthy = true)
    (hs : fields.find? name = some (.str s)) : s ≠ "" := by
  rw [fieldOf, hs] at h
  exact of_decide_eq_true h

/-- An edge of a list is settled once it has been read. -/
theorem settled_of_edgeFields? {v : Value} (hn : (Entries.keys v.fields).Nodup)
    (h : edgeFields? v = some fields) (hread : e.ReadFrom fields) : e.Settled := by
  cases v with
  | object fs =>
    simp only [edgeFields?] at h
    split at h
    · rename_i hends
      obtain ⟨hsource, htarget⟩ := Bool.and_eq_true_iff.mp hends
      have hfields : fields = putIf (!Entries.has fs "id") fs "id" (.str (edgeName
          (fieldOf fs "source") (fieldOf fs "target") (fieldOf fs "sourceHandle"))) := by
        rw [← Option.some.inj h, putIf]
        cases Entries.has fs "id" <;> rfl
      have hother {name : String} (hname : name ≠ "id") :
          fields.find? name = Entries.find? fs name := by
        rw [hfields]
        exact find?_putIf_ne hname
      have hnodup : (Entries.keys fields).Nodup := by
        rw [hfields]
        exact nodup_keys_putIf hn
      refine ⟨ne_empty_of_truthy hsource ?_, ne_empty_of_truthy htarget ?_, ?_,
        hread.extra ▸ not_mem_keys_without⟩
      · rw [← hother (by decide), hread.source]
      · rw [← hother (by decide), hread.target]
      · rw [hread.extra]
        exact Entries.nodup_keys_filter hnodup _
    · cases h
  | _ => cases h

end

/-! ### Documents -/

/-- A document in which nothing is left to be put right. -/
structure Settled (d : Document) : Prop where
  nodes : ∀ n ∈ d.nodes, n.Settled
  edges : ∀ e ∈ d.edges, e.Settled

/-- The settings of the named nodes in a list are objects, if there are any. -/
def PlainSettings (v : Value) : Prop :=
  ∀ raw nodes, said? v = some (.object raw) → fieldOf raw "nodes" = .list nodes →
    ∀ node ∈ namedNodes nodes, (fieldOf node "config").truthy = true →
      (fieldOf node "config").isObject = true

section

variable {v : Value} {raw : Entries Value} {d : Document}

theorem partsOf_of_nodes {nodes : List Value}
    (h : firstPresent (fieldOf raw "nodes") (.list []) = .list nodes) : partsOf raw = do
      let edges ← edgesOf (fieldOf raw "edges")
      let nodes ← (namedNodes nodes).mapM nodeFields
      return ⟨nodes, edges, firstPresent (fieldOf raw "startNode") (fieldOf raw "start_node")⟩ := by
  unfold partsOf
  rw [h]

theorem Settled.namedNodes_eq (h : d.Settled) :
    namedNodes (d.nodes.map Node.dump) = d.nodes.map Node.fields := by
  rw [namedNodes, List.filterMap_map, ← List.filterMap_eq_map]
  refine List.filterMap_congr fun n hn => ?_
  have hid : (Value.str n.id).truthy = true := decide_eq_true (h.nodes n hn).named
  rw [Function.comp_apply, (h.nodes n hn).dump_eq]
  exact if_pos hid

theorem Settled.edgesOf_eq (h : d.Settled) :
    edgesOf (.list (d.edges.map Edge.dump)) = .ok (d.edges.map Edge.fields) := by
  rw [edgesOf, List.filterMap_map, ← List.filterMap_eq_map]
  exact congrArg Except.ok (List.filterMap_congr fun e he => (h.edges e he).edgeFields?_eq)

/-- The start of a document; the empty id is none. -/
theorem start?_of_text (start : Option String) : start? (firstPresent (Value.ofText? start) .null) =
    some (start.filter fun id => id ≠ "") := by
  cases start with
  | none => rfl
  | some id =>
    by_cases hid : id = "" <;>
      simp [firstPresent, Value.ofText?, Value.truthy, start?, Option.filter_some, hid]

/-- A settled document is read again from what it is written out as. -/
theorem Settled.parse_dump (h : d.Settled) : parse d.dump =
    .ok ⟨d.nodes.map Node.placed, d.edges, d.start.filter fun id => id ≠ ""⟩ := by
  have hnodes : firstPresent (fieldOf d.fields "nodes") (.list []) =
      .list (d.nodes.map Node.dump) := by
    unfold fields
    cases d.nodes <;> rfl
  have hfields : (d.nodes.map Node.fields).mapM nodeFields = .ok (d.nodes.map Node.fields) := by
    have hsame : ∀ fields ∈ d.nodes.map Node.fields, nodeFields fields = .ok (id fields) := by
      rw [List.forall_mem_map]
      exact fun n hn => (h.nodes n hn).nodeFields_eq
    rw [mapM_of_forall hsame, List.map_id]
  have hparts : partsOf d.fields = .ok ⟨d.nodes.map Node.fields, d.edges.map Edge.fields,
      firstPresent (Value.ofText? d.start) .null⟩ := by
    refine (partsOf_of_nodes hnodes).trans (bind_eq_ok_iff.mpr ⟨_, h.edgesOf_eq, ?_⟩)
    rw [h.namedNodes_eq]
    exact bind_eq_ok_iff.mpr ⟨_, hfields, rfl⟩
  have hread : ofParts ⟨d.nodes.map Node.fields, d.edges.map Edge.fields,
      firstPresent (Value.ofText? d.start) .null⟩ =
      .ok ⟨d.nodes.map Node.placed, d.edges, d.start.filter fun id => id ≠ ""⟩ := by
    refine ofParts_eq_ok_iff.mpr ⟨?_, ?_, start?_of_text d.start⟩
    · rw [allOf_map]
      exact allOf_of_forall fun n hn => (h.nodes n hn).node?_eq
    · rw [allOf_map, allOf_of_forall fun e he => (h.edges e he).edge?_eq, List.map_id']
  calc parse d.dump = partsOf d.fields >>= ofParts := rfl
    _ = _ := by
      rw [hparts]
      exact hread

/-! ### What has been read -/

theorem isTidy_of_fieldOf {name : String} {w : Value} (h : (Value.object raw).isTidy = true)
    (hw : fieldOf raw name = w) : w.isTidy = true := by
  unfold fieldOf at hw
  cases hfield : raw.find? name with
  | none =>
    rw [hfield] at hw
    exact hw ▸ rfl
  | some found =>
    rw [hfield] at hw
    exact Value.isTidy_of_field? h (hfield.trans (congrArg some hw))

theorem isTidy_of_said? {w : Value} (hv : v.isTidy = true) (h : said? v = some w) :
    w.isTidy = true := by
  cases v with
  | str s => exact Json.tidy_of_parse? h
  | _ => exact Option.some.inj h ▸ hv

/-- The nodes of a document are what stands in their place if that is present, else none. -/
theorem nodes_of_firstPresent {given w : Value} (h : firstPresent given (.list []) = w) :
    (given.truthy = true ∧ given = w) ∨ w = .list [] := by
  unfold firstPresent at h
  split at h
  · exact Or.inl ⟨‹_›, h⟩
  · exact Or.inr h.symm

/-- In the older form entries become nodes that have nothing but their own fields. -/
theorem StoresMap.settled {nodes : Entries Value} (h : StoresMap v raw nodes) (hd : parse v = .ok d)
    (hids : ∀ n ∈ d.nodes, n.id ≠ "") : d.Settled := by
  refine ⟨fun n hn => ?_, fun e he => ?_⟩
  · obtain ⟨entry, -, hread⟩ := mem_of_allOf (h.allOf_nodes hd) hn
    obtain ⟨-, -, -, hextra⟩ := readFrom_legacyNode (node?_eq_some_iff.mp hread)
    refine ⟨hids n hn, ?_, ?_, ?_⟩ <;> rw [hextra]
    · exact List.nodup_nil
    · exact fun name _ => List.not_mem_nil
    · exact fun data hdata => nomatch hdata
  · have htarget := directed_of_parse hd e he
    rw [h.edges_eq hd] at he
    obtain ⟨entry, hentry, he⟩ := List.mem_flatMap.mp he
    obtain ⟨exit, -, rfl⟩ := List.mem_map.mp he
    have hid : entryId entry ∈ d.ids := by
      rw [h.ids_eq hd]
      exact List.mem_map_of_mem hentry
    obtain ⟨n, hn, hnid⟩ := List.mem_map.mp hid
    exact ⟨hnid ▸ hids n hn, htarget, List.nodup_nil, fun name _ => List.not_mem_nil⟩

/-- Nodes and edges of lists are settled. -/
theorem settled_of_nodes {nodes : List Value} {parts : Parts}
    (htidy : (Value.object raw).isTidy = true)
    (hnodes : firstPresent (fieldOf raw "nodes") (.list []) = .list nodes)
    (hplain : ∀ nodes, fieldOf raw "nodes" = .list nodes → ∀ node ∈ namedNodes nodes,
      (fieldOf node "config").truthy = true → (fieldOf node "config").isObject = true)
    (hparts : partsOf raw = .ok parts) (hd : ofParts parts = .ok d) : d.Settled := by
  rw [partsOf_of_nodes hnodes] at hparts
  obtain ⟨edges, hedges, hparts⟩ := bind_eq_ok_iff.mp hparts
  obtain ⟨outs, houts, hparts⟩ := bind_eq_ok_iff.mp hparts
  obtain rfl := pure_eq_ok_iff.mp hparts
  obtain ⟨hdnodes, hdedges, -⟩ := ofParts_eq_ok_iff.mp hd
  refine ⟨fun n hn => ?_, fun e he => ?_⟩
  · obtain ⟨out, hout, hread⟩ := mem_of_allOf hdnodes hn
    obtain ⟨fields, hfields, hright⟩ := mem_of_mapM houts hout
    obtain ⟨hmem, hid⟩ := mem_namedNodes.mp hfields
    rcases nodes_of_firstPresent hnodes with ⟨-, hlist⟩ | hnone
    · have hfieldsTidy := Value.isTidy_list.mp (isTidy_of_fieldOf htidy hlist) _ hmem
      exact settled_of_nodeFields hright (node?_eq_some_iff.mp hread)
        (Value.isTidy_object.mp hfieldsTidy).1 hid (hplain nodes hlist fields hfields)
    · rw [Value.list.inj hnone] at hmem
      cases hmem
  · obtain ⟨out, hout, hread⟩ := mem_of_allOf hdedges he
    obtain ⟨items, hitems, item, hitem, hright⟩ := exists_of_mem_edgesOf hedges hout
    have hitemTidy := Value.isTidy_list.mp (isTidy_of_fieldOf htidy hitems) item hitem
    exact settled_of_edgeFields? (Value.keyed_of_isTidy hitemTidy).nodup hright
      (edge?_eq_some_iff.mp hread)

/-- A document that was read is empty, or a map of nodes in the older form was stored for it, or its
parts were read from lists. -/
theorem cases_of_parse (hd : parse v = .ok d) : d = empty ∨ (∃ raw nodes, StoresMap v raw nodes) ∨
    ∃ raw nodes parts, said? v = some (.object raw) ∧
      firstPresent (fieldOf raw "nodes") (.list []) = .list nodes ∧ partsOf raw = .ok parts ∧
      ofParts parts = .ok d := by
  by_cases hnull : v = .null
  · subst hnull
    exact Or.inl (Except.ok.inj hd).symm
  rw [parse_eq_ofRead hnull] at hd
  cases hsaid : said? v with
  | none =>
    rw [hsaid] at hd
    cases hd
  | some w =>
    rw [hsaid] at hd
    cases w with
    | object raw =>
      obtain ⟨parts, hparts, hd⟩ := bind_eq_ok_iff.mp hd
      cases hnodes : firstPresent (fieldOf raw "nodes") (.list []) with
      | object nodes =>
        rcases nodes_of_firstPresent hnodes with ⟨htruthy, hmap⟩ | hnone
        · have hne : nodes ≠ [] := by
            rintro rfl
            rw [hmap] at htruthy
            cases htruthy
          exact Or.inr (Or.inl ⟨raw, nodes, hsaid, hmap, hne⟩)
        · cases hnone
      | list nodes => exact Or.inr (Or.inr ⟨raw, nodes, parts, rfl, hnodes, hparts, hd⟩)
      | _ =>
        unfold partsOf at hparts
        rw [hnodes] at hparts
        cases hparts
    | _ => cases hd

theorem settled_of_parse (hv : v.isTidy = true) (hplain : PlainSettings v) (hd : parse v = .ok d)
    (hids : ∀ n ∈ d.nodes, n.id ≠ "") : d.Settled := by
  obtain rfl | ⟨raw, nodes, hmap⟩ | ⟨raw, nodes, parts, hsaid, hnodes, hparts, hread⟩ :=
    cases_of_parse hd
  · exact ⟨List.forall_mem_nil _, List.forall_mem_nil _⟩
  · exact hmap.settled hd hids
  · exact settled_of_nodes (isTidy_of_said? hv hsaid) hnodes
      (fun nodes hlist => hplain raw nodes hsaid hlist) hparts hread

/-- **What is read is read again as it is.**  In every object of a stored flow the fields have
different names, and the settings of each node, if it has any, are an object.  If a document
without a nameless node was read from it, whatever its form, then the same document is read from
what this one is written out as: the same nodes, each with its position said, the same edges,
and the same start, the empty id counting as none. -/
theorem document_read_again (hv : v.isTidy = true) (hplain : PlainSettings v) (hd : parse v = .ok d)
    (hids : ∀ n ∈ d.nodes, n.id ≠ "") : parse d.dump =
      .ok ⟨d.nodes.map Node.placed, d.edges, d.start.filter fun id => id ≠ ""⟩ :=
  (settled_of_parse hv hplain hd hids).parse_dump

end

/-- A node of an editor, which keeps its type, its settings and its label under `data`. -/
def wrappedNode : Entries Value :=
  [("id", .int 1), ("type", .str "custom"), ("data", .object [("type", .str "send_message"),
    ("config", .object [("text", .str "Hello")]), ("label", .str "Greeting")]),
    ("selected", .bool true)]

/-- A node without settings. -/
def bareNode : Entries Value := [("id", .str "bye"), ("type", .str "end")]

/-- A flow of an editor, with an edge that has no name and with the empty start. -/
def edited : Value :=
  .object [("nodes", .list [.object wrappedNode, .object bareNode]),
    ("edges", .list [.object [("source", .str "1"), ("target", .str "bye")]]),
    ("start_node", .str "")]

theorem plainSettings_edited : PlainSettings edited := by
  intro raw nodes hsaid hnodes node hmem htruthy
  obtain rfl := Value.object.inj (Option.some.inj hsaid)
  obtain rfl := Value.list.inj hnodes
  have hmem : node ∈ [wrappedNode, bareNode] := hmem
  rcases List.mem_cons.mp hmem with rfl | hmem
  · cases htruthy
  · obtain rfl := List.mem_singleton.mp hmem
    cases htruthy

/-- What was taken from `data` is not taken again. -/
theorem document_read_again_edited : ∃ d d', parse edited = .ok d ∧ parse d.dump = .ok d' ∧
    d'.nodes.map Node.type = ["send_message", "end"] ∧ d'.edges = d.edges ∧
    d.start = some "" ∧ d'.start = none := by
  obtain ⟨d, hd, htypes, hids, hstart⟩ : ∃ d, parse edited = .ok d ∧
      d.nodes.map Node.type = ["send_message", "end"] ∧ d.nodes.map Node.id = ["1", "bye"] ∧
      d.start = some "" := ⟨_, rfl, rfl, rfl, rfl⟩
  have hnamed : ∀ n ∈ d.nodes, n.id ≠ "" := by
    rw [← List.forall_mem_map (f := Node.id) (P := fun id => id ≠ ""), hids]
    decide
  refine ⟨d, _, hd, document_read_again (by decide) plainSettings_edited hd hnamed, ?_, rfl,
    hstart, ?_⟩
  · rw [← htypes, List.map_map]
    rfl
  · rw [hstart]
    rfl

end Document

end ChatFlow
