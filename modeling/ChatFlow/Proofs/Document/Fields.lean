import ChatFlow.Document.Parse
import ChatFlow.Proofs.Form

/-!
# What nodes and edges are read from

Once its shape has been put right, a document is read field by field.
`Node.ReadFrom` and `Edge.ReadFrom` say what fields a node or an edge is read from; a
field that may be left out counts as what stands for it.
-/

namespace ChatFlow

namespace Value

variable {fields : Entries Value} {name : String}

theorem text?_eq_some_iff {v : Value} {s : String} : v.text? = some s ↔ v = .str s := by
  cases v <;> simp [text?]

theorem requiredText?_eq_some_iff {s : String} :
    requiredText? fields name = some s ↔ fields.find? name = some (.str s) := by
  rw [requiredText?, Option.bind_eq_some_iff]
  constructor
  · rintro ⟨v, hv, hs⟩
    rw [hv, text?_eq_some_iff.mp hs]
  · exact fun h => ⟨_, h, rfl⟩

theorem optionalText?_eq_some_iff {s : Option String} :
    optionalText? fields name = some s ↔ (fields.find? name).getD .null = ofText? s := by
  unfold optionalText?
  cases fields.find? name with
  | none => cases s <;> simp [ofText?]
  | some v => cases v <;> cases s <;> simp [ofText?, text?]

end Value

namespace Document

variable {fields : Entries Value} {d : Document}

/-- The fields that every node has. -/
def nodeNames : List String := ["id", "type", "config", "position", "label"]

/-- The fields that every edge has. -/
def edgeNames : List String := ["id", "source", "target", "sourceHandle", "targetHandle"]

end Document

open Document

/-- What a node is read from.  Its settings and its label may be left out, and its position. -/
structure Node.ReadFrom (n : Node) (fields : Entries Value) : Prop where
  id : fields.find? "id" = some (.str n.id)
  type : fields.find? "type" = some (.str n.type)
  config : (fields.find? "config").getD (.object []) = .object n.config
  position : (fields.find? "position").map coordinates? = n.position.map some
  label : (fields.find? "label").getD (.str "") = .str n.label
  extra : n.extra = Value.without nodeNames fields

/-- What an edge is read from.  Its handles may be left out or null. -/
structure Edge.ReadFrom (e : Edge) (fields : Entries Value) : Prop where
  id : fields.find? "id" = some (.str e.id)
  source : fields.find? "source" = some (.str e.source)
  target : fields.find? "target" = some (.str e.target)
  sourceHandle : (fields.find? "sourceHandle").getD .null = Value.ofText? e.sourceHandle
  targetHandle : (fields.find? "targetHandle").getD .null = Value.ofText? e.targetHandle
  extra : e.extra = Value.without edgeNames fields

namespace Document

variable {fields : Entries Value} {d : Document}

theorem config_eq_some_iff {config : Entries Value} :
    (match fields.find? "config" with
      | none => some []
      | some (.object fs) => some fs
      | some _ => none) = some config ↔
      (fields.find? "config").getD (.object []) = .object config := by
  cases fields.find? "config" with
  | none => simp
  | some v => cases v <;> simp

theorem position_eq_some_iff {position : Option (List (String × Float))} :
    (match fields.find? "position" with
      | none => some none
      | some v => (coordinates? v).map some) = some position ↔
      (fields.find? "position").map coordinates? = position.map some := by
  cases fields.find? "position" with
  | none => cases position <;> simp
  | some v => cases coordinates? v <;> cases position <;> simp

theorem label_eq_some_iff {label : String} :
    (match fields.find? "label" with
      | none => some ""
      | some v => v.text?) = some label ↔
      (fields.find? "label").getD (.str "") = .str label := by
  cases fields.find? "label" with
  | none => simp
  | some v => exact Value.text?_eq_some_iff

/-- A node is read one field after the other. -/
theorem node?_eq (fields : Entries Value) : node? fields =
    (Value.requiredText? fields "id").bind fun id =>
    (Value.requiredText? fields "type").bind fun type =>
    (match fields.find? "config" with
      | none => some []
      | some (.object fs) => some fs
      | some _ => none).bind fun config =>
    (match fields.find? "position" with
      | none => some none
      | some v => (coordinates? v).map some).bind fun position =>
    (match fields.find? "label" with
      | none => some ""
      | some v => v.text?).bind fun label =>
    some ⟨id, type, config, position, label, Value.without nodeNames fields⟩ := by
  unfold node?
  refine congrArg _ (funext fun id => congrArg _ (funext fun type => ?_))
  cases fields.find? "config" with
  | none => cases fields.find? "position" <;> cases fields.find? "label" <;> rfl
  | some v => cases v <;> cases fields.find? "position" <;> cases fields.find? "label" <;> rfl

theorem node?_eq_some_iff {n : Node} : node? fields = some n ↔ n.ReadFrom fields := by
  simp only [node?_eq, Option.bind_eq_some_iff, Value.requiredText?_eq_some_iff,
    config_eq_some_iff, position_eq_some_iff, label_eq_some_iff]
  constructor
  · rintro ⟨id, hid, type, htype, config, hconfig, position, hposition, label, hlabel, h⟩
    obtain rfl := Option.some.inj h
    exact ⟨hid, htype, hconfig, hposition, hlabel, rfl⟩
  · intro h
    refine ⟨_, h.id, _, h.type, _, h.config, _, h.position, _, h.label, ?_⟩
    obtain ⟨id, type, config, position, label, extra⟩ := n
    obtain rfl := h.extra
    rfl

theorem edge?_eq_some_iff {e : Edge} : edge? fields = some e ↔ e.ReadFrom fields := by
  unfold edge?
  simp only [Option.bind_eq_bind, Option.bind_eq_some_iff, Value.requiredText?_eq_some_iff,
    Value.optionalText?_eq_some_iff]
  constructor
  · rintro ⟨id, hid, source, hsource, target, htarget, handle, hhandle, handle', hhandle', h⟩
    obtain rfl := Option.some.inj h
    exact ⟨hid, hsource, htarget, hhandle, hhandle', rfl⟩
  · intro h
    refine ⟨_, h.id, _, h.source, _, h.target, _, h.sourceHandle, _, h.targetHandle, ?_⟩
    obtain ⟨id, source, target, handle, handle', extra⟩ := e
    obtain rfl := h.extra
    rfl

theorem ofParts_eq_ok_iff {parts : Parts} : ofParts parts = .ok d ↔
    allOf node? parts.nodes = some d.nodes ∧ allOf edge? parts.edges = some d.edges ∧
      start? parts.start = some d.start := by
  unfold ofParts
  constructor
  · intro h
    split at h
    · rename_i nodes edges start hnodes hedges hstart
      obtain rfl := Except.ok.inj h
      exact ⟨hnodes, hedges, hstart⟩
    · cases h
  · rintro ⟨hnodes, hedges, hstart⟩
    rw [hnodes, hedges, hstart]

end Document

end ChatFlow
