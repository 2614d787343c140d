import ChatFlow.Document.Basic
import ChatFlow.Failure
import ChatFlow.Form
import ChatFlow.Json.Reader
import ChatFlow.Value.Fields

/-!
# Reading flow documents

A stored flow has one of several shapes: a list of nodes with a list of edges,
an older map of nodes that name their successors, either of them as JSON text,
and nodes of a graphical editor that keep their type and settings under `data`.
`Document.parse` reads all of them into one form.  `Document.ofStored` takes a
flow that cannot be read for an empty one.

First the shape is put right (`nodeFields`, `edgesOf`, `legacyParts`), then
every node and edge is checked against its form; a text is never made from
another value there.
-/

namespace ChatFlow.Document

/-! ### Strict fields -/

/-- The coordinates of a position that is given. -/
def coordinates? (v : Value) : Option (List (String × Float)) :=
  match v with
  | .object fs => allOf (fun e : String × Value => e.2.asFloat?.map fun x => (e.1, x)) fs
  | _ => none

/-- A node from its fields. -/
def node? (fields : Entries Value) : Option Node := do
  let id ← Value.requiredText? fields "id"
  let type ← Value.requiredText? fields "type"
  let config ← match fields.find? "config" with
    | none => some []
    | some (.object fs) => some fs
    | some _ => none
  let position ← match fields.find? "position" with
    | none => some none
    | some v => (coordinates? v).map some
  let label ← match fields.find? "label" with
    | none => some ""
    | some v => v.text?
  return ⟨id, type, config, position, label,
    Value.without ["id", "type", "config", "position", "label"] fields⟩

/-- An edge from its fields. -/
def edge? (fields : Entries Value) : Option Edge := do
  let id ← Value.requiredText? fields "id"
  let source ← Value.requiredText? fields "source"
  let target ← Value.requiredText? fields "target"
  let sourceHandle ← Value.optionalText? fields "sourceHandle"
  let targetHandle ← Value.optionalText? fields "targetHandle"
  return ⟨id, source, target, sourceHandle, targetHandle,
    Value.without ["id", "source", "target", "sourceHandle", "targetHandle"] fields⟩

/-! ### Putting the shape right -/

/-- The fields of a document before they are checked. -/
structure Parts where
  nodes : List (Entries Value)
  edges : List (Entries Value)
  start : Value

/-- The first of two values that is present, else the second. -/
def firstPresent (a b : Value) : Value := if a.truthy then a else b

/-- The value under a name, null if there is none. -/
def fieldOf (fields : Entries Value) (name : String) : Value :=
  Value.ofOption (fields.find? name)

/-- The name of an edge that has none: its ends and its handle. -/
def edgeName (source target handle : Value) : String :=
  let base := source.display ++ "->" ++ target.display
  if handle.truthy then base ++ ":" ++ handle.display else base

/-- The types under which an editor wraps nodes of any type. -/
def wrapperTypes : List String := ["", "custom", "default", "flowNode"]

/-- Whether a type is that of a wrapper.  A list or an object cannot be looked up. -/
def isWrapper (type : Value) : Except Failure Bool :=
  match type with
  | .str s => .ok (wrapperTypes.contains s)
  | .list _ | .object _ =>
    .error (.wrongKind ("unhashable type: " ++ Text.quoted type.kindName))
  | _ => .ok false

/-- A node of an editor with the type, the settings and the label that stand under `data`, where it
has none of its own. -/
def unwrap (fields data : Entries Value) : Except Failure (Entries Value) := do
  let wrapped ← isWrapper ((fields.find? "type").getD (.str ""))
  let type := fieldOf data "type"
  let fields := if wrapped && type.truthy then fields.put "type" type else fields
  let config := fieldOf data "config"
  let fields :=
    if !(fieldOf fields "config").truthy && config.isObject then fields.put "config" config
    else fields
  let label := fieldOf data "label"
  return if !(fieldOf fields "label").truthy && label.truthy
    then fields.put "label" (.str label.display) else fields

/-- The fields of a node put right. -/
def nodeFields (fields : Entries Value) : Except Failure (Entries Value) := do
  let fields ← match fields.find? "data" with
    | some (.object data) => unwrap fields data
    | _ => pure fields
  let fields := if (fieldOf fields "config").isObject then fields else fields.put "config" (.object [])
  return fields.put "id" (.str ((fields.find? "id").getD (.str "")).display)

/-- The nodes of a list that are objects with an id. -/
def namedNodes (nodes : List Value) : List (Entries Value) :=
  nodes.filterMap fun n =>
    match n with
    | .object fs => if (fieldOf fs "id").truthy then some fs else none
    | _ => none

/-- The fields of an edge with a source and a target; an edge without a name gets one. -/
def edgeFields? (v : Value) : Option (Entries Value) :=
  match v with
  | .object fs =>
    let source := fieldOf fs "source"
    let target := fieldOf fs "target"
    if source.truthy && target.truthy then
      some (if Entries.has fs "id" then fs
        else Entries.put fs "id" (.str (edgeName source target (fieldOf fs "sourceHandle"))))
    else none
  | _ => none

/-- What stands in the place of the edges: only a list has edges, and a value that has no items at
all cannot be gone through. -/
def edgesOf (v : Value) : Except Failure (List (Entries Value)) :=
  match v with
  | .list items => .ok (items.filterMap edgeFields?)
  | .object _ | .str _ => .ok []
  | v =>
    if v.truthy then
      .error (.wrongKind (Text.quoted v.kindName ++ " object is not iterable"))
    else .ok []

/-! ### The older map of nodes -/

/-- The entries of a node in the older form that are not settings. -/
def legacyNames : List String := ["id", "type", "next", "position", "label", "config"]

/-- The id of a node in the older form: its own, else the name that it stands under. -/
def legacyId (key : String) (entry : Entries Value) : String :=
  let own := fieldOf entry "id"
  if own.truthy then own.display else key

/-- The settings of a node in the older form. -/
def legacyConfig (entry : Entries Value) : Entries Value :=
  match entry.find? "config" with
  | some (.object fs) => fs
  | _ => Value.without legacyNames entry

/-- The fields of a node in the older form. -/
def legacyNode (key : String) (entry : Entries Value) : Entries Value :=
  let position := fieldOf entry "position"
  let label := fieldOf entry "label"
  [("id", .str (legacyId key entry)),
   ("type", (entry.find? "type").getD (.str "")),
   ("config", .object (legacyConfig entry)),
   ("position", if position.truthy then position else .object [("x", .int 0), ("y", .int 0)]),
   ("label", if label.truthy then label else .str "")]

/-- The edge that a button with a successor stands for; a button without an id has its place among
the buttons as handle. -/
def buttonEdge? (id : String) (place : Nat) (button : Value) : Option (Entries Value) :=
  match button with
  | .object fs =>
    let next := fieldOf fs "nextNodeId"
    if next.truthy then
      let own := fieldOf fs "id"
      let handle := if own.truthy then own.display else "btn_" ++ String.ofList (Decimal.natChars place)
      some [("id", .str (edgeName (.str id) (.str next.display) (.str handle))),
        ("source", .str id), ("target", .str next.display), ("sourceHandle", .str handle)]
    else none
  | _ => none

/-- The edges that the buttons of a list stand for, counted from `place`. -/
def buttonEdges (id : String) : Nat → List Value → List (Entries Value)
  | _, [] => []
  | place, b :: rest => (buttonEdge? id place b).toList ++ buttonEdges id (place + 1) rest

/-- The edges of a node in the older form: to its successor, then one for each of its buttons. -/
def legacyEdges (key : String) (entry : Entries Value) : List (Entries Value) :=
  let id := legacyId key entry
  let next := fieldOf entry "next"
  let toNext : List (Entries Value) :=
    if next.truthy then
      [[("id", .str (edgeName (.str id) next .null)), ("source", .str id),
        ("target", .str next.display)]]
    else []
  let buttons := firstPresent (fieldOf (legacyConfig entry) "buttons") (fieldOf entry "buttons")
  toNext ++ match buttons with
    | .list bs => buttonEdges id 0 bs
    | _ => []

/-- The parts of a document in the older form; entries that are no objects are left out. -/
def legacyParts (nodes raw : Entries Value) : Parts :=
  let entries : List (String × Entries Value) := nodes.filterMap fun e =>
    match e.2 with
    | .object fs => some (e.1, fs)
    | _ => none
  { nodes := entries.map fun e => legacyNode e.1 e.2
    edges := entries.flatMap fun e => legacyEdges e.1 e.2
    start := firstPresent (fieldOf raw "start_node") (fieldOf raw "startNode") }

/-! ### Documents -/

/-- The parts of a document in any of its forms. -/
def partsOf (raw : Entries Value) : Except Failure Parts := do
  match firstPresent (fieldOf raw "nodes") (.list []) with
  | .object nodes => return legacyParts nodes raw
  | .list nodes =>
    let edges ← edgesOf (fieldOf raw "edges")
    let nodes ← (namedNodes nodes).mapM nodeFields
    return ⟨nodes, edges, firstPresent (fieldOf raw "startNode") (fieldOf raw "start_node")⟩
  | _ => .error (.document .badNodes)

/-- The start as a text or null. -/
def start? : Value → Option (Option String)
  | .null => some none
  | .str s => some (some s)
  | _ => none

/-- A document from its parts, if all of them have their form. -/
def ofParts (p : Parts) : Except Failure Document :=
  match allOf node? p.nodes, allOf edge? p.edges, start? p.start with
  | some nodes, some edges, some start => .ok ⟨nodes, edges, start⟩
  | nodes, edges, start =>
    let wrong : List (String × Bool) :=
      [("edges", edges.isNone), ("nodes", nodes.isNone), ("startNode", start.isNone)]
    .error (.document (.malformed ((wrong.filter (·.2)).map (·.1))))

/-- The document that an object is. -/
def ofValue (v : Value) : Except Failure Document :=
  match v with
  | .object raw => do ofParts (← partsOf raw)
  | v => .error (.document (.notObject v.kindName))

/-- The document that a value read from a JSON text is. -/
def ofRead : Option Value → Except Failure Document
  | some v => ofValue v
  | none => .error (.document .notJson)

/-- The document that a JSON text is. -/
def ofText (s : String) : Except Failure Document := ofRead (Json.parse? s)

/-- The document that a JSON text in bytes is. -/
def ofBytes (s : String) : Except Failure Document := ofRead (Json.parseBytes? s)

/-- The document that a stored flow holds, null being the empty one. -/
def parse (v : Value) : Except Failure Document :=
  match v with
  | .null => .ok empty
  | .str s => ofText s
  | v => ofValue v

/-- The document that a stored flow holds; one that cannot be read is empty. -/
def orEmpty (r : Except Failure Document) : Except Failure Document :=
  match r with
  | .error (.document _) => .ok empty
  | r => r

/-- The document that a stored flow holds, the empty one if it holds none. -/
def ofStored (v : Value) : Except Failure Document := orEmpty (parse v)

end ChatFlow.Document
