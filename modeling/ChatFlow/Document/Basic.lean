import ChatFlow.Value

/-!
# Flow documents

A flow document is a list of nodes, a list of edges between them and perhaps a
start.  Nodes and edges may carry further entries, which are kept.
-/

namespace ChatFlow

/-- A step of a flow.  Its settings are an open object that the node type gives a meaning; a node
without a position stands at the origin. -/
structure Node where
  id : String
  type : String
  config : Entries Value
  position : Option (List (String × Float))
  label : String
  extra : Entries Value

/-- A way from the end of one node to the start of another.  The handle at the source tells apart
the ways out of one node. -/
structure Edge where
  id : String
  source : String
  target : String
  sourceHandle : Option String
  targetHandle : Option String
  extra : Entries Value

/-- The graph that a flow is executed by. -/
structure Document where
  nodes : List Node
  edges : List Edge
  start : Option String

namespace Document

/-- The document without nodes. -/
def empty : Document := ⟨[], [], none⟩

end Document

/-- The coordinates of a position. -/
def Node.positionFields (n : Node) : Entries Value :=
  match n.position with
  | none => [("x", .int 0), ("y", .int 0)]
  | some coordinates => coordinates.map fun c => (c.1, .float c.2)

/-- All that a node holds, as an object. -/
def Node.dump (n : Node) : Value :=
  .object (Entries.merge
    [("id", .str n.id), ("type", .str n.type), ("config", .object n.config),
      ("position", .object n.positionFields), ("label", .str n.label)] n.extra)

/-- All that an edge holds, as an object. -/
def Edge.dump (e : Edge) : Value :=
  .object (Entries.merge
    [("id", .str e.id), ("source", .str e.source), ("target", .str e.target),
      ("sourceHandle", Value.ofText? e.sourceHandle),
      ("targetHandle", Value.ofText? e.targetHandle)] e.extra)

/-- All that a document holds, as an object. -/
def Document.dump (d : Document) : Value :=
  .object
    [("nodes", .list (d.nodes.map Node.dump)), ("edges", .list (d.edges.map Edge.dump)),
      ("startNode", Value.ofText? d.start)]

end ChatFlow
