import ChatFlow.Document.Basic
import ChatFlow.Node.Kind

/-!
# Walking a document

The questions that a run asks of a document: where it begins, which node an id
names, and where it goes on after a node.  Of several nodes with one id the
first counts, and of several edges that answer a question the first in document
order.
-/

namespace ChatFlow.Document

/-- The node of this id; the empty id names none. -/
def node (d : Document) (id : String) : Option Node :=
  if id = "" then none else d.nodes.find? fun n => n.id = id

/-- Whether the id is that of a node. -/
def hasNode (d : Document) (id : String) : Bool := d.nodes.any fun n => n.id = id

/-- The number of different node ids. -/
def size (d : Document) : Nat :=
  (d.nodes.foldl (fun seen n => if seen.contains n.id then seen else n.id :: seen)
    ([] : List String)).length

/-- The edges that leave a node, in their order. -/
def outgoing (d : Document) (id : String) : List Edge := d.edges.filter fun e => e.source = id

/-- Whether a run may begin at nodes of this type by itself. -/
def isTriggerType (type : String) : Bool := NodeKind.ofType? type = some .trigger

/-- Where a run begins: at the start asked for, else at the start of the document if there is such a
node, else at its first trigger, else at its first node. -/
def startNode (d : Document) (explicit : Option String) : Option String :=
  match explicit with
  | some id => if id ≠ "" then some id else implicit
  | none => implicit
where
  /-- The start when none is asked for. -/
  implicit : Option String :=
    match d.start with
    | some id => if id ≠ "" ∧ d.hasNode id then some id else byOrder
    | none => byOrder
  /-- The first trigger, else the first node. -/
  byOrder : Option String :=
    match d.nodes.find? fun n => isTriggerType n.type with
    | some n => some n.id
    | none => d.nodes.head?.map Node.id

/-- Whether an edge has no handle at its source. -/
def isPlain (e : Edge) : Bool := e.sourceHandle.getD "" = ""

/-- The target of the edge that leaves a node by a handle. -/
def nextBy (d : Document) (id handle : String) : Option String :=
  ((d.outgoing id).find? fun e => e.sourceHandle = some handle).map Edge.target

/-- The target of the edge that leaves a node: the first one without a handle, else the first. -/
def next (d : Document) (id : String) : Option String :=
  match (d.outgoing id).find? isPlain with
  | some e => some e.target
  | none => (d.outgoing id).head?.map Edge.target

/-- Where the target of a branch leads: it names a node, or a handle of the branching node, or else
stands for itself. -/
def branchTarget (d : Document) (id target : String) : Option String :=
  if target = "" then none
  else if d.hasNode target then some target
  else match d.nextBy id target with
    | some t => if t ≠ "" then some t else some target
    | none => some target

end ChatFlow.Document
