import ChatFlow.Flow.Record

/-!
# The store of flows

Flows are kept under their ids in the order in which the ids were first saved.
A message starts the first active flow that has its text as a keyword.

The flows of a directory (`Flows.loadDirectory`) are those of its files whose names end in `.json`:
one flow, or a list of them, in each.  They are saved one by one, in the order of the names of the
files.  A file may fail at every step, and then what has been saved of it stays; a failure that a bad
file can lead to is passed over, and loading goes on with the next file.
-/

namespace ChatFlow

/-- The stored flows by their ids. -/
abbrev Flows := Entries FlowRecord

namespace Flows

/-- Saves a flow; one with the same id is replaced and keeps its rank. -/
def save (flows : Flows) (r : FlowRecord) : Flows := Entries.put flows r.id r

/-- Whether one of a flow's keywords is this word in lower case. -/
def answersTo (word : String) (r : FlowRecord) : Except Failure Bool := do
  return (← r.keywords).any fun k => Text.lower k = word

/-- The first active flow that has this word in lower case as a keyword. -/
def firstFor (word : String) : Flows → Except Failure (Option FlowRecord)
  | [] => .ok none
  | (_, r) :: rest => do
    if r.status = .active then
      if ← answersTo word r then return some r
      else firstFor word rest
    else firstFor word rest

/-- The flow that a message of this text starts. -/
def forMessage (flows : Flows) (text : String) : Except Failure (Option FlowRecord) :=
  let word := Text.lower (Text.strip text)
  if word = "" then .ok none else firstFor word flows

/-- The flow of this id, else the first flow whose name stands for it in addresses. -/
def named (flows : Flows) (name : String) : Option FlowRecord :=
  match Entries.find? flows name with
  | some r => some r
  | none => (flows.map (·.2)).find? fun r => FlowRecord.slug r.name = name

end Flows

/-! ### Directories -/

/-- What reading a file comes to. -/
inductive FileContents where
  | text (s : String)
  /-- The file cannot be opened or read. -/
  | refused
  /-- The bytes of the file are no UTF-8. -/
  | undecodable
  deriving DecidableEq, Repr

/-- The files of a directory by their names. -/
abbrev Directory := Entries FileContents

/-- Why loading stops. -/
inductive LoadFailure where
  | refused
  | undecodable
  | failed (f : Failure)

/-- Whether the next file has its turn after such a failure. -/
def LoadFailure.isPassedOver : LoadFailure → Bool
  | refused | undecodable => true
  | failed .notJson | failed (.fields _) => true
  | failed _ => false

/-- The value in a file. -/
def FileContents.payload : FileContents → Except LoadFailure Value
  | text s =>
    match Json.parse? s with
    | some v => .ok v
    | none => .error (.failed .notJson)
  | refused => .error .refused
  | undecodable => .error .undecodable

/-- Whether a name is that of a file of flows. -/
def Directory.isFlowFile (name : String) : Bool := Text.endsWith ".json".toList name.toList

/-- The files of flows in the order of their names. -/
def Directory.flowFiles (files : Directory) : Directory :=
  (files.filter fun f => isFlowFile f.1).mergeSort fun f g => decide (f.1 ≤ g.1)

namespace Flows

/-- How far loading has come: the store, and the number of flows saved. -/
structure Loading where
  flows : Flows
  count : Nat

/-- A part of loading.  What it has saved stays where it fails. -/
abbrev Loader := ExceptT LoadFailure (StateM Loading)

/-- The flows that a value stands for: its items, or it alone. -/
def itemsOf : Value → List Value
  | .list items => items
  | v => [v]

/-- Saves the flow that an item is read as. -/
def saveItem (item : Value) : Loader Unit :=
  match FlowRecord.ofValue item with
  | .ok r => modify fun l => ⟨l.flows.save r, l.count + 1⟩
  | .error f => throw (.failed f)

/-- Saves the flows of items one after the other. -/
def saveItems : List Value → Loader Unit
  | [] => pure ()
  | item :: rest => do
    saveItem item
    saveItems rest

/-- Saves the flows of a file. -/
def loadFile (c : FileContents) : Loader Unit :=
  match c.payload with
  | .ok v => saveItems (itemsOf v)
  | .error f => throw f

/-- Saves the flows of a file up to where it fails. -/
def tryFile (c : FileContents) : Loader Unit :=
  tryCatch (loadFile c) fun f => if f.isPassedOver then pure () else throw f

/-- Saves the flows of files one after the other. -/
def loadFiles : Directory → Loader Unit
  | [] => pure ()
  | (_, c) :: rest => do
    tryFile c
    loadFiles rest

/-- Saves the flows of a directory, if there is one, and counts them. -/
def loadDirectory (flows : Flows) : Option Directory → Except LoadFailure Nat × Flows
  | none => (.ok 0, flows)
  | some files =>
    let (outcome, loading) := ((loadFiles files.flowFiles).run.run ⟨flows, 0⟩ : Id _)
    (outcome.map fun _ => loading.count, loading.flows)

/-- The store after loading files whose texts are known, and the number of flows saved. -/
def load (flows : Flows) (files : List (String × String)) : Flows × Nat :=
  let (count, flows) := flows.loadDirectory (some (files.map fun f => (f.1, .text f.2)))
  (flows, count.toOption.getD 0)

end Flows

end ChatFlow
