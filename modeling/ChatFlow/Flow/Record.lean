import ChatFlow.Document.Parse
import ChatFlow.Node.Kind
import ChatFlow.Text.Letter

/-!
# Stored flows

A stored flow has an id, a name, a status, keywords that start it, and a
document that is read only when it is needed.  `FlowRecord.keywords` collects
the keywords from the three places where editors have put them.
-/

namespace ChatFlow

/-- The status of a stored flow. -/
inductive FlowStatus where
  | draft
  | active
  | paused
  | archived
  deriving DecidableEq, Repr

/-- The word for a status. -/
def FlowStatus.word : FlowStatus → String
  | draft => "draft"
  | active => "active"
  | paused => "paused"
  | archived => "archived"

/-- The status of a word. -/
def FlowStatus.ofWord? : String → Option FlowStatus
  | "draft" => some draft
  | "active" => some active
  | "paused" => some paused
  | "archived" => some archived
  | _ => none

/-- A stored flow.  Its document is kept as it came. -/
structure FlowRecord where
  id : String
  name : String
  userId : Option String
  description : Option String
  status : FlowStatus
  triggerKeywords : List String
  config : Value
  extra : Entries Value

namespace FlowRecord

/-- The status of a record from its fields; a flow without a status is a draft. -/
def status? (fields : Entries Value) : Option FlowStatus :=
  match fields.find? "status" with
  | none => some .draft
  | some v => v.text?.bind FlowStatus.ofWord?

/-- The keywords of a record from its fields: a list of texts. -/
def keywords? (fields : Entries Value) : Option (List String) :=
  match fields.find? "triggerKeywords" with
  | none => some []
  | some (.list items) => allOf Value.text? items
  | some _ => none

/-- The fields that a record has a place for. -/
def fieldNames : List String :=
  ["id", "name", "userId", "description", "status", "triggerKeywords", "config"]

/-- A record from its fields. -/
def ofFields (fields : Entries Value) : Except Failure FlowRecord :=
  match Value.requiredText? fields "id", Value.requiredText? fields "name",
    Value.optionalText? fields "userId", Value.optionalText? fields "description",
    status? fields, keywords? fields with
  | some id, some name, some userId, some description, some status, some keywords =>
    .ok { id := id, name := name, userId := userId, description := description, status := status,
          triggerKeywords := keywords, config := Value.ofOption (fields.find? "config"),
          extra := Value.without fieldNames fields }
  | id, name, userId, description, status, keywords =>
    .error (Value.unread [("id", id.isNone), ("name", name.isNone), ("userId", userId.isNone),
      ("description", description.isNone), ("status", status.isNone),
      ("triggerKeywords", keywords.isNone)])

/-- A record from a value, which has to be an object. -/
def ofValue : Value → Except Failure FlowRecord
  | .object fields => ofFields fields
  | _ => .error (.fields [""])

/-- All that a record holds, as an object. -/
def dump (r : FlowRecord) : Value :=
  .object (Entries.merge
    [("id", .str r.id), ("name", .str r.name), ("userId", Value.ofText? r.userId),
      ("description", Value.ofText? r.description), ("status", .str r.status.word),
      ("triggerKeywords", .list (r.triggerKeywords.map .str)), ("config", r.config)] r.extra)

/-! ### Names in addresses -/

/-- Whether a character may stand in the name of a flow in an address. -/
def isSlugChar (c : Char) : Bool := c.isDigit || c.isLower

/-- A text with a hyphen in the place of each run of characters that an address does not take;
`inRun` says that such a run has begun. -/
def slugChars (inRun : Bool) : List Char → List Char
  | [] => []
  | c :: rest =>
    if isSlugChar c then c :: slugChars false rest
    else if inRun then slugChars true rest
    else '-' :: slugChars true rest

/-- The name of a flow as it stands in an address. -/
def slug (name : String) : String := String.ofList (slugChars false (Text.lower name).toList)

/-! ### Keywords -/

/-- A stored document as a value: a text that is JSON stands for what it says, and one that is not
for an empty object. -/
def configValue (r : FlowRecord) : Value :=
  match r.config with
  | .str s => (Json.parse? s).getD (.object [])
  | v => v

/-- The keywords in the trigger block of a document. -/
def blockKeywords (config : Value) : Except Failure (List String) := do
  match (config.field? "trigger").getD .null with
  | .object trigger =>
    let data ← Value.get (.object trigger) "data"
    let settings ← data.orObject.get "config"
    return splitKeywords (Value.ofOption (settings.field? "keywords"))
  | _ => return []

/-- The keywords of the nodes that start a flow on a message. -/
def nodeKeywords (d : Document) : List String :=
  (d.nodes.filter fun n => n.type = "on_message").flatMap fun n =>
    splitKeywords (Value.ofOption (n.config.find? "keywords"))

/-- All keywords of a flow: its own, those in the trigger block of its document, and those of its
nodes. -/
def keywords (r : FlowRecord) : Except Failure (List String) := do
  let config := r.configValue
  let block ← blockKeywords config
  let document ← Document.ofStored config
  return splitKeywords (.list (r.triggerKeywords.map .str)) ++ block ++ nodeKeywords document

end FlowRecord

end ChatFlow
