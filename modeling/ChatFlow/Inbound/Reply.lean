import ChatFlow.Inbound.Message

/-!
# Replies to a paused run

When a user replies, the reply becomes variables of the paused run: under the
id of the node that waits, and under the same names as for a message that
starts a run.
-/

namespace ChatFlow.Message

/-- The variables of a pressed button, for a run that waits at `node`. -/
def buttonReply (node : String) (reply : Value) : Except Failure (Entries Value) := do
  let id ← reply.get "id"
  let title ← reply.get "title"
  return Entries.ofPairs
    [(node, .object [("type", .str "button"), ("id", id), ("title", title)]),
      ("button.id", id), ("button.title", title)]

/-- The variables of a chosen row of a list, for a run that waits at `node`. -/
def listReply (node : String) (reply : Value) : Except Failure (Entries Value) := do
  let id ← reply.get "id"
  let title ← reply.get "title"
  let description := (← reply.get "description").orEmpty
  return Entries.ofPairs
    [(node, .object [("type", .str "list"), ("id", id), ("title", title),
        ("description", description)]),
      ("list.id", id), ("list.title", title), ("list.description", description)]

/-- The variables of a submitted form, for a run that waits at `node`. -/
def formReply (node : String) (data : Entries Value) : Entries Value :=
  Entries.ofPairs (formVariables node data ++ formVariables "flow_response" data)

/-- The variables of a shared location, for a run that waits at `node`. -/
def locationReply (node : String) (m : Message) : Entries Value :=
  let start := "location."
  let location := m.vars.filter fun e => Text.startsWith start.toList e.1.toList
  let short := location.map fun e => (String.ofList (e.1.toList.drop start.length), e.2)
  Entries.put location node (.object (Entries.merge [("type", .str "location")] short))

/-- The variables of a text, for a run that waits at `node`; the text is also kept under `saveAs`. -/
def textReply (node : String) (saveAs : Option String) (m : Message) : Entries Value :=
  let saved : Entries Value :=
    match saveAs with
    | some name => if name = "" then [] else [(name, .str m.body)]
    | none => []
  Entries.ofPairs
    ([(node, .object [("type", .str "text"), ("text", .str m.body)]),
      ("message.body", .str m.body), ("userMessage", .str m.body)] ++ saved)

/-- The variables that a reply adds to a run that waits at `node`. -/
def replyVariables (m : Message) (node : String) (saveAs : Option String) :
    Except Failure (Entries Value) :=
  let raw := Value.object m.raw
  match m.type with
  | "interactive" => do
    match ← replyKind raw with
    | .str "button_reply" => do buttonReply node (← replyPart raw "button_reply")
    | .str "list_reply" => do listReply node (← replyPart raw "list_reply")
    | .str "nfm_reply" =>
      return match ← formResponse? raw with
        | some data => formReply node data
        | none => []
    | _ => return []
  | "location" => .ok (locationReply node m)
  | "text" => .ok (textReply node saveAs m)
  | _ => .ok []

end ChatFlow.Message
