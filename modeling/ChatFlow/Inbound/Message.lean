import ChatFlow.Failure
import ChatFlow.Json.Reader
import ChatFlow.Text.Split
import ChatFlow.Value.Fields
import ChatFlow.Value.Render

/-!
# Inbound messages

A delivery of the messaging service is a deeply nested object.  `Message.ofPayload`
takes the first message out of it, together with the variables that a run
started by the message begins with.  A delivery without a message, such as a
status report, gives none.
-/

namespace ChatFlow

/-- A message from a conversation. -/
structure Message where
  phone : String
  type : String
  body : String
  id : Option String
  timestamp : Option String
  contactName : Option String
  raw : Entries Value
  vars : Entries Value

namespace Message

/-- The data of a submitted form, if the message holds them as an object. -/
def formResponse? (message : Value) : Except Failure (Option (Entries Value)) := do
  let interactive ← message.get "interactive"
  let reply ← interactive.orObject.get "nfm_reply"
  let response ← reply.orObject.get "response_json"
  if !response.truthy then return none
  let data := match response with
    | .str s => Json.parse? s
    | v => some v
  return match data with
    | some (.object fs) => some fs
    | _ => none

/-- The variables of a message with an image, a video, a sound or a document. -/
def mediaVariables (kind : String) (media : Value) : Except Failure (Entries Value) := do
  let id ← media.get "id"
  let mime ← media.get "mime_type"
  let caption ← if kind = "audio" then pure []
    else (fun v => [("media.caption", v.orEmpty)]) <$> media.get "caption"
  let filename ← if kind = "document"
    then (fun v => [("media.filename", v.orEmpty)]) <$> media.get "filename"
    else pure []
  return [("media.type", .str kind), ("media.id", id), ("media.mime_type", mime), (kind ++ ".id", id)]
    ++ caption ++ filename

/-- The variables of a shared location. -/
def locationVariables (location : Value) : Except Failure (Entries Value) := do
  return [("location.latitude", ← location.get "latitude"),
    ("location.longitude", ← location.get "longitude"),
    ("location.name", (← location.get "name").orEmpty),
    ("location.address", (← location.get "address").orEmpty)]

/-- The variables of a pressed button. -/
def buttonVariables (reply : Value) : Except Failure (Entries Value) := do
  return [("button.id", ← reply.get "id"), ("button.title", ← reply.get "title")]

/-- The variables of a chosen row of a list. -/
def listVariables (reply : Value) : Except Failure (Entries Value) := do
  return [("list.id", ← reply.get "id"), ("list.title", ← reply.get "title"),
    ("list.description", (← reply.get "description").orEmpty)]

/-- The variables of a submitted form: all data under `base`, and each of its fields below it. -/
def formVariables (base : String) (data : Entries Value) : Entries Value :=
  (base, .object data) :: data.map fun e => (base ++ "." ++ e.1, e.2)

/-- The kind of an interactive reply. -/
def replyKind (message : Value) : Except Failure Value := do
  (← message.get "interactive").orObject.get "type"

/-- The part of an interactive reply that has this name. -/
def replyPart (message : Value) (name : String) : Except Failure Value := do
  return (← (← message.get "interactive").orObject.get name).orObject

/-- The variables that an interactive reply has of its own. -/
def interactiveVariables (message : Value) : Except Failure (Entries Value) := do
  match ← replyKind message with
  | .str "button_reply" => do buttonVariables (← replyPart message "button_reply")
  | .str "list_reply" => do listVariables (← replyPart message "list_reply")
  | .str "nfm_reply" =>
    return match ← formResponse? message with
      | some data => formVariables "flow_response" data
      | none => []
  | _ => return []

/-- The types of messages that carry a file. -/
def mediaTypes : List String := ["image", "video", "audio", "document"]

/-- The variables that a message has by its type. -/
def typeVariables (message type : Value) : Except Failure (Entries Value) := do
  match type with
  | .str "text" =>
    return [("text.body", (← (← message.get "text").orObject.get "body").orEmpty)]
  | .str "location" =>
    let location ← message.get "location"
    if location.truthy then locationVariables location else return []
  | .str "interactive" => interactiveVariables message
  | .str kind =>
    if mediaTypes.contains kind then
      let media ← message.get kind
      if media.truthy then mediaVariables kind media else return []
    else return []
  | _ => return []

/-- The text of a message: that of a text message, else the title of a pressed button. -/
def bodyOf (message : Value) : Except Failure Value := do
  let body ← (← message.get "text").orObject.get "body"
  if body.truthy then return body
  return (← (← replyPart message "button_reply").get "title").orEmpty

/-- The variables that a run started by a message begins with. -/
def startVariables (message contactName : Value) : Except Failure (Entries Value) := do
  let type := (message.field? "type").getD (.str "")
  let body ← bodyOf message
  let common : Entries Value :=
    [("userMessage", body), ("user.phone", ← message.get "from"), ("message.type", type),
      ("message.body", body), ("message.timestamp", ← message.get "timestamp"),
      ("message.id", ← message.get "id")]
  let name : Entries Value := if contactName.truthy then [("user.name", contactName)] else []
  return Entries.merge (common ++ name) (← typeVariables message type)

/-- The value of a delivery, which holds its messages. -/
def deliveryValue? (payload : Value) : Option Value := do
  let entry ← payload.field? "entry"
  let changes ← (← entry.first.toOption).field? "changes"
  (← changes.first.toOption).field? "value"

/-- The name that the sender of a delivery goes by. -/
def senderName (delivery : Value) : Except Failure Value := do
  let contacts ← delivery.get "contacts"
  if !contacts.truthy then return .null
  match ← contacts.first with
  | .object fs => do (← Value.get (.object fs) "profile").orObject.get "name"
  | _ => return .null

/-- The names of the fields whose value is neither a text nor, where `nullable`, null. -/
def notTexts (fields : List (String × Bool × Value)) : List String :=
  (fields.filter fun f =>
    match f.2.2 with
    | .str _ => false
    | .null => !f.2.1
    | _ => true).map (·.1)

/-- The message that an object with a sender is. -/
def ofObject (message contactName : Value) : Except Failure Message := do
  let vars ← startVariables message contactName
  let type := (message.field? "type").getD (.str "")
  let body := Value.ofOption (vars.find? "message.body")
  let id ← message.get "id"
  let timestamp ← message.get "timestamp"
  let wrong := notTexts [("body", false, body), ("contact_name", true, contactName),
    ("id", true, id), ("timestamp", true, timestamp), ("type", false, type)]
  if !wrong.isEmpty then .error (.fields wrong)
  return {
    phone := (← message.get "from").display
    type := type.text?.getD ""
    body := body.text?.getD ""
    id := id.text?
    timestamp := timestamp.text?
    contactName := contactName.text?
    raw := message.fields
    vars := vars }

/-- The first message of a delivery, if there is one that says who sent it. -/
def ofPayload (payload : Value) : Except Failure (Option Message) := do
  match deliveryValue? payload with
  | some (.object delivery) =>
    let messages ← Value.get (.object delivery) "messages"
    if !messages.truthy then return none
    match ← messages.first with
    | .object message =>
      let sender ← Value.get (.object message) "from"
      if !sender.truthy then return none
      let name ← senderName (.object delivery)
      return some (← ofObject (Value.object message) name)
    | _ => return none
  | _ => return none

end Message

end ChatFlow
