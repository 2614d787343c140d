import ChatFlow.Decimal.Layout
import ChatFlow.Text.Letter
import ChatFlow.Value.Fields

/-!
# Messages as they are sent

The object that the messaging service takes for each kind of message.  What it
is made of is sent as it is given.  A header or a footer that is not present is
left out.  At most three buttons and at most ten rows of each section are sent;
buttons, rows and titles that are left out get a number by their place.
-/

namespace ChatFlow.WhatsApp

/-- The most buttons that a message may have. -/
def maxButtons : Nat := 3

/-- The most rows that a section of a list may have. -/
def maxRows : Nat := 10

/-- A word with a number after it. -/
def numbered (word : String) (n : Nat) : Value :=
  .str (word ++ String.ofList (Decimal.natChars n))

/-- The fields that every message to a single user has. -/
def addressed (recipient : Value) (kind : String) : Entries Value :=
  [("messaging_product", .str "whatsapp"), ("recipient_type", .str "individual"),
    ("to", recipient), ("type", .str kind)]

/-- An interactive message. -/
def interactive (recipient : Value) (content : Entries Value) : Value :=
  .object (addressed recipient "interactive" ++ [("interactive", .object content)])

/-- An object with the one field `text`. -/
def textOnly (text : Value) : Value := .object [("text", text)]

/-- A header that is a text. -/
def headerOf (text : Value) : Value := .object [("type", .str "text"), ("text", text)]

/-- The header and the footer, each if it has a text. -/
def headerFooter (header footer : Value) : Entries Value :=
  (if header.truthy then [("header", headerOf header)] else []) ++
  (if footer.truthy then [("footer", textOnly footer)] else [])

/-- A text. -/
def textPayload (recipient text : Value) : Value :=
  .object [("messaging_product", .str "whatsapp"), ("to", recipient), ("type", .str "text"),
    ("text", .object [("body", text)])]

/-- The kind of file that a word stands for; any other word stands for an image. -/
def mediaKind (word : Value) : Except Failure String :=
  match word.orEmpty with
  | .str s =>
    let w := Text.lower s
    .ok (if ["image", "video", "audio", "document"].contains w then w else "image")
  | v => .error (.noField v.kindName "lower")

/-- A file.  A sound has no caption, and only a document has a name. -/
def mediaPayload (recipient kind url caption filename : Value) : Except Failure Value := do
  let kind ← mediaKind kind
  let caption : Entries Value :=
    if caption.truthy && kind ≠ "audio" then [("caption", caption)] else []
  let filename : Entries Value :=
    if filename.truthy && kind = "document" then [("filename", filename)] else []
  return .object [("messaging_product", .str "whatsapp"), ("to", recipient), ("type", .str kind),
    (kind, .object ([("link", url)] ++ caption ++ filename))]

/-- The title of a button or a row: its title, else its text, else its number. -/
def titleOf (v : Value) (word : String) (place : Nat) : Except Failure Value := do
  let title ← v.get "title"
  let text ← v.get "text"
  return title.orElse (text.orElse (numbered word (place + 1)))

/-- A button at a place among the buttons. -/
def buttonPart (place : Nat) (button : Value) : Except Failure Value := do
  let id ← button.get "id"
  let title ← titleOf button "Button " place
  return .object [("type", .str "reply"),
    ("reply", .object [("id", id.orElse (numbered "btn_" place)), ("title", title)])]

/-- The parts that a function makes of items by their places. -/
def partsFrom (f : Nat → Value → Except Failure Value) : Nat → List Value → Except Failure (List Value)
  | _, [] => .ok []
  | place, v :: rest => do
    let part ← f place v
    return part :: (← partsFrom f (place + 1) rest)

/-- A text with buttons. -/
def buttonPayload (recipient body buttons header footer : Value) : Except Failure Value := do
  let parts ← partsFrom buttonPart 0 (← buttons.firstItems maxButtons)
  return interactive recipient
    ([("type", .str "button"), ("body", textOnly body),
      ("action", .object [("buttons", .list parts)])] ++ headerFooter header footer)

/-- A row at a place in its section. -/
def rowPart (place : Nat) (row : Value) : Except Failure Value := do
  let id ← row.get "id"
  let title ← titleOf row "Option " place
  let description ← row.get "description"
  return .object [("id", id.orElse (numbered "row_" place)), ("title", title),
    ("description", description.orEmpty)]

/-- A section of a list. -/
def sectionPart (given : Value) : Except Failure Value := do
  let title ← given.get "title"
  let rows := (← given.get "rows").orElse ((← given.get "items").orElse (.list []))
  let parts ← partsFrom rowPart 0 (← rows.firstItems maxRows)
  return .object [("title", title.orElse (.str "Options")), ("rows", .list parts)]

/-- A text with a list to choose from. -/
def listPayload (recipient body button sections header footer : Value) : Except Failure Value := do
  let parts ← partsFrom (fun _ => sectionPart) 0 (← sections.elements)
  return interactive recipient
    ([("type", .str "list"), ("body", textOnly body),
      ("action", .object [("button", button.orElse (.str "View Options")), ("sections", .list parts)])]
      ++ headerFooter header footer)

/-- A text with a link. -/
def linkPayload (recipient body label url header footer : Value) : Value :=
  interactive recipient
    ([("type", .str "cta_url"), ("body", textOnly body),
      ("action", .object [("name", .str "cta_url"),
        ("parameters", .object [("display_text", label), ("url", url)])])]
      ++ headerFooter header footer)

/-- A message from a template. -/
def templatePayload (recipient name language components : Value) : Value :=
  let components : Entries Value :=
    if components.truthy then [("components", components)] else []
  .object (addressed recipient "template" ++
    [("template", .object ([("name", name), ("language", .object [("code", language)])]
      ++ components))])

/-- A place on the map. -/
def locationPayload (recipient latitude longitude name address : Value) : Value :=
  .object (addressed recipient "location" ++
    [("location", .object [("latitude", latitude), ("longitude", longitude), ("name", name),
      ("address", address)])])

/-- A request for the place where the user is. -/
def locationRequestPayload (recipient body : Value) : Value :=
  interactive recipient
    [("type", .str "location_request_message"), ("body", textOnly body),
      ("action", .object [("name", .str "send_location")])]

/-- What a form to fill in consists of. -/
structure FormContent where
  header : Value
  body : Value
  footer : Value
  formId : Value
  token : Value
  label : Value
  screen : Value
  data : Value

/-- A form to fill in. -/
def formPayload (recipient : Value) (c : FormContent) : Value :=
  let parameters : Entries Value :=
    [("flow_message_version", .str "3"), ("flow_token", c.token), ("flow_id", c.formId),
      ("flow_cta", c.label), ("flow_action", .str "navigate"),
      ("flow_action_payload", .object [("screen", c.screen), ("data", c.data.orObject)])]
  interactive recipient
    ([("type", .str "flow"), ("header", headerOf c.header), ("body", textOnly c.body),
      ("action", .object [("name", .str "flow"), ("parameters", .object parameters)])]
      ++ (if c.footer.truthy then [("footer", textOnly c.footer)] else []))

end ChatFlow.WhatsApp
