import ChatFlow.Node.Result
import ChatFlow.Outside.WhatsApp.Payload

/-!
# Nodes that send a message

The plain ones send and go on, whether that works or not.  The interactive ones
wait for a reply once the message is accepted, and end the run if it is not.
Nothing is sent to a user whose phone number is not known.
-/

namespace ChatFlow.Send

/-- The finding of a plain message. -/
def plain (output : Entries Value) (d : WhatsApp.Delivery) : Finding where
  success := d.success
  output := Entries.put output "sent" (.bool d.success)
  error := Value.ofText? d.error

/-- The finding of an interactive message. -/
def interactive (awaited : Awaited) (output : Entries Value) (d : WhatsApp.Delivery) : Finding :=
  let output := Entries.put output "sent" (.bool d.success)
  if d.success then { output := output, awaited := some awaited }
  else
    { success := false, output := Entries.put output "error" (Value.ofText? d.error),
      error := Value.ofText? d.error, stop := true }

/-- Sends a message from the account of the service. -/
def send (c : NodeContext) (payload : Value) : Work WhatsApp.Delivery :=
  WhatsApp.send c.accounts.whatsapp payload

/-! ### Plain messages -/

/-- Sends a text. -/
def text : Handler := fun c _ f => do
  let text ← c.fill (f.text "text")
  let output : Entries Value := [("message", .str text)]
  match c.phone? with
  | some phone =>
    if text = "" then return .missing output "Missing phone or message text" false
    return plain output (← send c (WhatsApp.textPayload phone text))
  | none => return .missing output "Missing phone or message text" false

/-- Sends a file. -/
def media : Handler := fun c _ f => do
  let url ← c.fill (f.text "media_url")
  let caption ← c.fill (f.text "caption")
  let kind := f.text "media_type"
  let output : Entries Value :=
    [("mediaUrl", .str url), ("mediaType", .str kind), ("caption", .str caption)]
  match c.phone? with
  | some phone =>
    if url = "" then return .missing output "Missing phone or media URL" false
    let filename ← c.fill (f.text "filename")
    let payload ← Task.attempt (WhatsApp.mediaPayload phone kind url caption filename)
    return plain output (← send c payload)
  | none => return .missing output "Missing phone or media URL" false

/-- Sends a link. -/
def callToAction : Handler := fun c _ f => do
  let body ← c.fill (f.text "body_text")
  let label ← c.fill (f.text "display_text")
  let url ← c.fill (f.text "url")
  let output : Entries Value :=
    [("bodyText", .str body), ("displayText", .str label), ("url", .str url)]
  match c.phone? with
  | some phone =>
    if body = "" || url = "" then return .missing output "Missing phone, body text or URL" false
    let header ← c.fill f.textHeader
    let footer ← c.fill (f.text "footer_text")
    return plain output (← send c (WhatsApp.linkPayload phone body label url header footer))
  | none => return .missing output "Missing phone, body text or URL" false

/-- Sends a message from a template. -/
def template : Handler := fun c _ f => do
  let name ← c.fill (f.text "template_name")
  let language := f.text "language_code"
  let output : Entries Value := [("templateName", .str name), ("languageCode", .str language)]
  match c.phone? with
  | some phone =>
    if name = "" then return .missing output "Missing phone or template name" false
    let components ← c.fillAll (f.get "components")
    return plain output (← send c (WhatsApp.templatePayload phone name language components))
  | none => return .missing output "Missing phone or template name" false

/-- A coordinate: a number, or the text of one. -/
def coordinate (c : NodeContext) (v : Value) : Work (Option Float) := do
  let v ← Task.attempt (c.scope.fillText v)
  return Decimal.readFloat? v.display

/-- Sends a place on the map. -/
def location : Handler := fun c _ f => do
  let latitude? ← coordinate c (f.get "latitude")
  let longitude? ← coordinate c (f.get "longitude")
  let name ← c.fill (f.text "name")
  let address ← c.fill (f.text "address")
  let output : Entries Value :=
    [("latitude", Value.ofOption (latitude?.map .float)),
      ("longitude", Value.ofOption (longitude?.map .float)), ("name", .str name),
      ("address", .str address)]
  match latitude?, longitude? with
  | some latitude, some longitude =>
    match c.phone? with
    | some phone =>
      return plain output (← send c
        (WhatsApp.locationPayload phone (.float latitude) (.float longitude) name address))
    | none => return .missing output "Missing phone" false
  | _, _ => return .missing output "Invalid latitude or longitude" false

/-- Asks for the place where the user is. -/
def requestLocation : Handler := fun c _ f => do
  let body ← c.fill (f.text "body_text")
  let output : Entries Value := [("bodyText", .str body)]
  match c.phone? with
  | some phone => return plain output (← send c (WhatsApp.locationRequestPayload phone body))
  | none => return .missing output "Missing phone" false

/-! ### Interactive messages -/

/-- The buttons of a node as they are sent: one without an id or a title gets its place. -/
def buttonItems (scope : Scope) : Nat → List Filled → Except Failure (List Value)
  | _, [] => .ok []
  | place, b :: rest => do
    let id := (Value.str (b.text "id")).orElse (WhatsApp.numbered "btn_" place)
    let title := (Value.str (← scope.fill (b.text "title"))).orElse
      (WhatsApp.numbered "Button " (place + 1))
    return .object [("id", id), ("title", title)] :: (← buttonItems scope (place + 1) rest)

/-- Sends a text with buttons. -/
def buttons : Handler := fun c n f => do
  let body ← c.fill (f.text "body_text")
  let items ← Task.attempt (buttonItems c.scope 0 n.buttons)
  let output : Entries Value := [("bodyText", .str body), ("buttons", .list items)]
  match c.phone? with
  | some phone =>
    if body = "" || items.isEmpty then return .missing output "Missing required fields" true
    let header ← c.fill f.textHeader
    let footer ← c.fill (f.text "footer_text")
    let payload ← Task.attempt (WhatsApp.buttonPayload phone body (.list items) header footer)
    return interactive .button output (← send c payload)
  | none => return .missing output "Missing required fields" true

/-- Sends a list to choose from. -/
def list : Handler := fun c _ f => do
  let body ← c.fill (f.text "body_text")
  let sections ← c.fillAll (f.get "sections")
  let output : Entries Value := [("bodyText", .str body), ("sections", sections)]
  match c.phone? with
  | some phone =>
    if body = "" || !sections.truthy then return .missing output "Missing required fields" true
    let label ← c.fill (f.text "button_text")
    let header ← c.fill f.textHeader
    let footer ← c.fill (f.text "footer_text")
    let payload ← Task.attempt (WhatsApp.listPayload phone body label sections header footer)
    return interactive .list output (← send c payload)
  | none => return .missing output "Missing required fields" true

/-- Sends a form to fill in. -/
def form : Handler := fun c _ f => do
  let formId ← c.fill (f.text "flow_id")
  let header ← c.fill (f.text "header")
  let body ← c.fill (f.text "body")
  let output : Entries Value :=
    [("flowId", .str formId), ("header", .str header), ("body", .str body)]
  match c.phone? with
  | some phone =>
    if formId = "" then return .missing output "Missing phone or flow ID" true
    let footer ← c.fill (f.text "footer")
    let token ← c.fill (f.text "flow_token")
    let label ← c.fill (f.text "flow_cta")
    let screen ← c.fill (f.text "screen")
    let data ← c.fillAll f.formData
    return interactive .form output (← send c (WhatsApp.formPayload phone
      { header := header, body := body, footer := footer, formId := formId, token := token,
        label := label, screen := screen, data := data }))
  | none => return .missing output "Missing phone or flow ID" true

/-- Waits for a reply, after a question if there is one. -/
def waitForReply : Handler := fun c _ f => do
  let saveAs := f.text "save_as"
  let output : Entries Value :=
    [("waiting", .bool true), ("saveAs", if saveAs = "" then .null else .str saveAs)]
  let prompt ← c.fill (f.text "text")
  if prompt = "" then return { output := output, awaited := some .message }
  match c.phone? with
  | some phone =>
    return interactive .message output (← send c (WhatsApp.textPayload phone prompt))
  | none => return .missing output "Missing phone" true

end ChatFlow.Send
