import ChatFlow.Form
import ChatFlow.Failure
import ChatFlow.Document.Basic
import ChatFlow.Json.Reader
import ChatFlow.Node.Kind

/-!
# The settings of nodes

For each kind of node the form of its settings, with all the spellings that
editions of the editor have used, and a structure with the settings once they
are read.  `Node.settings` reads the settings of a node or fails with the names
of the fields that are wrong.
-/

namespace ChatFlow

namespace Forms

/-- A text field that is empty when left out. -/
def text (name : String) (spellings : List String) : String × List String × FieldKind × Value :=
  (name, spellings, .text, .str "")

/-- A text field with a default. -/
def textOr (name : String) (spellings : List String) (default_ : String) :
    String × List String × FieldKind × Value :=
  (name, spellings, .text, .str default_)

/-- Header and footer of an interactive message. -/
def interactive : Form :=
  [text "header_type" ["headerType", "header_type"],
   text "header_text" ["headerText", "header_text"],
   text "footer_text" ["footerText", "footer_text"]]

def trigger : Form := [("keywords", ["keywords", "triggerKeywords"], .keywords, .list [])]

def message : Form := [text "text" ["answer_text", "answerText", "text", "message", "content"]]

def media : Form :=
  [text "media_url" ["mediaUrl", "media_url", "url"],
   textOr "media_type" ["mediaType", "media_type", "answer_type"] "Image",
   text "caption" ["caption"], text "filename" ["filename"]]

def button : Form :=
  [text "id" ["id"], text "title" ["text", "title", "label"],
   text "next_node_id" ["nextNodeId", "next_node_id", "next"]]

def buttons : Form :=
  interactive ++
  [text "body_text" ["bodyText", "body_text", "text", "content"],
   ("buttons", ["buttons"], .nested button, .list [])]

def row : Form :=
  [text "id" ["id"], text "title" ["title", "text"], text "description" ["description"]]

def listSection : Form :=
  [textOr "title" ["title"] "Options", ("rows", ["rows", "items"], .nested row, .list [])]

def list : Form :=
  interactive ++
  [text "body_text" ["bodyText", "body_text", "text", "content"],
   textOr "button_text" ["buttonText", "button_text"] "View Options",
   ("sections", ["sections"], .nested listSection, .list [])]

def callToAction : Form :=
  interactive ++
  [text "body_text" ["body", "body_text", "text", "bodyText"],
   textOr "display_text" ["displayText", "display_text", "button_text"] "Visit",
   text "url" ["url"]]

def template : Form :=
  [text "template_name" ["templateName", "template_name"],
   textOr "language_code" ["languageCode", "language_code"] "en_US",
   ("components", ["components"], .objects, .list [])]

def location : Form :=
  [("latitude", ["latitude"], .textOrNumber, .str ""),
   ("longitude", ["longitude"], .textOrNumber, .str ""),
   text "name" ["name", "locationName"], text "address" ["address"]]

def requestLocation : Form :=
  [textOr "body_text" ["bodyText", "body_text", "text"] "Please share your location"]

def form : Form :=
  [textOr "header" ["header"] "Flow Header", textOr "body" ["body"] "Flow Body",
   text "footer" ["footer"], text "flow_id" ["flow_id", "flowId"],
   text "flow_token" ["flow_token", "flowToken"],
   textOr "flow_cta" ["flow_cta", "flowCta"] "Submit", text "screen" ["screen"],
   ("flow_data", ["flow_data", "flowData"], .objectOrText, .object [])]

def waitForReply : Form :=
  [text "text" ["text", "prompt", "message"], text "save_as" ["saveAs", "save_as", "variable"]]

def delay : Form :=
  [("amount", ["delay", "duration", "time", "amount"], .amount, .int 5),
   textOr "unit" ["unit", "timeUnit", "time_unit"] "seconds"]

def header : Form := [text "key" ["key"], ("value", ["value"], .anything, .str "")]

def http : Form :=
  [textOr "method" ["method"] "GET", text "url" ["url"],
   ("headers", ["headers"], .objectOrNested header, .list []),
   ("body", ["body"], .body, .null),
   textOr "auth_type" ["auth_type", "authType"] "none",
   text "bearer_token" ["bearer_token", "bearerToken"],
   text "basic_username" ["basic_username", "basicUsername"],
   text "basic_password" ["basic_password", "basicPassword"],
   text "api_key_header" ["api_key_header", "apiKeyHeader"],
   text "api_key_value" ["api_key_value", "apiKeyValue"],
   textOr "response_variable" ["response_variable", "responseVariable", "save_as"] "http.response",
   ("timeout_seconds", ["timeout", "timeout_seconds"], .number, .null)]

def webhook : Form :=
  [text "webhook_url" ["webhook_url", "webhookUrl", "url"], textOr "method" ["method"] "POST",
   ("headers", ["headers"], .objectOrNested header, .list []),
   ("body", ["body"], .objectOrText, .null)]

def condition : Form :=
  [text "variable" ["variable"], textOr "operator" ["operator"] "==",
   ("value", ["value"], .anything, .null), text "next" ["next"]]

def branch : Form :=
  [("conditions", ["conditions"], .nested condition, .list []),
   text "default_next" ["default_next", "defaultNext"]]

def sheet : Form :=
  [text "spreadsheet_id" ["spreadsheet_id", "spreadsheetId"],
   textOr "sheet_name" ["sheet_name", "sheetName"] "Sheet1",
   textOr "operation" ["operation"] "append", text "range" ["range"],
   ("values", ["values"], .rows, .list [])]

def completion : Form :=
  [textOr "provider" ["provider"] "openai", text "model" ["model"],
   text "system_prompt" ["system_prompt", "systemPrompt"], text "prompt" ["prompt"],
   ("temperature", ["temperature"], .number, .float 0.7),
   ("max_tokens", ["max_tokens", "maxTokens"], .whole, .int 1000),
   textOr "save_as" ["save_as", "saveAs"] "ai_response"]

def email : Form :=
  [text "to" ["to"], text "from_name" ["from_name", "fromName"], text "subject" ["subject"],
   text "body" ["body"], ("html", ["html"], .flag, .bool true)]

def database : Form :=
  [textOr "operation" ["operation"] "select", text "table" ["table"], text "query" ["query"],
   ("filters", ["filters"], .object, .object []),
   textOr "save_as" ["save_as", "saveAs"] "query_result"]

def transform : Form :=
  [text "expression" ["expression", "transform_code", "transformCode", "code"],
   ("input_variables", ["input_variables", "inputVariables"], .texts, .list []),
   textOr "save_as" ["save_as", "saveAs"] "transformed_data"]

def stop : Form := [text "text" ["text", "message", "content"]]

end Forms

/-- The form of the settings of a kind of node. -/
def NodeKind.fields : NodeKind → Form
  | trigger => Forms.trigger
  | message => Forms.message
  | media => Forms.media
  | callToAction => Forms.callToAction
  | template => Forms.template
  | location => Forms.location
  | requestLocation => Forms.requestLocation
  | buttons => Forms.buttons
  | list => Forms.list
  | form => Forms.form
  | waitForReply => Forms.waitForReply
  | delay => Forms.delay
  | http => Forms.http
  | webhook => Forms.webhook
  | branch => Forms.branch
  | sheet => Forms.sheet
  | completion => Forms.completion
  | email => Forms.email
  | database => Forms.database
  | transform => Forms.transform
  | stop => Forms.stop

/-- The form of the settings of nodes of a type; a type that nobody knows has no fields. -/
def formOfType (type : String) : Form :=
  match NodeKind.ofType? type with
  | some kind => kind.fields
  | none => []

/-- The settings of a node once they are read; in which spellings they were given is forgotten. -/
def Node.filled (n : Node) : Except Failure Filled :=
  match (formOfType n.type).fill n.config with
  | .ok f => .ok f
  | .error names => .error (.settings n.id n.type names)

/-- The buttons of a node, each read by itself; in the settings as a whole an entry that has the name
of a field may stand in its place. -/
def Node.buttons (n : Node) : List Filled :=
  match n.config.find? "buttons" with
  | some (.list items) => items.filterMap fun v => (Forms.button.fill v.fields).toOption
  | _ => []

/-! ### Settings that are computed from fields -/

namespace Filled

/-- The header of an interactive message when it is a plain text. -/
def textHeader (f : Filled) : String :=
  if ["", "none", "text"].contains (f.text "header_type") then f.text "header_text" else ""

/-- The data of a form: a text that is JSON stands for what it says. -/
def formData (f : Filled) : Value :=
  match f.get "flow_data" with
  | .str s => (Json.parse? s).getD (.str s)
  | v => v

/-- The headers of a request, every value as text; an entry of a list without a key is none, and of
two with one key the later value stands at the earlier place. -/
def headers (f : Filled) : Entries String :=
  match f.get "headers" with
  | .object fs => fs.map fun e => (e.1, e.2.display)
  | .list items => Entries.ofPairs (items.filterMap fun item =>
      let key := ((item.field? "key").bind Value.text?).getD ""
      if key = "" then none else some (key, ((item.field? "value").getD (.str "")).display))
  | _ => []

/-- The objects of a list of objects. -/
def objects (f : Filled) (name : String) : List (Entries Value) :=
  match f.get name with
  | .list items => items.map Value.fields
  | _ => []

/-- The double of a field, if it is one. -/
def float? (f : Filled) (name : String) : Option Float :=
  match f.get name with
  | .float x => some x
  | _ => none

/-- The whole number of a field. -/
def int (f : Filled) (name : String) : Int :=
  match f.get name with
  | .int n => n
  | _ => 0

/-- The truth value of a field. -/
def bool (f : Filled) (name : String) : Bool :=
  match f.get name with
  | .bool b => b
  | _ => false

end Filled

end ChatFlow
