import ChatFlow.Expression.Transform
import ChatFlow.Json.Writer
import ChatFlow.Node.Result

/-!
# Nodes that use a service

Requests over HTTP, spreadsheets, language models, mail and the database, and
transforms, which compute a value without asking anyone.  Where such a node
keeps what it got in variables, it does so only if it succeeds.
-/

namespace ChatFlow.Services

/-- The headers of a request with all templates filled. -/
def filledHeaders (scope : Scope) (f : Filled) : Except Failure (Entries Value) := do
  let pairs ← f.headers.mapM fun e => return (← scope.fill e.1, Value.str (← scope.fill e.2))
  return Entries.ofPairs pairs

/-- The proof of who is asking, as the settings of a node give it. -/
def credentials (scope : Scope) (f : Filled) : Except Failure Http.Credentials := do
  let bearerToken ← scope.fill (f.text "bearer_token")
  let username ← scope.fill (f.text "basic_username")
  let password ← scope.fill (f.text "basic_password")
  let keyHeader ← scope.fill (f.text "api_key_header")
  let keyValue ← scope.fill (f.text "api_key_value")
  return { type := f.text "auth_type", bearerToken := bearerToken, username := username,
           password := password, keyHeader := keyHeader, keyValue := keyValue }

/-- The body of a request: a structure as JSON text, and a text as it is. -/
def bodyText (scope : Scope) (body : Value) : Except Failure (Option String) :=
  match body with
  | .object _ | .list _ => return some (Json.text Json.spaced (← scope.fillAll body))
  | .str s => if s = "" then return none else return some (← scope.fill s)
  | _ => return none

/-- The variables that a reply becomes: all of it, its status, and each of its fields. -/
def replyVariables (base : String) (status : Nat) (reason : String) (data : Value) : Entries Value :=
  [(base, data), (base ++ ".status", .int status), (base ++ ".statusText", .str reason)]
    ++ data.fields.map fun e => (base ++ "." ++ e.1, e.2)

/-- Sends a request and keeps the reply. -/
def http : Handler := fun c _ f => do
  let method := f.text "method"
  let method := Text.upper (← c.fill (if method = "" then "GET" else method))
  let url ← c.fill (f.text "url")
  let headers ← Task.attempt (filledHeaders c.scope f)
  let headers ← Task.attempt (Http.authorize headers (← Task.attempt (credentials c.scope f)))
  let body ← Task.attempt (bodyText c.scope (f.get "body"))
  let exchange ← Http.request c.accounts.httpTimeout method url headers (Value.ofText? body)
    (f.get "timeout_seconds")
  let output : Entries Value := [("method", .str method), ("url", .str url)]
  match exchange with
  | .failed error =>
    return { success := false, output := output, error := .str error,
             writes := [("http.error", .str error)] }
  | .answered status reason data _ =>
    let base := f.text "response_variable"
    let base := if base = "" then "http.response" else base
    return { output := output ++ [("status", .int status), ("statusText", .str reason),
               ("response", data)],
             writes := replyVariables base status reason data }

/-- Sends variables to another service: the body of the node, or all of them if it has none. -/
def webhook : Handler := fun c _ f => do
  let url ← c.fill (f.text "webhook_url")
  let method := f.text "method"
  let method := Text.upper (if method = "" then "POST" else method)
  let headers ← Task.attempt (filledHeaders c.scope f)
  let body ← Task.attempt (bodyText c.scope (f.get "body"))
  let body := body.getD (Json.text Json.spaced (.object c.scope.vars))
  let exchange ← Http.request c.accounts.httpTimeout method url headers body .null
  match exchange with
  | .failed error =>
    return { success := false,
             output := [("sent", .bool false), ("webhookUrl", .str url), ("status", .null),
               ("response", .null)],
             error := .str error }
  | .answered status _ data _ =>
    return { output := [("sent", .bool true), ("webhookUrl", .str url), ("status", .int status),
               ("response", data)] }

/-- A cell of a sheet as text. -/
def cellText (scope : Scope) (cell : Value) : Except Failure Value :=
  return .str (← scope.fill (if cell.isNull then "" else cell.display))

/-- A row of a sheet as texts. -/
def rowText (scope : Scope) : Value → Except Failure Value
  | .list cells => return .list (← cells.mapM (cellText scope))
  | v => return v

/-- The rows of a sheet as texts. -/
def rowTexts (scope : Scope) (f : Filled) : Except Failure (List Value) :=
  match f.get "values" with
  | .list rows => rows.mapM (rowText scope)
  | _ => return []

/-- Writes to a spreadsheet. -/
def sheet : Handler := fun c _ f => do
  let values ← Task.attempt (rowTexts c.scope f)
  let operation := f.text "operation"
  let spreadsheet ← c.fill (f.text "spreadsheet_id")
  let sheet ← c.fill (f.text "sheet_name")
  let range ← c.fill (f.text "range")
  let writing ← Sheet.write c.accounts.sheet
    { operation := operation, spreadsheet := spreadsheet, sheet := sheet, values := .list values,
      range := range }
  let output (skipped : Bool) : Entries Value :=
    [("operation", .str operation), ("rows", .int values.length), ("skipped", .bool skipped)]
  match writing with
  | .written _ => return { output := output false }
  | .skipped => return { output := output true }
  | .failed error => return { success := false, output := output false, error := .str error }

/-- Has a language model complete a prompt. -/
def completion : Handler := fun c _ f => do
  let provider := f.text "provider"
  let prompt ← c.fill (f.text "prompt")
  let instructions ← c.fill (f.text "system_prompt")
  let completed ← Completion.complete c.accounts.completion
    { provider := provider, text := prompt, model := f.text "model", instructions := instructions,
      temperature := f.get "temperature", maxTokens := f.get "max_tokens" }
  match completed with
  | .failed error =>
    return { success := false, output := [("provider", .str provider)], error := error }
  | .answered text tokens provider model =>
    return { output := [("provider", .str provider), ("model", model), ("response", text),
               ("tokens_used", tokens)],
             writes := [(f.text "save_as", text)] }

/-- Sends a mail. -/
def email : Handler := fun c _ f => do
  let recipient ← c.fill (f.text "to")
  let subject ← c.fill (f.text "subject")
  let body ← c.fill (f.text "body")
  let senderName ← c.fill (f.text "from_name")
  let posting ← Email.send c.accounts.email c.now
    { recipient := recipient, subject := subject, body := body, html := f.bool "html",
      senderName := senderName }
  let output (sent : Bool) (id : Value) (simulated : Bool) : Entries Value :=
    [("sent", .bool sent), ("to", .str recipient), ("messageId", id), ("simulated", .bool simulated)]
  match posting with
  | .sent id => return { output := output true id false }
  | .simulated id => return { output := output true (.str id) true }
  | .failed error =>
    return { success := false, output := output false .null false, error := error }

/-- Queries the database.  A query in words is taken as it is; of filters only the values are
filled. -/
def database : Handler := fun c _ f => do
  let operation := f.text "operation"
  let filters ← c.fillAll (f.get "filters")
  let answer ← ExceptT.mk (Database.run c.accounts.secrets operation (f.text "table") filters
    (f.text "query"))
  match answer with
  | .failed error =>
    return { success := false, output := [("operation", .str operation)], error := .str error }
  | .rows rows =>
    return { output := [("operation", .str operation), ("count", .int rows.length),
               ("rows", .list rows)],
             writes := [(f.text "save_as", .list rows)] }

/-- Computes a value from variables.  That it has none is a finding, anything else a failure. -/
def transform : Handler := fun c _ f => do
  let lookup (path : String) : Except Failure Value := return Value.ofOption (← c.scope.read path)
  let saveAs := f.text "save_as"
  match Expression.transform (f.text "expression") c.scope.vars (f.texts "input_variables")
    lookup with
  | .error (.transform fault) =>
    return { success := false, output := [], error := .str fault.message }
  | .error e => throw e
  | .ok v =>
    return { output := [("result", v), ("saveAs", .str saveAs)], writes := [(saveAs, v)] }

end ChatFlow.Services
