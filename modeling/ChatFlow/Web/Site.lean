import ChatFlow.Engine.Calls
import ChatFlow.Web.Query
import ChatFlow.Web.Webhook

/-!
# The service on the web

`Site.answer` answers one request.  Deliveries of the messaging service and
calls of webhooks are answered at once; what they start goes on in the
background, and its failures concern nobody.
-/

namespace ChatFlow.Web

/-- A request to the service. -/
structure Request where
  method : String
  path : String
  query : String
  headers : Entries String
  body : String

/-- The body of an answer. -/
inductive Body where
  | json (v : Value)
  | text (s : String)

/-- An answer of the service, and what is left to do in the background. -/
structure Reply where
  status : Nat
  body : Body
  background : Option (EngineCall Unit) := none

/-- The service on the web.  Before it has started it has no engine. -/
structure Site where
  loaded : Settings.Loaded
  engine : Option Service

/-- An answer that all is well. -/
def okay (v : Value) : Reply := { status := 200, body := .json v }

/-- An answer that something is wrong. -/
def refused (status : Nat) (reason : String) : Reply :=
  { status := status, body := .json (.object [("detail", .str reason)]) }

/-- The acknowledgement of a delivery. -/
def acknowledged : Reply := okay (.object [("success", .bool true)])

/-! ### The messaging service -/

/-- Answers the question whether this is the service that messages are to be delivered to. -/
def verify (settings : Settings) (query : Entries String) : Reply :=
  let given (name : String) : String := (query.find? name).getD ""
  let token := given "hub.verify_token"
  if given "hub.mode" = "subscribe" && token ≠ "" then
    if token = settings.text "WHATSAPP_VERIFY_TOKEN" then
      { status := 200, body := .text (given "hub.challenge") }
    else refused 403 "Invalid verify token"
  else refused 400 "Missing verification parameters"

/-- Does something with the engine, which has to have started. -/
def Site.withEngine (site : Site) (f : Service → EngineCall Reply) : EngineCall Reply :=
  match site.engine with
  | some service => f service
  | none => throw (.noField "State" "engine")

/-- Takes a delivery; the engine is needed only if a message is in it. -/
def Site.deliver (site : Site) (body : String) : EngineCall Reply := do
  match Json.parseBytes? body with
  | none => return acknowledged
  | some payload =>
    match ← Task.attempt (Message.ofPayload payload) with
    | none => return acknowledged
    | some m => site.withEngine fun service =>
      return { acknowledged with background := some (discard (Engine.receive service m)) }

/-! ### Webhooks -/

/-- The body of a request as a value: JSON if it is JSON, else a text; no body is an empty object. -/
def bodyValue (body : String) : Value :=
  if body = "" then .object [] else (Json.parseBytes? body).getD (.str body)

/-- The texts of a collection as an object. -/
def textsObject (texts : Entries String) : Value := .object (texts.map fun e => (e.1, .str e.2))

/-- The headers of a request under their names in lower case; of two with one name the first counts. -/
def headerEntries (headers : Entries String) : Entries String :=
  (headers.map fun e => (headerText (Text.lower e.1), headerText e.2)).foldl
    (fun seen e => if seen.has e.1 then seen else seen ++ [e]) ([] : Entries String)

/-- Makes up an id for a run. -/
def newRunId : EngineCall String := do
  let made := (← Engine.state).runs.made + 1
  Engine.change fun s => { s with runs := { s.runs with made := made } }
  return Runs.madeId made

/-- Starts a flow at a node for another service. -/
def webhook (service : Service) (name node : String) (r : Request) : EngineCall Reply := do
  match (← Engine.state).flows.named name with
  | none => return refused 404 "Flow not found"
  | some flow =>
    let body := bodyValue r.body
    let query := textsObject (queryEntries r.query)
    let vars := webhookVariables service.now r.method body query
      (textsObject (headerEntries r.headers))
    let run ← newRunId
    let conversation := (phoneOf body query).getD ("webhook:" ++ run)
    let answer : Value := .object
      [("success", .bool true), ("message", .str "Webhook received"), ("flowId", .str flow.id),
        ("nodeId", .str node), ("executionId", .str run),
        ("data", .object [("method", .str r.method), ("body", Json.finite body), ("query", query)])]
    let start := Engine.run service flow.id conversation vars (some node) (some run)
    return { status := 200, body := .json answer, background := some (discard start) }

/-! ### Looking in -/

/-- A pause as it is shown to others: without its variables. -/
def pauseView (p : Pause) : Value :=
  .object [("flowId", .str p.flow), ("currentNodeId", .str p.node),
    ("conversationId", .str p.conversation), ("waitingFor", .str p.awaited.word),
    ("executionId", Value.ofText? p.run), ("pausedAt", .float p.since),
    ("variableCount", .int p.vars.length)]

/-- A flow as it is shown to others. -/
def flowView (r : FlowRecord) : Value :=
  .object [("id", .str r.id), ("name", .str r.name), ("status", .str r.status.word),
    ("triggerKeywords", .list (r.triggerKeywords.map .str))]

/-- Shows all pauses. -/
def showPauses : EngineCall Reply := do
  return okay (.list ((← Engine.state).pauses.list.map pauseView))

/-- Shows the record of a run. -/
def showRun (id : String) : EngineCall Reply := do
  match (← Engine.state).runs.find? id with
  | some record => return okay record.dump
  | none => return refused 404 ("Execution " ++ id ++ " not found")

/-- Shows all flows. -/
def showFlows : EngineCall Reply := do
  return okay (.list ((← Engine.state).flows.map fun e => flowView e.2))

/-- Says whether the service is ready to work. -/
def readiness (engine : Option Service) : EngineCall Reply := do
  match engine with
  | none => return refused 503 "Engine not initialized"
  | some _ =>
    return okay (.object [("status", .str "ready"),
      ("pausedExecutions", .int (← Engine.state).pauses.length), ("runningTasks", .int 0)])

/-! ### Addresses -/

/-- What a request is for. -/
inductive Route where
  | verification
  | delivery
  | webhook (flow node : String)
  | pauses
  | run (id : String)
  | flows
  | health
  | readiness
  | settings
  /-- The address exists, but not for this method. -/
  | wrongMethod
  | nowhere

/-- The methods by which webhooks are called. -/
def webhookMethods : List String := ["GET", "POST", "PUT", "PATCH", "DELETE"]

/-- A route for one method only. -/
def only (method : String) (route : Route) (given : String) : Route :=
  if given = method then route else .wrongMethod

/-- What a request is for, by its method and its path. -/
def Route.of (method path : String) : Route :=
  match Text.splitAt '/' path with
  | ["", "api", "whatsapp-webhook"] =>
    if method = "GET" then .verification else only "POST" .delivery method
  | ["", "api", "custom-webhook", flow, node] =>
    if flow = "" || node = "" then .nowhere
    else if webhookMethods.contains method then .webhook flow node else .wrongMethod
  | ["", "api", "paused-executions"] => only "GET" .pauses method
  | ["", "api", "executions", id] => if id = "" then .nowhere else only "GET" (.run id) method
  | ["", "api", "flows"] => only "GET" .flows method
  | ["", "healthz"] => only "GET" .health method
  | ["", "readyz"] => only "GET" .readiness method
  | ["", "config"] => only "GET" .settings method
  | _ => .nowhere

/-- Answers a request. -/
def Site.answer (site : Site) (r : Request) : EngineCall Reply :=
  match Route.of r.method r.path with
  | .verification => return verify site.loaded.settings (queryEntries r.query)
  | .delivery => site.deliver r.body
  | .webhook flow node => site.withEngine fun service => webhook service flow node r
  | .pauses => site.withEngine fun _ => showPauses
  | .run id => site.withEngine fun _ => showRun id
  | .flows => site.withEngine fun _ => showFlows
  | .health => return okay (.object [("status", .str "ok")])
  | .readiness => readiness site.engine
  | .settings => return okay (Settings.publicView site.loaded)
  | .wrongMethod => return refused 405 "Method Not Allowed"
  | .nowhere => return refused 404 "Not Found"

/-- Answers a request and then does what is left to do in the background. -/
def Site.serve (site : Site) (r : Request) : EngineCall Reply := do
  let reply ← site.answer r
  match reply.background with
  | some task => ExceptT.lift (discard task.run)
  | none => pure ()
  return reply

end ChatFlow.Web
