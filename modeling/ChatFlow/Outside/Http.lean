import ChatFlow.Json.Reader
import ChatFlow.Outside.MediaType
import ChatFlow.Outside.Phrase
import ChatFlow.Outside.Task
import ChatFlow.Text.Base64
import ChatFlow.Text.Letter
import ChatFlow.Value.Fields
import ChatFlow.Value.Render

/-!
# Requests to other services

`Http.request` sends one request.  A reply counts as a success whatever its
status, and what went wrong stands in the `Exchange`; only a reply whose bytes
cannot be read as text is a failure.
`Http.authorize` adds the header that proves who is asking.
-/

namespace ChatFlow.Http

/-- What came of a request. -/
inductive Exchange where
  /-- A reply, its body read as JSON if it is JSON. -/
  | answered (status : Nat) (reason : String) (data : Value) (headers : Entries String)
  | failed (error : String)

/-- All that an exchange says, as an object. -/
def Exchange.dump : Exchange → Value
  | answered status reason data headers =>
    .object [("success", .bool true), ("status", .int status), ("statusText", .str reason),
      ("data", data), ("headers", .object (headers.map fun e => (e.1, .str e.2))), ("error", .null),
      ("duration_ms", .int 0)]
  | failed error =>
    .object [("success", .bool false), ("error", .str error), ("duration_ms", .int 0)]

/-- How a request proves who is asking. -/
structure Credentials where
  type : Value
  bearerToken : Value
  username : Value
  password : Value
  keyHeader : Value
  keyValue : Value

/-- The headers with the proof added, if it is complete. -/
def authorize (headers : Entries Value) (c : Credentials) : Except Failure (Entries Value) :=
  match c.type.orElse "none" with
  | .str type =>
    match Text.lower type with
    | "bearer" =>
      if c.bearerToken.truthy then
        .ok (headers.put "Authorization" (.str ("Bearer " ++ c.bearerToken.display)))
      else .ok headers
    | "basic" =>
      if c.username.truthy && c.password.truthy then
        .ok (headers.put "Authorization" (.str ("Basic "
          ++ Text.base64 (c.username.display ++ ":" ++ c.password.display))))
      else .ok headers
    | "api_key" =>
      if c.keyHeader.truthy && c.keyValue.truthy then
        .ok (headers.put c.keyHeader.display c.keyValue)
      else .ok headers
    | _ => .ok headers
  | v => .error (.noField v.kindName "lower")

/-- Whether there is a header of this name in any case. -/
def hasHeader (headers : Entries Value) (name : String) : Bool :=
  headers.any fun e => Text.lower e.1 = Text.lower name

/-- The word that a method is sent as. -/
def methodWord (method : Value) : Except Failure String :=
  match method.orElse "GET" with
  | .str s => .ok (Text.upper s)
  | v => .error (.noField v.kindName "upper")

/-- The body that is sent: none with a method that has no body, and none that is empty. -/
def sentBody (method : String) (body : Value) : Option Value :=
  if body.truthy && !(["GET", "HEAD"].contains method) then some body else none

/-- The headers that are sent: a body whose kind is not named is JSON. -/
def sentHeaders (headers : Entries Value) (body : Option Value) : Entries Value :=
  if body.isSome && !hasHeader headers "Content-Type" then
    headers.put "Content-Type" "application/json"
  else headers

/-- What an HTTP exchange with this time limit comes to. -/
def Exchange.ofOutcome (timeout : Value) : HttpOutcome → Except Failure Exchange
  | .replied r => do
    let text ← r.text
    return .answered r.status (phraseOf r.status) ((Json.parse? text).getD (.str text)) r.headers
  | .timedOut _ => .ok (.failed ("Request timed out after " ++ timeout.display ++ " seconds"))
  | .broken reason => .ok (.failed ("Request failed: " ++ reason))

/-- Sends a request; `limit` is the time limit where `timeout` gives none. -/
def request {σ : Type} (limit method : Value) (url : String) (headers : Entries Value)
    (body timeout : Value) : ExceptT Failure (Task σ) Exchange := do
  let method ← Task.attempt (methodWord method)
  let body := sentBody method body
  let timeout := timeout.orElse limit
  if url = "" then return .failed "URL is required"
  let outcome : HttpOutcome ← ExceptT.lift (Task.query (.http
    { method := method, url := url, headers := some (sentHeaders headers body), content := body,
      timeout := timeout }))
  Task.attempt (Exchange.ofOutcome timeout outcome)

end ChatFlow.Http
