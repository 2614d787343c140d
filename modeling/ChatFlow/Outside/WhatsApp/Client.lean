import ChatFlow.Json.Reader
import ChatFlow.Outside.MediaType
import ChatFlow.Outside.Task
import ChatFlow.Value.Fields
import ChatFlow.Value.Render

/-!
# Sending messages

`send` delivers a message through the account of the service.  What went wrong
stands in the `Delivery`; only a reply whose bytes cannot be read as text is a
failure.
-/

namespace ChatFlow.WhatsApp

/-- The account that messages are sent from. -/
structure Account where
  phoneId : String
  token : String
  version : String
  timeout : Value

/-- What became of a message: whether it was accepted, what the messaging service replied, and what
went wrong. -/
structure Delivery where
  success : Bool
  data : Option Value
  error : Option String

/-- A delivery that failed without a reply. -/
def Delivery.failed (reason : String) : Delivery := ⟨false, none, some reason⟩

/-- All that a delivery says, as an object. -/
def Delivery.dump (d : Delivery) : Value :=
  .object ([("success", .bool d.success), ("error", Value.ofText? d.error), ("duration_ms", .int 0)]
    ++ (d.data.map fun v => ("data", v)).toList)

/-- The address to which the messages of an account are sent. -/
def Account.url (a : Account) : String :=
  "https://graph.facebook.com/" ++ a.version ++ "/" ++ a.phoneId ++ "/messages"

/-- Whether an account can be used. -/
def Account.isConfigured (a : Account) : Bool := a.phoneId ≠ "" && a.token ≠ ""

/-- What an HTTP exchange says about the message sent by it. -/
def Delivery.ofOutcome : HttpOutcome → Except Failure Delivery
  | .replied r => do
    let data ←
      match Json.parseBytes? r.body with
      | some v => .ok v
      | none => r.text.map Value.str
    if r.status < 400 then return ⟨true, some data, none⟩
    return ⟨false, some data,
      some ("WhatsApp API returned HTTP " ++ String.ofList (Decimal.natChars r.status))⟩
  | .timedOut _ => .ok (.failed "WhatsApp API request timed out")
  | .broken reason => .ok (.failed ("WhatsApp API request failed: " ++ reason))

/-- The request that sends a message. -/
def Account.request (a : Account) (payload : Value) : HttpRequest :=
  { method := "POST", url := a.url, headers := some [("Authorization", "Bearer " ++ a.token)],
    json := some payload, timeout := a.timeout }

/-- Sends a message; one that is accepted has to say to whom it goes, if to no one. -/
def send {σ : Type} (a : Account) (payload : Value) : ExceptT Failure (Task σ) Delivery := do
  if a.isConfigured then
    let outcome : HttpOutcome ← ExceptT.lift (Task.query (.http (a.request payload)))
    let delivery ← Task.attempt (Delivery.ofOutcome outcome)
    if delivery.success then Task.attempt ((payload.get "to").map fun _ => delivery)
    else return delivery
  else return .failed "WhatsApp credentials not configured"

end ChatFlow.WhatsApp
