import ChatFlow.Calendar.Date
import ChatFlow.Json.Reader
import ChatFlow.Outside.Task
import ChatFlow.Text.Blank
import ChatFlow.Text.Split
import ChatFlow.Value.Fields
import ChatFlow.Value.Render

/-!
# Sending mail

`Email.send` sends one mail.  As long as no key is configured, sending is only
simulated, and the mail gets a name made of the time.
-/

namespace ChatFlow.Email

/-- The account that mail is sent from. -/
structure Account where
  key : String
  address : String
  timeout : Value

/-- A mail. -/
structure Letter where
  recipient : Value
  subject : Value
  body : Value
  html : Bool
  senderName : Value

/-- What came of sending a mail. -/
inductive Posting where
  | sent (id : Value)
  | simulated (id : String)
  | failed (error : Value)

/-- All that is said about a mail, as an object. -/
def Posting.dump : Posting → Value
  | sent id => .object [("success", .bool true), ("message_id", id), ("duration_ms", .int 0)]
  | simulated id =>
    .object [("success", .bool true), ("simulated", .bool true), ("message_id", .str id),
      ("duration_ms", .int 0)]
  | failed error => .object [("success", .bool false), ("error", error), ("duration_ms", .int 0)]

/-- Whether a character may stand in a mail address beside the sign between its halves. -/
def isAddressChar (c : Char) : Bool := c ≠ '@' && !Text.isBlank c

/-- Whether some text stands on both sides of a dot. -/
def hasInnerDot : List Char → Bool
  | [] => false
  | _ :: rest => hasDot rest
where
  /-- Whether some text follows a dot. -/
  hasDot : List Char → Bool
    | [] => false
    | c :: rest => (c = '.' && !rest.isEmpty) || hasDot rest

/-- Whether a text is a mail address: two halves of which the second has a dot inside.  A line end
after it does not count. -/
def isAddress (s : String) : Bool :=
  let chars := Text.dropLineEnd s.toList
  let name := chars.takeWhile isAddressChar
  match chars.dropWhile isAddressChar with
  | '@' :: host => !name.isEmpty && host.all isAddressChar && hasInnerDot host
  | _ => false

/-- The sender of a mail. -/
def sender (a : Account) (name : Value) : String :=
  let address := if a.address = "" then "noreply@example.com" else a.address
  if name.truthy then name.display ++ " <" ++ address ++ ">" else address

/-- The object that is sent for a mail. -/
def Letter.payload (l : Letter) (a : Account) : Value :=
  .object [("from", .str (sender a l.senderName)), ("to", .list [l.recipient]),
    ("subject", l.subject), (if l.html then "html" else "text", l.body)]

/-- What a reply to a mail says. -/
def Posting.ofReply (r : HttpReply) : Except Failure Posting :=
  match Json.parseBytes? r.body with
  | none => .ok (.failed (.str Failure.notJson.message))
  | some data =>
    if r.status < 400 then (data.get "id").map .sent
    else .ok (.failed ((Value.ofOption (data.field? "message")).orElse (.str "Email sending failed")))

/-- What an HTTP exchange comes to. -/
def Posting.ofOutcome : HttpOutcome → Except Failure Posting
  | .replied r => Posting.ofReply r
  | .timedOut reason | .broken reason => .ok (.failed (.str reason))

/-- Sends a mail at the given time. -/
def send {σ : Type} (a : Account) (now : Calendar.Instant) (l : Letter) :
    ExceptT Failure (Task σ) Posting := do
  if !l.recipient.truthy || !l.subject.truthy || !l.body.truthy then
    return .failed (.str "To, subject, and body are required")
  match l.recipient with
  | .str recipient =>
    if !isAddress recipient then return .failed (.str ("Invalid email address: " ++ recipient))
    if a.key = "" then return .simulated ("sim_" ++ Decimal.intText now.millis)
    let outcome : HttpOutcome ← ExceptT.lift (Task.query (.http
      { method := "POST", url := "https://api.resend.com/emails",
        headers := some [("Authorization", "Bearer " ++ a.key)], json := some (l.payload a),
        timeout := a.timeout }))
    Task.attempt (Posting.ofOutcome outcome)
  | _ => Task.attempt (.error (.wrongKind "expected string or bytes-like object"))

end ChatFlow.Email
