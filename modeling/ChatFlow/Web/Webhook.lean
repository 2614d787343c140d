import ChatFlow.Calendar.Date
import ChatFlow.Value.Render
import ChatFlow.Variables.Flatten

/-!
# The variables of a webhook

A run that another service starts sees the request: its method, its body, its
query and its headers, each as a whole and flattened.  The user is the one whose
phone number stands in the body or in the query.
-/

namespace ChatFlow.Web

/-- The phone number in an object, under one of its two names. -/
def phoneIn (v : Value) : Option String :=
  (["phone", "phoneNumber"].filterMap fun name =>
    match v.field? name with
    | some p => if p.truthy then some p.display else none
    | none => none).head?

/-- The phone number of a request: the one in its body, else the one in its query. -/
def phoneOf (body query : Value) : Option String := (phoneIn body).or (phoneIn query)

/-- The variables that a run started by a request begins with. -/
def webhookVariables (now : Calendar.Instant) (method : String) (body query headers : Value) :
    Entries Value :=
  let whole : Entries Value :=
    [("webhook.method", .str method), ("webhook.timestamp", .str now.offsetText),
      ("webhook.body", body), ("webhook.query", query)]
  let parts := Flatten.flatten body "webhook.body" Flatten.defaultDepth
    ++ Flatten.flatten query "webhook.query" Flatten.defaultDepth
    ++ Flatten.flatten headers "webhook.header" Flatten.defaultDepth
  let phone : Entries Value :=
    match phoneOf body query with
    | some p => [("user.phone", .str p)]
    | none => []
  Entries.ofPairs (whole ++ parts ++ phone)

end ChatFlow.Web
