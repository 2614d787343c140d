import ChatFlow.Value

/-!
# The outside world

Everything that the service asks of the world outside it is a `Query`, and
`Query.Reply` says what kind of reply a query has.  An HTTP exchange may end
without a reply; the database, the secret store and the state store may refuse.
-/

namespace ChatFlow

/-- A request over HTTP.  What is left out is not sent at all; the time limit is a number of
seconds. -/
structure HttpRequest where
  method : String
  url : String
  headers : Option (Entries Value) := none
  json : Option Value := none
  content : Option Value := none
  params : Option (Entries String) := none
  timeout : Value

/-- A reply over HTTP. -/
structure HttpReply where
  status : Nat
  headers : Entries String
  body : String

/-- How an HTTP exchange ends. -/
inductive HttpOutcome where
  | replied (reply : HttpReply)
  /-- No reply came in time. -/
  | timedOut (reason : String)
  /-- The exchange failed otherwise. -/
  | broken (reason : String)

/-- What is asked of the world. -/
inductive Query where
  /-- Sends a request over HTTP. -/
  | http (request : HttpRequest)
  /-- Lets so many seconds pass. -/
  | sleep (seconds : Float)
  /-- Opens a connection to the database. -/
  | connect (url : Value)
  /-- Executes a statement on the open connection. -/
  | execute (statement : String) (parameters : Option (List Value))
  | commit
  | rollback
  | close
  /-- Fetches a secret from the secret store. -/
  | secret (url : String) (timeout : Nat)
  /-- Writes a text to the state store. -/
  | saveState (store key text : String)
  /-- Reads settings from the settings store. -/
  | getSettings (store : String) (keys : List String)

/-- The kind of reply that a query has. -/
@[reducible] def Query.Reply : Query → Type
  | .http _ => HttpOutcome
  | .sleep _ => Unit
  | .connect _ => Except String Unit
  | .execute _ _ => Except String (Option (List Value))
  | .commit => Unit
  | .rollback => Unit
  | .close => Unit
  | .secret _ _ => Except String Value
  | .saveState _ _ _ => Except String Unit
  | .getSettings _ _ => Except String (Entries String)

/-- Whether whoever asks stands still until the reply comes, so that others can go on meanwhile.  All
that is asked of the database in one go is one such wait, and the settings are read at once. -/
def Query.isAwaited : Query → Bool
  | .http _ | .sleep _ | .connect _ | .saveState _ _ _ => true
  | .execute _ _ | .commit | .rollback | .close | .secret _ _ | .getSettings _ _ => false

/-- What the world replies to a query after the queries before it; none if it never replies. -/
def World : Type := List Query → (q : Query) → Option q.Reply

end ChatFlow
