import ChatFlow.Outside.Database.Statement
import ChatFlow.Outside.Task
import ChatFlow.Value.Fields

/-!
# Queries to the database

`Database.run` opens a connection, executes one statement, commits or rolls
back, and closes the connection again.  Where the address of the database is not
configured it is fetched from the secret store and remembered, as the state of
the task, once it has been found.
-/

namespace ChatFlow.Database

/-- The address of the database, if it is known. -/
abbrev Address := Option Value

/-- Where the secret store is reached. -/
structure SecretStore where
  host : String
  httpPort : String

/-- The address of the secret that holds the address of the database. -/
def SecretStore.url (s : SecretStore) : String :=
  "http://" ++ s.host ++ ":" ++ s.httpPort
    ++ "/v1.0/secrets/kubernetes-secrets/flow-orchestrator-secrets"

/-- What came of a query. -/
inductive Answer where
  | rows (rows : List Value)
  | failed (error : String)

/-- All that an answer says, as an object. -/
def Answer.dump : Answer → Value
  | rows found =>
    .object [("success", .bool true), ("data", .list found), ("count", .int found.length),
      ("error", .null), ("duration_ms", .int 0)]
  | failed error => .object [("success", .bool false), ("error", .str error), ("duration_ms", .int 0)]

/-- The address of the database in a secret. -/
def addressIn (contents : Value) : Except Failure Value := do
  let address ← contents.get "DATABASE_URL"
  if address.truthy then return address
  else .error (.noDatabase "DATABASE_URL not found in secret 'flow-orchestrator-secrets'")

/-- The address of the database: the one that is known, else the one in the secret. -/
def address (store : SecretStore) : Task Address (Except Failure Value) := do
  match ← Task.state with
  | some known => return .ok known
  | none =>
    match ← Task.query (.secret store.url 10) with
    | .error reason =>
      return .error (.noDatabase ("Failed to fetch DATABASE_URL from Dapr secrets: " ++ reason))
    | .ok contents =>
      match addressIn contents with
      | .error f => return .error f
      | .ok found =>
        Task.setState (some found)
        return .ok found

/-- Executes a statement on the open connection, ends the transaction and closes the connection. -/
def executeAndClose {σ : Type} (text : String) (parameters : List Value) : Task σ Answer := do
  let parameters := if parameters.isEmpty then none else some parameters
  match ← Task.query (.execute text parameters) with
  | .ok rows =>
    Task.query .commit
    Task.query .close
    return .rows (rows.getD [])
  | .error reason =>
    Task.query .rollback
    Task.query .close
    return .failed reason

/-- Executes a statement on a connection of its own. -/
def execute (store : SecretStore) (text : String) (parameters : List Value) :
    Task Address (Except Failure Answer) := do
  match ← address store with
  | .error f => return .error f
  | .ok url =>
    match ← Task.query (.connect url) with
    | .error reason => return .ok (.failed reason)
    | .ok _ => return .ok (← executeAndClose text parameters)

/-- The text of a query and its parameters: a query that is given in words, else the statement for an
operation on a table. -/
def statementOf (operation : String) (table filters : Value) (query : String) :
    Except Failure (String × List Value) := do
  if query ≠ "" then return (query, [])
  let statement ← Statement.build operation table filters.orObject
  return (statement.text, statement.parameters)

/-- A failure that is an answer: a bad statement, or a database that is not known. -/
def Answer.ofFailure : Failure → Except Failure Answer
  | .badIdentifier shown => .ok (.failed (Failure.badIdentifier shown).message)
  | .badStatement reason => .ok (.failed reason)
  | .noDatabase reason => .ok (.failed reason)
  | f => .error f

/-- Runs a query. -/
def run (store : SecretStore) (operation : String) (table filters : Value) (query : String) :
    Task Address (Except Failure Answer) := do
  if query = "" && !table.truthy then return .ok (.failed "Table name is required")
  match statementOf operation table filters query with
  | .error f => return Answer.ofFailure f
  | .ok (text, parameters) =>
    match ← execute store text parameters with
    | .error f => return Answer.ofFailure f
    | .ok answer => return .ok answer

end ChatFlow.Database
