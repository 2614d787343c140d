import ChatFlow.Calendar.Date
import ChatFlow.Failure
import ChatFlow.Json.Writer
import ChatFlow.Pattern
import ChatFlow.Text.Letter
import ChatFlow.Value.Render

/-!
# Lines of the log

A line of the log as JSON: the time, the level, the name of the logger, the
message with its arguments filled in, what the message is about, and what
failed.
-/

namespace ChatFlow.Log

/-! ### Messages with arguments -/

/-- A value as an argument of a message. -/
def argumentOf (v : Value) : Pattern.Argument where
  text := v.display
  shown := v.shown
  number :=
    match v with
    | .int n => some (.whole n)
    | .bool b => some (.whole (if b then 1 else 0))
    | .float x => some (.broken x)
    | _ => none
  isText := v.text?.isSome

/-- The arguments of a message: a single object that is not empty gives its fields by name. -/
def argumentsOf : List Value → Pattern.Arguments
  | [.object (e :: fields)] =>
    let find (name : String) : Except Failure Pattern.Argument :=
      match Entries.find? (e :: fields) name with
      | some v => .ok (argumentOf v)
      | none => .error (.noKey name)
    { left := [argumentOf (.object (e :: fields))], named := some find }
  | args => { left := args.map argumentOf }

/-- The text of a message; one without arguments is taken as it is. -/
def messageText (message : String) (args : List Value) : Except Failure String :=
  if args.isEmpty then .ok message else Pattern.fill message (argumentsOf args)

/-! ### Lines -/

/-- An event that is logged.  The failure is a word for its kind and a text. -/
structure Event where
  message : String
  args : List Value
  logger : String
  level : String
  about : Entries Value
  failure : Option (String × String)

/-- What a message may be about. -/
def aboutNames : List String := ["flow_id", "execution_id", "conversation_id", "node_id"]

/-- What a message is about, as far as it is known. -/
def Event.known (e : Event) : Entries Value :=
  aboutNames.filterMap fun name =>
    match e.about.find? name with
    | some v => if v.truthy then some (name, v) else none
    | none => none

/-- A failure on one line. -/
def failureText (kind text : String) : String := if text = "" then kind else kind ++ ": " ++ text

/-- The line of an event at some time. -/
def Event.line (e : Event) (now : Calendar.Instant) : Except Failure String := do
  let message ← messageText e.message e.args
  let failure : Entries Value :=
    match e.failure with
    | some (kind, text) => [("exc_info", .str (failureText kind text))]
    | none => []
  return Json.text Json.spaced (.object
    ([("timestamp", .str now.offsetText), ("level", .str (Text.lower e.level)),
      ("logger", .str e.logger), ("message", .str message)] ++ e.known ++ failure))

/-! ### Which events are logged, and how -/

/-- The levels with their numbers. -/
def levels : List (String × Int) :=
  [("CRITICAL", 50), ("FATAL", 50), ("ERROR", 40), ("WARNING", 30), ("WARN", 30), ("INFO", 20),
   ("DEBUG", 10), ("NOTSET", 0)]

/-- How the service logs: from which level on, and whether its lines are JSON. -/
structure Setup where
  level : Int
  json : Bool

/-- The words in capitals that name something of the log and yet no level: a pattern for lines, and a
table of styles. -/
def otherWords : List (String × Failure) :=
  [("BASIC_FORMAT", .badStatement "Unknown level: '%(levelname)s:%(name)s:%(message)s'"),
   ("_STYLES", .wrongKind "Level not an integer or a valid string")]

/-- A name, which has to be a text to be changed to one case. -/
def nameOf (change : String) : Value → Except Failure String
  | .str s => .ok s
  | v => .error (.noField v.kindName change)

/-- The setup for the name of a level and of a format; a level that nobody knows is that of
information. -/
def Setup.ofNames (level format : Value) : Except Failure Setup := do
  let name := Text.upper (← nameOf "upper" level)
  match otherWords.lookup name with
  | some fault => throw fault
  | none =>
    let format ← nameOf "lower" format
    return { level := (levels.lookup name).getD 20, json := Text.lower format = "json" }

end ChatFlow.Log
