import ChatFlow.Decimal.Reading
import ChatFlow.Outside.Task
import ChatFlow.Text.Blank
import ChatFlow.Text.Letter

/-!
# The settings of the service

Each setting has a name and a default, and the kind of the default says how the
text of a setting is read.  A setting is taken from the settings store if there
is one and it has a value, else from the environment, else it has its default.
`Settings.publicView` shows all settings and, of the secret ones, only whether
they are there.
-/

namespace ChatFlow

/-- The settings by their names. -/
abbrev Settings := Entries Value

namespace Settings

/-- All settings with their defaults. -/
def defaults : Settings :=
  [("PORT", .int 8080), ("HOST", .str "0.0.0.0"), ("LOG_LEVEL", .str "INFO"),
   ("LOG_FORMAT", .str "text"), ("MAX_ITERATIONS", .int 50), ("SYSTEM_TIMEZONE", .str "UTC"),
   ("SERVER_BASE_URL", .str "http://localhost:8080"), ("FLOW_DEFINITIONS_DIR", .str ""),
   ("HTTP_TIMEOUT_SECONDS", .float 30), ("WHATSAPP_API_VERSION", .str "v17.0"),
   ("WHATSAPP_PHONE_NUMBER_ID", .str ""), ("WHATSAPP_ACCESS_TOKEN", .str ""),
   ("WHATSAPP_VERIFY_TOKEN", .str ""), ("GOOGLE_SHEETS_API_KEY", .str ""),
   ("OPENAI_API_KEY", .str ""), ("ANTHROPIC_API_KEY", .str ""), ("RESEND_API_KEY", .str ""),
   ("FROM_EMAIL", .str "noreply@example.com"), ("DATABASE_URL", .str ""),
   ("DAPR_HOST", .str "localhost"), ("DAPR_HTTP_PORT", .str "3500"),
   ("STATE_STORE_NAME", .str "flowstatestore"), ("PERSIST_EXECUTIONS", .bool false)]

/-- The settings that are never shown. -/
def secretNames : List String :=
  ["WHATSAPP_ACCESS_TOKEN", "WHATSAPP_VERIFY_TOKEN", "GOOGLE_SHEETS_API_KEY", "OPENAI_API_KEY",
   "ANTHROPIC_API_KEY", "RESEND_API_KEY", "DATABASE_URL"]

/-- The settings that the settings store is asked for. -/
def storedNames : List String :=
  ["MAX_ITERATIONS", "SYSTEM_TIMEZONE", "SERVER_BASE_URL", "WHATSAPP_API_VERSION",
   "WHATSAPP_PHONE_NUMBER_ID", "FROM_EMAIL", "STATE_STORE_NAME"]

/-- The value of a setting from its text: of the kind of its default, and the default itself if the
text is no number where a number is due. -/
def coerce (text : String) : Value → Value
  | .bool _ => .bool (["1", "true", "yes", "on"].contains (Text.lower (Text.strip text)))
  | .int n => .int ((Decimal.readInt? text).getD n)
  | .float x => .float ((Decimal.readFloat? text).getD x)
  | _ => .str text

/-- The value of a setting. -/
def value (s : Settings) (name : String) : Value := (s.find? name).getD .null

/-- The text of a setting. -/
def text (s : Settings) (name : String) : String := (s.value name).text?.getD ""

/-- The settings in a place that has these texts. -/
abbrev Texts := Entries String

/-- A text of some length under a name. -/
def given? (texts : Texts) (name : String) : Option String :=
  (texts.find? name).filter (· ≠ "")

/-- The settings from the settings store and the environment. -/
def ofTexts (stored environment : Texts) : Settings :=
  defaults.map fun e =>
    match (given? stored e.1).or (given? environment e.1) with
    | some s => (e.1, coerce s e.2)
    | none => e

/-- The settings once they are loaded, and whether some came from the settings store. -/
structure Loaded where
  settings : Settings
  fromStore : Bool

/-- Whether there is a settings store. -/
def hasStore (environment : Texts) : Bool :=
  (given? environment "DAPR_HTTP_PORT").isSome || (given? environment "DAPR_GRPC_PORT").isSome

/-- What the settings store has. -/
def storedTexts {σ : Type} (environment : Texts) : Task σ Texts := do
  if hasStore environment then
    match ← Task.query (.getSettings "flowconfig" storedNames) with
    | .ok texts => return texts.filter fun e => e.2 ≠ ""
    | .error _ => return []
  else return []

/-- Loads the settings. -/
def load {σ : Type} (environment : Texts) : Task σ Loaded := do
  let stored ← storedTexts environment
  return ⟨ofTexts stored environment, !stored.isEmpty⟩

/-- The settings as anyone may see them: of a secret only whether it is there. -/
def publicView (l : Loaded) : Value :=
  .object (l.settings.map (fun e =>
      (e.1, if secretNames.contains e.1 then .bool e.2.truthy else e.2))
    ++ [("loadedFromDapr", .bool l.fromStore)])

end Settings

end ChatFlow
