import ChatFlow.Condition.Compare
import ChatFlow.Outside.Completion
import ChatFlow.Outside.Database.Client
import ChatFlow.Outside.Email
import ChatFlow.Outside.Http
import ChatFlow.Outside.Sheet
import ChatFlow.Outside.WhatsApp.Client
import ChatFlow.Settings

/-!
# The accounts of the service

What the service needs to reach the services outside, as the settings give it.
-/

namespace ChatFlow

/-- The accounts with all services outside. -/
structure Accounts where
  whatsapp : WhatsApp.Account
  httpTimeout : Value
  sheet : Sheet.Account
  completion : Completion.Account
  email : Email.Account
  database : Database.Address
  secrets : Database.SecretStore

namespace Accounts

/-- The time limit for language models: that of other requests, but at least a minute. -/
def patient (timeout : Value) : Value :=
  match Condition.compare false (some (.float 60)) ">" (some timeout) with
  | .ok true => .float 60
  | _ => timeout

/-- The accounts that settings give. -/
def ofSettings (s : Settings) : Accounts :=
  let timeout := s.value "HTTP_TIMEOUT_SECONDS"
  { whatsapp := ⟨s.text "WHATSAPP_PHONE_NUMBER_ID", s.text "WHATSAPP_ACCESS_TOKEN",
      s.text "WHATSAPP_API_VERSION", timeout⟩
    httpTimeout := timeout
    sheet := ⟨s.text "GOOGLE_SHEETS_API_KEY", timeout⟩
    completion := ⟨s.text "OPENAI_API_KEY", s.text "ANTHROPIC_API_KEY", patient timeout⟩
    email := ⟨s.text "RESEND_API_KEY", s.text "FROM_EMAIL", timeout⟩
    database := if s.text "DATABASE_URL" = "" then none else some (s.value "DATABASE_URL")
    secrets := ⟨s.text "DAPR_HOST", s.text "DAPR_HTTP_PORT"⟩ }

end Accounts

end ChatFlow
