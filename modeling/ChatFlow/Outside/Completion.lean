import ChatFlow.Decimal.Layout
import ChatFlow.Json.Reader
import ChatFlow.Outside.Task
import ChatFlow.Text.Letter
import ChatFlow.Value.Fields
import ChatFlow.Value.Sum

/-!
# Completing a prompt

`Completion.complete` sends a prompt to one of two providers of language models
and takes the text of the answer and the number of tokens out of the reply.  A
reply of another shape than the provider promises is a failure.
-/

namespace ChatFlow.Completion

/-- The keys for the providers. -/
structure Account where
  openaiKey : String
  anthropicKey : String
  timeout : Value

/-- A prompt and how it is to be completed. -/
structure Prompt where
  provider : Value
  text : Value
  model : Value
  instructions : Value
  temperature : Value
  maxTokens : Value

/-- What came of a prompt. -/
inductive Completed where
  | answered (text tokens : Value) (provider : String) (model : Value)
  | failed (error : Value)

/-- All that is said about a prompt, as an object. -/
def Completed.dump : Completed → Value
  | answered text tokens provider model =>
    .object [("success", .bool true), ("response", text), ("tokens_used", tokens),
      ("provider", .str provider), ("model", model), ("error", .null), ("duration_ms", .int 0)]
  | failed error => .object [("success", .bool false), ("error", error), ("duration_ms", .int 0)]

/-- The providers. -/
inductive Provider where
  | openai
  | anthropic
  deriving DecidableEq, Repr

/-- The provider of this name. -/
def Provider.ofName? : String → Option Provider
  | "openai" => some openai
  | "anthropic" => some anthropic
  | _ => none

/-- The name of a provider. -/
def Provider.name : Provider → String
  | openai => "openai"
  | anthropic => "anthropic"

/-- The model that is used when none is asked for. -/
def Provider.defaultModel : Provider → String
  | openai => "gpt-3.5-turbo"
  | anthropic => "claude-3-sonnet-20240229"

/-- The key for a provider. -/
def Account.keyFor (a : Account) : Provider → String
  | .openai => a.openaiKey
  | .anthropic => a.anthropicKey

/-- The notice that there is no key for a provider. -/
def Provider.noKey : Provider → String
  | openai => "OpenAI API key not configured"
  | anthropic => "Anthropic API key not configured"

/-- One turn of a conversation with a model. -/
def turn (role : String) (content : Value) : Value :=
  .object [("role", .str role), ("content", content)]

/-- The model that is used. -/
def Prompt.modelFor (p : Prompt) (provider : Provider) : Value :=
  p.model.orElse provider.defaultModel

/-- The object that is sent for a prompt. -/
def Prompt.payload (p : Prompt) (provider : Provider) : Value :=
  let model := p.modelFor provider
  match provider with
  | .openai =>
    let first := if p.instructions.truthy then [turn "system" p.instructions] else []
    .object [("model", model), ("messages", .list (first ++ [turn "user" p.text])),
      ("temperature", p.temperature), ("max_tokens", p.maxTokens)]
  | .anthropic =>
    .object ([("model", model), ("max_tokens", p.maxTokens), ("temperature", p.temperature),
      ("messages", .list [turn "user" p.text])]
      ++ (if p.instructions.truthy then [("system", p.instructions)] else []))

/-- The request for a prompt. -/
def Prompt.request (p : Prompt) (a : Account) (provider : Provider) : HttpRequest :=
  match provider with
  | .openai =>
    { method := "POST", url := "https://api.openai.com/v1/chat/completions",
      headers := some [("Authorization", "Bearer " ++ a.openaiKey)],
      json := some (p.payload provider), timeout := a.timeout }
  | .anthropic =>
    { method := "POST", url := "https://api.anthropic.com/v1/messages",
      headers := some [("x-api-key", a.anthropicKey), ("anthropic-version", "2023-06-01")],
      json := some (p.payload provider), timeout := a.timeout }

/-- The first of several answers; no answers count as one without content. -/
def firstAnswer (answers : Value) : Except Failure Value := do
  return (← (answers.orElse (.list [.object []])).first).orObject

/-- The text of the answer in a reply. -/
def answerText (provider : Provider) (data : Value) : Except Failure Value := do
  match provider with
  | .openai =>
    let answer ← firstAnswer (← data.get "choices")
    return (← (← answer.get "message").orObject.get "content").orEmpty
  | .anthropic =>
    let answer ← firstAnswer (← data.get "content")
    return (← answer.get "text").orEmpty

/-- The number of tokens in a reply. -/
def tokenCount (provider : Provider) (data : Value) : Except Failure Value := do
  let usage := (← data.get "usage").orObject
  match provider with
  | .openai => return (← usage.get "total_tokens").orElse (.int 0)
  | .anthropic =>
    let given := (← usage.get "input_tokens").orElse (.int 0)
    let answered := (← usage.get "output_tokens").orElse (.int 0)
    given.add answered

/-- What went wrong by the words of the provider. -/
def complaint (data : Value) : Except Failure Value :=
  match data with
  | .object _ => do (← data.get "error").orObject.get "message"
  | _ => .ok .null

/-- What a reply says. -/
def Completed.ofReply (p : Prompt) (provider : Provider) (r : HttpReply) :
    Except Failure Completed :=
  match Json.parseBytes? r.body with
  | none => .ok (.failed (.str Failure.notJson.message))
  | some data => do
    if r.status < 400 then
      let text ← answerText provider data
      let tokens ← tokenCount provider data
      return .answered text tokens provider.name (p.modelFor provider)
    else
      return .failed ((← complaint data).orElse (.str (provider.name ++ " API returned HTTP "
        ++ String.ofList (Decimal.natChars r.status))))

/-- What an HTTP exchange comes to. -/
def Completed.ofOutcome (p : Prompt) (provider : Provider) : HttpOutcome → Except Failure Completed
  | .replied r => Completed.ofReply p provider r
  | .timedOut reason | .broken reason => .ok (.failed (.str reason))

/-- The name of the provider that is wanted, in lower case. -/
def Prompt.providerName (p : Prompt) : Except Failure String :=
  match p.provider.orElse "openai" with
  | .str name => .ok (Text.lower name)
  | v => .error (.noField v.kindName "lower")

/-- Completes a prompt. -/
def complete {σ : Type} (a : Account) (p : Prompt) : ExceptT Failure (Task σ) Completed := do
  let name ← Task.attempt p.providerName
  if !p.text.truthy then return .failed (.str "Prompt is required")
  match Provider.ofName? name with
  | none =>
    return .failed (.str
      ("Invalid provider \"" ++ name ++ "\". Use \"openai\" or \"anthropic\""))
  | some provider =>
    if a.keyFor provider = "" then return .failed (.str provider.noKey)
    let outcome : HttpOutcome ← ExceptT.lift (Task.query (.http (p.request a provider)))
    Task.attempt (Completed.ofOutcome p provider outcome)

end ChatFlow.Completion
