import ChatFlow.Outside.Accounts
import ChatFlow.Proofs.Outside.Choices
import ChatFlow.Proofs.Outside.Outcomes

/-!
# Calls to other services

A call to one of the services that are reached over HTTP makes one request at most and answers with
an object that says whether it succeeded; a request without a reply is no success.  A call fails
without an answer in two cases only (`calls_answer`): a message with a list is asked for whose
sections do not offer rows, or a reply has come in that baffles the service.

`Answers` says this of the exchanges of one call; one lemma for each service shows it of what the
call does, by what the service makes of the outcome of its request.
-/

namespace ChatFlow

/-! ### Answers to calls -/

/-- What a call that is malformed or not comes to: it makes one request at most, fails if it is
malformed or a reply baffles it, and else reports whether it succeeded. -/
structure Answers (malformed : Prop) (baffles : HttpReply → Prop) (exchanges : List Exchange)
    (r : Except Failure Value) : Prop where
  atMostOne : exchanges = [] ∨ ∃ request o, exchanges = [⟨.http request, o⟩]
  fails : (∃ e, r = .error e) ↔ malformed ∨
    ∃ request reply, exchanges = [⟨.http request, .replied reply⟩] ∧ baffles reply
  told : ∀ v, r = .ok v → ∃ success, v.field? "success" = some (.bool success) ∧
    ((∃ request o, exchanges = [⟨.http request, o⟩] ∧ ∀ reply, o ≠ .replied reply) →
      success = false)

section

variable {malformed : Prop} {baffles : HttpReply → Prop} {r : Except Failure Value}

/-- A call that asks nothing answers at once. -/
theorem answers_unasked (hm : ¬ malformed) {v : Value} {success : Bool}
    (h : v.field? "success" = some (.bool success)) : Answers malformed baffles [] (.ok v) where
  atMostOne := .inl rfl
  fails := by
    refine iff_of_false (fun ⟨e, he⟩ => nomatch he) ?_
    rintro (h | ⟨request, reply, h, -⟩)
    · exact hm h
    · cases h
  told := by
    rintro _ ⟨⟩
    refine ⟨success, h, ?_⟩
    rintro ⟨request, o, h, -⟩
    cases h

theorem answers_malformed (hm : malformed) (e : Failure) :
    Answers malformed baffles [] (.error e) where
  atMostOne := .inl rfl
  fails := iff_of_true ⟨e, rfl⟩ (.inl hm)
  told _ h := nomatch h

/-- A call that makes one request and gets a reply. -/
theorem answers_replied (hm : ¬ malformed) (request : HttpRequest) {reply : HttpReply}
    (hfails : (∃ e, r = .error e) ↔ baffles reply)
    (htold : ∀ v, r = .ok v → ∃ success, v.field? "success" = some (.bool success)) :
    Answers malformed baffles [⟨.http request, .replied reply⟩] r where
  atMostOne := .inr ⟨request, _, rfl⟩
  fails := by
    rw [hfails, or_iff_right hm]
    refine ⟨fun h => ⟨request, reply, rfl, h⟩, ?_⟩
    rintro ⟨_, _, ⟨⟩, h⟩
    exact h
  told v hv := by
    obtain ⟨success, hsuccess⟩ := htold v hv
    refine ⟨success, hsuccess, ?_⟩
    rintro ⟨_, _, ⟨⟩, hlost⟩
    exact absurd rfl (hlost reply)

/-- A call that makes one request and gets no reply. -/
theorem answers_lost (hm : ¬ malformed) (request : HttpRequest) {o : HttpOutcome}
    (ho : ∀ reply, o ≠ .replied reply) {v : Value} (h : v.field? "success" = some (.bool false)) :
    Answers malformed baffles [⟨.http request, o⟩] (.ok v) where
  atMostOne := .inr ⟨request, o, rfl⟩
  fails := by
    refine iff_of_false (fun ⟨e, he⟩ => nomatch he) ?_
    rintro (h | ⟨_, reply, ⟨⟩, -⟩)
    · exact hm h
    · exact ho reply rfl
  told := by
    rintro _ ⟨⟩
    exact ⟨false, h, fun _ => rfl⟩

variable {σ α : Type} {f : HttpOutcome → Except Failure α} {dump : α → Value}

theorem answers_exchange (hm : ¬ malformed) (request : HttpRequest) (h : Concludes f dump baffles)
    (o : HttpOutcome) : Answers malformed baffles [⟨.http request, o⟩] ((f o).map dump) := by
  cases o with
  | replied reply =>
    refine answers_replied hm request (exists_map_error_iff.trans (h.fails reply)) fun v hv => ?_
    obtain ⟨a, -, rfl⟩ := map_eq_ok_iff.mp hv
    exact h.told a
  | timedOut reason =>
    obtain ⟨a, ha, hsuccess⟩ := h.timedOut reason
    rw [ha]
    exact answers_lost hm request (by nofun) hsuccess
  | broken reason =>
    obtain ⟨a, ha, hsuccess⟩ := h.broken reason
    rw [ha]
    exact answers_lost hm request (by nofun) hsuccess

/-- The answer is what a call dumps of its result. -/
theorem traces_dumped {x : ExceptT Failure (Task σ) α}
    (h : x.run.Traces fun exchanges r => Answers malformed baffles exchanges (r.map dump)) :
    (do return dump (← x) : ExceptT Failure (Task σ) Value).run.Traces
      (Answers malformed baffles) := by
  refine h.run_bind (fun exchanges a ha => Task.traces_run_pure ?_) fun exchanges e he => he
  rw [List.append_nil]
  exact ha

/-- One request, and what is made of its outcome. -/
theorem traces_exchange (hm : ¬ malformed) {request : HttpRequest} (h : Concludes f dump baffles) :
    (ExceptT.lift (Task.query (.http request)) >>= fun o => Task.attempt (f o) :
      ExceptT Failure (Task σ) α).run.Traces fun exchanges r =>
        Answers malformed baffles exchanges (r.map dump) :=
  Task.traces_query_bind fun o => answers_exchange hm request h o

end

/-! ### Calls -/

/-- Of two texts the first counts if it is not empty. -/
theorem Value.str_orElse_str (s t : String) :
    (str s).orElse (str t) = str (if s = "" then t else s) := by
  unfold orElse
  by_cases h : s = "" <;> simp [truthy, h]

namespace WhatsApp

/-- A message that is to be sent, of what is given for it. -/
inductive Sending where
  | text (recipient words : String)
  | media (recipient kind url caption filename : String)
  | buttons (recipient body : String) (choices : List (Entries Value)) (header footer : String)
  | list (recipient body label : String) (sections : List (Entries Value)) (header footer : String)
  | link (recipient body label url header footer : String)
  | template (recipient name language : String) (components : List (Entries Value))
  | location (recipient : String) (latitude longitude : Value) (name address : String)
  | locationRequest (recipient body : String)
  | form (recipient header body footer formId token label screen : String) (data : Value)

/-- The object that is sent. -/
def Sending.payload : Sending → Except Failure Value
  | text recipient words => .ok (textPayload recipient words)
  | media recipient kind url caption filename => mediaPayload recipient kind url caption filename
  | buttons recipient body choices header footer =>
    buttonPayload recipient body (.list (choices.map .object)) header footer
  | list recipient body label sections header footer =>
    listPayload recipient body label (.list (sections.map .object)) header footer
  | link recipient body label url header footer =>
    .ok (linkPayload recipient body label url header footer)
  | template recipient name language components =>
    .ok (templatePayload recipient name language (.list (components.map .object)))
  | location recipient latitude longitude name address =>
    .ok (locationPayload recipient latitude longitude name address)
  | locationRequest recipient body => .ok (locationRequestPayload recipient body)
  | form recipient header body footer formId token label screen data =>
    .ok (formPayload recipient ⟨header, body, footer, formId, token, label, screen, data⟩)

/-- A section of a list does not offer rows. -/
def Sending.Malformed : Sending → Prop
  | list _ _ _ sections _ _ => ∃ given ∈ sections, ¬ Offers (.object given)
  | _ => False

theorem exists_mediaPayload (recipient : Value) (kind : String) (url caption filename : Value) :
    ∃ fs, mediaPayload recipient kind url caption filename = .ok (.object fs) := by
  unfold mediaPayload mediaKind Value.orEmpty
  rw [Value.str_orElse_str]
  exact ⟨_, rfl⟩

/-- A message that is not malformed can be made. -/
theorem Sending.exists_payload_error_iff (m : Sending) :
    (∃ e, m.payload = .error e) ↔ m.Malformed := by
  rw [exists_error_iff]
  cases m with
  | media recipient kind url caption filename =>
    obtain ⟨fs, hfs⟩ := exists_mediaPayload (.str recipient) kind url caption filename
    exact iff_of_false (fun h => h ⟨_, hfs⟩) id
  | buttons recipient body choices header footer =>
    refine iff_of_false (fun h => h ?_) id
    refine (exists_buttonPayload_iff _).mpr fun v hv => ?_
    obtain ⟨fs, -, rfl⟩ := List.mem_map.mp (List.mem_of_mem_take hv)
    rfl
  | list recipient body label sections header footer =>
    unfold payload Malformed
    rw [exists_listPayload_iff, List.forall_mem_map]
    simp only [not_forall, exists_prop]
  | _ => exact iff_of_false (fun h => h ⟨_, rfl⟩) id

theorem Sending.isObject_of_payload {m : Sending} {payload : Value} (h : m.payload = .ok payload) :
    payload.isObject = true := by
  cases m with
  | media recipient kind url caption filename =>
    obtain ⟨fs, hfs⟩ := exists_mediaPayload (.str recipient) kind url caption filename
    obtain rfl := Except.ok.inj (hfs.symm.trans h)
    rfl
  | buttons recipient body choices header footer =>
    obtain ⟨content, rfl⟩ := exists_of_buttonPayload h
    rfl
  | list recipient body label sections header footer =>
    obtain ⟨content, rfl⟩ := exists_of_listPayload h
    rfl
  | _ =>
    obtain rfl := Except.ok.inj h
    rfl

/-- Makes a message and sends it. -/
def Sending.send {σ : Type} (m : Sending) (a : Account) : ExceptT Failure (Task σ) Delivery := do
  WhatsApp.send a (← Task.attempt m.payload)

theorem Sending.traces_send {σ : Type} (m : Sending) (a : Account) :
    (m.send a : ExceptT Failure (Task σ) Delivery).run.Traces fun exchanges r =>
      Answers m.Malformed (fun reply => ¬ reply.Readable) exchanges (r.map Delivery.dump) := by
  have herror := m.exists_payload_error_iff
  refine Task.traces_attempt_bind (fun payload hpayload => ?_) fun e he => ?_
  · have hm : ¬ m.Malformed := by
      rw [← herror, hpayload]
      exact fun ⟨_, h⟩ => nomatch h
    unfold WhatsApp.send
    split
    · refine Task.traces_query_bind fun o => ?_
      have hanswers := answers_exchange hm (a.request payload) Delivery.concludes o
      refine Task.traces_attempt_bind (fun d hd => ?_) fun e he => ?_
      · rw [hd] at hanswers
        split
        · rw [Value.get_of_isObject (Sending.isObject_of_payload hpayload)]
          exact hanswers
        · exact hanswers
      · rw [he] at hanswers
        exact hanswers
    · exact Task.traces_run_pure (answers_unasked hm (Delivery.success_dump _))
  · exact answers_malformed (herror.mp ⟨e, he⟩) e

end WhatsApp

section

variable {σ : Type}

theorem Http.traces_request (limit : Value) (method url : String) (headers : Entries Value)
    (body timeout : Value) :
    (request limit (.str method) url headers body timeout : ExceptT Failure (Task σ) _).run.Traces
      fun exchanges r => Answers False (fun reply => ∃ e, reply.text = .error e) exchanges
        (r.map Exchange.dump) := by
  have hword : methodWord (.str method) = .ok (Text.upper (if method = "" then "GET" else method)) := by
    unfold methodWord
    rw [Value.str_orElse_str]
  unfold request
  rw [hword, Task.attempt_ok_bind]
  dsimp only
  split
  · exact Task.traces_run_pure (answers_unasked id rfl)
  · exact traces_exchange id (Exchange.concludes _)

theorem Sheet.traces_write (a : Account) (operation spreadsheet sheet range : String) (values : Value) :
    (write a ⟨.str operation, .str spreadsheet, .str sheet, values, .str range⟩ :
      ExceptT Failure (Task σ) _).run.Traces fun exchanges r =>
        Answers False (fun _ => False) exchanges (r.map Writing.dump) := by
  have htarget : ∃ target?, Order.target? ⟨.str operation, .str spreadsheet, .str sheet, values,
      .str range⟩ = .ok target? := by
    unfold Order.target?
    simp only [Value.str_orElse_str]
    split <;> exact ⟨_, rfl⟩
  obtain ⟨target?, htarget⟩ := htarget
  unfold write
  split
  · exact Task.traces_run_pure (answers_unasked id rfl)
  · rw [htarget, Task.attempt_ok_bind]
    cases target? with
    | none => exact Task.traces_run_pure (answers_unasked id rfl)
    | some target =>
      dsimp only
      split
      · exact Task.traces_run_pure (answers_unasked id rfl)
      · exact traces_exchange id Writing.concludes

/-- The provider of this name, where none is named the first one. -/
def Completion.wanted? (name : String) : Option Provider :=
  Provider.ofName? (Text.lower (if name = "" then "openai" else name))

theorem Completion.traces_complete (a : Account) (provider : String)
    (text model instructions temperature maxTokens : Value) :
    (complete a ⟨.str provider, text, model, instructions, temperature, maxTokens⟩ :
      ExceptT Failure (Task σ) _).run.Traces fun exchanges r =>
        Answers False (fun reply => ∃ p, wanted? provider = some p ∧ Baffles p reply) exchanges
          (r.map Completed.dump) := by
  have hname : Prompt.providerName ⟨.str provider, text, model, instructions, temperature, maxTokens⟩ =
      .ok (Text.lower (if provider = "" then "openai" else provider)) := by
    unfold Prompt.providerName
    rw [Value.str_orElse_str]
  unfold complete
  rw [hname, Task.attempt_ok_bind]
  split
  · exact Task.traces_run_pure (answers_unasked id rfl)
  · cases hwanted : wanted? provider with
    | none =>
      unfold wanted? at hwanted
      rw [hwanted]
      exact Task.traces_run_pure (answers_unasked id rfl)
    | some p =>
      have hbaffles : (fun reply => ∃ p', some p = some p' ∧ Baffles p' reply) = Baffles p := by
        funext reply
        simp
      rw [hbaffles]
      unfold wanted? at hwanted
      rw [hwanted]
      dsimp only
      split
      · exact Task.traces_run_pure (answers_unasked id rfl)
      · exact traces_exchange id (Completed.concludes _)

theorem Email.traces_send (a : Account) (now : Calendar.Instant) (recipient : String)
    (subject body : Value) (html : Bool) (senderName : Value) :
    (send a now ⟨.str recipient, subject, body, html, senderName⟩ :
      ExceptT Failure (Task σ) _).run.Traces fun exchanges r =>
        Answers False Baffles exchanges (r.map Posting.dump) := by
  unfold send
  split
  · exact Task.traces_run_pure (answers_unasked id rfl)
  · dsimp only
    split
    · exact Task.traces_run_pure (answers_unasked id rfl)
    · split
      · exact Task.traces_run_pure (answers_unasked id rfl)
      · exact traces_exchange id Posting.concludes

end

/-- A call to a service that is reached over HTTP. -/
inductive ServiceCall where
  | send (m : WhatsApp.Sending)
  | request (method url : String) (headers : Option (Entries String)) (body : Option String)
      (timeout : Value)
  | write (operation spreadsheet sheet : String) (values : List (List Value)) (range : String)
  | complete (provider prompt model instructions : String) (temperature maxTokens : Value)
  | mail (recipient subject body : String) (html : Bool) (senderName : String)

namespace ServiceCall

/-- What a call comes to at some time. -/
def task {σ : Type} (a : Accounts) (now : Calendar.Instant) :
    ServiceCall → ExceptT Failure (Task σ) Value
  | send m => do return (← m.send a.whatsapp).dump
  | request method url headers body timeout => do
    let headers : Entries Value := (headers.getD []).map fun e => (e.1, .str e.2)
    return (← Http.request a.httpTimeout (.str method) url headers (.ofText? body) timeout).dump
  | write operation spreadsheet sheet values range => do
    return (← Sheet.write a.sheet
      ⟨.str operation, .str spreadsheet, .str sheet, .list (values.map .list), .str range⟩).dump
  | complete provider prompt model instructions temperature maxTokens => do
    return (← Completion.complete a.completion
      ⟨.str provider, .str prompt, .str model, .str instructions, temperature, maxTokens⟩).dump
  | mail recipient subject body html senderName => do
    return (← Email.send a.email now
      ⟨.str recipient, .str subject, .str body, html, .str senderName⟩).dump

/-- A message is to be sent that cannot be made. -/
def Malformed : ServiceCall → Prop
  | send m => m.Malformed
  | _ => False

/-- A reply in which the call does not find its way. -/
def Baffled (reply : HttpReply) : ServiceCall → Prop
  | send _ => ¬ reply.Readable
  | request .. => ∃ e, reply.text = .error e
  | write .. => False
  | complete provider .. => ∃ p, Completion.wanted? provider = some p ∧ Completion.Baffles p reply
  | mail .. => Email.Baffles reply

theorem traces_task {σ : Type} (a : Accounts) (now : Calendar.Instant) (c : ServiceCall) :
    (c.task a now : ExceptT Failure (Task σ) Value).run.Traces
      (Answers c.Malformed fun reply => c.Baffled reply) := by
  cases c with
  | send m => exact traces_dumped (m.traces_send _)
  | request method url headers body timeout => exact traces_dumped (Http.traces_request ..)
  | write operation spreadsheet sheet values range => exact traces_dumped (Sheet.traces_write ..)
  | complete provider prompt model instructions temperature maxTokens =>
    exact traces_dumped (Completion.traces_complete ..)
  | mail recipient subject body html senderName => exact traces_dumped (Email.traces_send ..)

end ServiceCall

/-- Accounts with a key for one provider of language models. -/
def Accounts.asking : Accounts :=
  { NodeContext.sending.accounts with completion := ⟨"k", "", .null⟩ }

/-- A short prompt. -/
def ServiceCall.greeting : ServiceCall := .complete "openai" "Hi" "" "" (.float 0.7) (.int 1000)

/-- What comes of it in a world. -/
def ServiceCall.greeted (world : World) : Task.Progress Database.Address (Except Failure Value) :=
  (greeting.task .asking ⟨0⟩).run.run world none []

/-- A provider refuses a key and says so in a text, not in an object. -/
def HttpReply.wordedRefusal : HttpReply := ⟨401, [], "\x7b\"error\": \"invalid key\"\x7d"⟩

end ChatFlow
