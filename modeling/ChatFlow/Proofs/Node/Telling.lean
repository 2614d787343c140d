import ChatFlow.Proofs.Entries
import ChatFlow.Proofs.Node.Steering
import ChatFlow.Proofs.Outside.Exchange
import ChatFlow.Proofs.Value.Parts

/-!
# What handlers tell

A finding tells later nodes something under the names of `Finding.names`, and it may
name further variables to write.  Only three kinds of handlers ever do the latter: a
request keeps the reply that the world gave to it, or the error if none came, and a
completion, a query or a transform keeps its value if it has one (`Finding.Writes`).
`yields_told` says so of every handler.
-/

namespace ChatFlow

/-! ### What a finding tells -/

/-- The names under which handlers tell something about a node. -/
def Finding.names : List String :=
  ["triggered", "delayed", "delayAmount", "delayUnit", "delaySeconds", "matched", "nextNode", "ended",
   "sent", "error", "message", "mediaUrl", "mediaType", "caption", "bodyText", "displayText", "url",
   "templateName", "languageCode", "latitude", "longitude", "name", "address", "buttons", "sections",
   "flowId", "header", "body", "waiting", "saveAs", "method", "status", "statusText", "response",
   "webhookUrl", "operation", "rows", "skipped", "provider", "model", "tokens_used", "to", "messageId",
   "simulated", "count", "result", "reason"]

/-- All of it is told under these names. -/
def Finding.Named (output : Entries Value) : Prop := ∀ e ∈ output, e.1 ∈ names

/-- The body of a reply says a value: it is its JSON text, or else the value is the text. -/
def HttpReply.Says (reply : HttpReply) (data : Value) : Prop :=
  ∃ s, reply.text = .ok s ∧ data = (Json.parse? s).getD (.str s)

/-- The name under which the settings of a request keep its reply. -/
def Filled.replyName (f : Filled) : String :=
  if f.text "response_variable" = "" then "http.response" else f.text "response_variable"

/-- A kind of nodes that keep a value under a name which their settings give. -/
def NodeKind.Saves (kind : NodeKind) : Prop :=
  kind = completion ∨ kind = database ∨ kind = transform

/-- The variables that a finding names, by the kind of the node, its settings and what was exchanged
with the world. -/
inductive Finding.Writes (kind : NodeKind) (f : Filled) (exchanges : List Exchange) (g : Finding) :
    Prop
  | nothing (writes : g.writes = [])
  | reply {request : HttpRequest} {reply : HttpReply} {data : Value} {reason : String}
      (hk : kind = .http) (success : g.success = true)
      (replied : exchanges = [⟨.http request, .replied reply⟩]) (said : reply.Says data)
      (writes : g.writes = Services.replyVariables f.replyName reply.status reason data)
  | error {reason : String} (hk : kind = .http) (success : g.success = false)
      (writes : g.writes = [("http.error", .str reason)])
  | value {v : Value} (hk : kind.Saves) (success : g.success = true)
      (writes : g.writes = [(f.text "save_as", v)])

/-- What is told by a finding about a node of a kind. -/
structure Finding.Told (kind : NodeKind) (f : Filled) (exchanges : List Exchange) (g : Finding) :
    Prop where
  named : Named g.output
  writes : g.Writes kind f exchanges

/-- A finding that names no variables. -/
structure Finding.Silent (g : Finding) : Prop where
  named : Named g.output
  writes : g.writes = []

namespace Finding

theorem Silent.told {g : Finding} (h : g.Silent) (kind : NodeKind) (f : Filled)
    (exchanges : List Exchange) : g.Told kind f exchanges := ⟨h.named, .nothing h.writes⟩

theorem Named.put {output : Entries Value} (h : Named output) {name : String} (hn : name ∈ names)
    (v : Value) : Named (output.put name v) := by
  intro e he
  rcases Entries.mem_put he with rfl | he
  · exact hn
  · exact h e he

/-- What says whether something was sent, and what went wrong. -/
theorem Named.put_sent {output : Entries Value} (h : Named output) (v : Value) :
    Named (output.put "sent" v) := h.put (by decide) v

theorem Named.put_error {output : Entries Value} (h : Named output) (v : Value) :
    Named (output.put "error" v) := h.put (by decide) v

theorem silent_missing {output : Entries Value} (h : Named output) (reason : String) (stop : Bool) :
    (missing output reason stop).Silent := ⟨(h.put_sent _).put_error _, rfl⟩

theorem silent_plain {output : Entries Value} (h : Named output) (d : WhatsApp.Delivery) :
    (Send.plain output d).Silent := ⟨h.put_sent _, rfl⟩

theorem silent_interactive {output : Entries Value} (h : Named output) (a : Awaited)
    (d : WhatsApp.Delivery) : (Send.interactive a output d).Silent := by
  unfold Send.interactive
  cases d.success with
  | true => exact ⟨h.put_sent _, rfl⟩
  | false => exact ⟨(h.put_sent _).put_error _, rfl⟩

end Finding

open Finding

variable (c : NodeContext) (n : Node) (f : Filled)

/-! ### Messages -/

theorem silent_text : Task.Ensures Silent (Send.text c n f) := by
  unfold Send.text
  refine Task.ensures_then fun text => ?_
  have hn : Named [("message", .str text)] := by simp [Named, names]
  dsimp only
  split <;> simp [silent_missing hn, silent_plain hn]

theorem silent_media : Task.Ensures Silent (Send.media c n f) := by
  unfold Send.media
  refine Task.ensures_then fun url => ?_
  refine Task.ensures_then fun caption => ?_
  have hn : Named [("mediaUrl", .str url), ("mediaType", .str (f.text "media_type")),
    ("caption", .str caption)] := by simp [Named, names]
  dsimp only
  split <;> simp [silent_missing hn, silent_plain hn]

theorem silent_callToAction : Task.Ensures Silent (Send.callToAction c n f) := by
  unfold Send.callToAction
  refine Task.ensures_then fun body => ?_
  refine Task.ensures_then fun label => ?_
  refine Task.ensures_then fun url => ?_
  have hn : Named [("bodyText", .str body), ("displayText", .str label), ("url", .str url)] := by
    simp [Named, names]
  dsimp only
  split <;> simp [silent_missing hn, silent_plain hn]

theorem silent_template : Task.Ensures Silent (Send.template c n f) := by
  unfold Send.template
  refine Task.ensures_then fun name => ?_
  have hn : Named [("templateName", .str name), ("languageCode", .str (f.text "language_code"))] := by
    simp [Named, names]
  dsimp only
  split <;> simp [silent_missing hn, silent_plain hn]

theorem silent_location : Task.Ensures Silent (Send.location c n f) := by
  unfold Send.location
  refine Task.ensures_then fun latitude => ?_
  refine Task.ensures_then fun longitude => ?_
  refine Task.ensures_then fun name => ?_
  refine Task.ensures_then fun address => ?_
  have hn (x y : Value) : Named [("latitude", x), ("longitude", y), ("name", .str name),
      ("address", .str address)] := by simp [Named, names]
  dsimp only
  split
  · split <;> simp [silent_missing (hn _ _), silent_plain (hn _ _)]
  · simp [silent_missing (hn _ _)]

theorem silent_requestLocation : Task.Ensures Silent (Send.requestLocation c n f) := by
  unfold Send.requestLocation
  refine Task.ensures_then fun body => ?_
  have hn : Named [("bodyText", .str body)] := by simp [Named, names]
  dsimp only
  split <;> simp [silent_missing hn, silent_plain hn]

theorem silent_buttons : Task.Ensures Silent (Send.buttons c n f) := by
  unfold Send.buttons
  refine Task.ensures_then fun body => ?_
  refine Task.ensures_then fun items => ?_
  have hn : Named [("bodyText", .str body), ("buttons", .list items)] := by simp [Named, names]
  dsimp only
  split <;> simp [silent_missing hn, silent_interactive hn]

theorem silent_list : Task.Ensures Silent (Send.list c n f) := by
  unfold Send.list
  refine Task.ensures_then fun body => ?_
  refine Task.ensures_then fun sections => ?_
  have hn : Named [("bodyText", .str body), ("sections", sections)] := by simp [Named, names]
  dsimp only
  split <;> simp [silent_missing hn, silent_interactive hn]

theorem silent_form : Task.Ensures Silent (Send.form c n f) := by
  unfold Send.form
  refine Task.ensures_then fun formId => ?_
  refine Task.ensures_then fun header => ?_
  refine Task.ensures_then fun body => ?_
  have hn : Named [("flowId", .str formId), ("header", .str header), ("body", .str body)] := by
    simp [Named, names]
  dsimp only
  split <;> simp [silent_missing hn, silent_interactive hn]

theorem silent_waitForReply : Task.Ensures Silent (Send.waitForReply c n f) := by
  unfold Send.waitForReply
  refine Task.ensures_then fun prompt => ?_
  have hn : Named [("waiting", .bool true),
      ("saveAs", if f.text "save_as" = "" then .null else .str (f.text "save_as"))] := by
    simp [Named, names]
  simp only [Task.ensures_ite]
  refine ⟨fun _ => Task.Ensures.pure ⟨hn, rfl⟩, fun _ => ?_⟩
  split <;> simp [silent_missing hn, silent_interactive hn]

/-! ### Steering -/

theorem silent_trigger : Task.Ensures Silent (Control.trigger c n f) := by
  have hn : Named [("triggered", .bool true)] := by simp [Named, names]
  exact Task.Ensures.pure ⟨hn, rfl⟩

theorem silent_delay : Task.Ensures Silent (Control.delay c n f) := by
  refine Task.ensures_then fun _ => Task.Ensures.pure ⟨?_, rfl⟩
  simp [Named, names]

theorem silent_branch : Task.Ensures Silent (Control.branch c n f) := by
  unfold Control.branch
  refine Task.ensures_then fun target => ?_
  dsimp only
  split
  · exact Task.Ensures.pure ⟨by simp [Named, names], rfl⟩
  · exact Task.Ensures.pure ⟨by simp [Named, names], rfl⟩

theorem silent_stop : Task.Ensures Silent (Control.stop c n f) := by
  unfold Control.stop
  refine Task.ensures_then fun text => ?_
  have hn : Named [("ended", .bool true)] := by simp [Named, names]
  dsimp only
  split
  · refine (Task.ensures_ite _ _ _ _).mpr ⟨fun _ => ?_, fun _ => Task.ensures_then fun d => ?_⟩
    · exact Task.Ensures.pure ⟨hn, rfl⟩
    · exact Task.Ensures.pure ⟨hn.put_sent (.bool d.success), rfl⟩
  · exact Task.Ensures.pure ⟨hn, rfl⟩

/-! ### Services -/

theorem silent_webhook : Task.Ensures Silent (Services.webhook c n f) := by
  refine Task.ensures_then fun url => Task.ensures_then fun headers => ?_
  refine Task.ensures_then fun body => Task.ensures_then fun exchange => ?_
  cases exchange <;> exact Task.Ensures.pure ⟨by simp [Named, names], rfl⟩

theorem silent_sheet : Task.Ensures Silent (Services.sheet c n f) := by
  refine Task.ensures_then fun values => Task.ensures_then fun spreadsheet => ?_
  refine Task.ensures_then fun sheet => Task.ensures_then fun range => ?_
  refine Task.ensures_then fun writing => ?_
  cases writing <;> exact Task.Ensures.pure ⟨by simp [Named, names], rfl⟩

theorem silent_email : Task.Ensures Silent (Services.email c n f) := by
  refine Task.ensures_then fun recipient => Task.ensures_then fun subject => ?_
  refine Task.ensures_then fun body => Task.ensures_then fun senderName => ?_
  refine Task.ensures_then fun posting => ?_
  cases posting <;> exact Task.Ensures.pure ⟨by simp [Named, names], rfl⟩

/-- What is made of a reply to a request is what the world has replied. -/
theorem yields_request {σ : Type} (limit method : Value) (url : String) (headers : Entries Value)
    (body timeout : Value) :
    Task.Yields (fun exchanges e => ∀ status reason data given,
        e = .answered status reason data given → ∃ request reply,
          exchanges = [⟨.http request, .replied reply⟩] ∧ reply.status = status ∧
            Http.phraseOf reply.status = reason ∧ reply.Says data)
      (Http.request (σ := σ) limit method url headers body timeout) := by
  unfold Http.request
  refine Task.yields_attempt_bind fun word _ => ?_
  dsimp only
  split
  · exact Task.Yields.pure fun _ _ _ _ h => nomatch h
  · refine Task.yields_query_bind fun outcome => Task.yields_attempt fun e he => ?_
    rintro status reason data given rfl
    cases outcome with
    | replied reply =>
      obtain ⟨s, hs, he⟩ := bind_eq_ok_iff.mp he
      obtain ⟨rfl, rfl, rfl, -⟩ := Http.Exchange.answered.inj (pure_eq_ok_iff.mp he)
      exact ⟨_, reply, rfl, rfl, rfl, s, hs, rfl⟩
    | timedOut _ => cases he
    | broken _ => cases he

/-- What a request comes to: a reply of the world, which is kept and told as it is, or an error. -/
inductive Finding.Requested (f : Filled) (exchanges : List Exchange) (g : Finding) : Prop
  | replied {method url : String} {request : HttpRequest} {reply : HttpReply} {data : Value}
      (success : g.success = true) (replied : exchanges = [⟨.http request, .replied reply⟩])
      (said : reply.Says data)
      (output : g.output = [("method", .str method), ("url", .str url), ("status", .int reply.status),
        ("statusText", .str (Http.phraseOf reply.status)), ("response", data)])
      (writes : g.writes =
        Services.replyVariables f.replyName reply.status (Http.phraseOf reply.status) data)
  | failed {method url reason : String} (success : g.success = false) (error : g.error = .str reason)
      (output : g.output = [("method", .str method), ("url", .str url)])
      (writes : g.writes = [("http.error", .str reason)])

theorem yields_requested : Task.Yields (Requested f) (Services.http c n f) := by
  unfold Services.http
  refine Task.yields_attempt_bind fun method _ => Task.yields_attempt_bind fun url _ => ?_
  refine Task.yields_attempt_bind fun headers _ => Task.yields_attempt_bind fun credentials _ => ?_
  refine Task.yields_attempt_bind fun headers _ => Task.yields_attempt_bind fun body _ => ?_
  refine (yields_request ..).bind fun exchanges exchange he => ?_
  cases exchange with
  | failed error => exact Task.Yields.pure (.failed rfl rfl rfl rfl)
  | answered status reason data given =>
    obtain ⟨request, reply, rfl, rfl, rfl, said⟩ := he _ _ _ _ rfl
    exact Task.Yields.pure (.replied rfl rfl said rfl rfl)

theorem yields_http : Task.Yields (Told .http f) (Services.http c n f) := by
  refine (yields_requested c n f).mono fun exchanges g hg => ?_
  cases hg with
  | failed success error output writes =>
    exact ⟨by simp [output, Named, names], .error rfl success writes⟩
  | replied success replied said output writes =>
    exact ⟨by simp [output, Named, names], .reply rfl success replied said writes⟩

theorem told_completion :
    Task.Ensures (fun g => ∀ exchanges, Told .completion f exchanges g) (Services.completion c n f) := by
  refine Task.ensures_then fun prompt => Task.ensures_then fun instructions => ?_
  refine Task.ensures_then fun completed => ?_
  cases completed with
  | failed error =>
    exact Task.Ensures.pure fun exchanges => ⟨by simp [Named, names], .nothing rfl⟩
  | answered text tokens provider model =>
    exact Task.Ensures.pure fun exchanges => ⟨by simp [Named, names], .value (Or.inl rfl) rfl rfl⟩

theorem told_database :
    Task.Ensures (fun g => ∀ exchanges, Told .database f exchanges g) (Services.database c n f) := by
  refine Task.ensures_then fun filters => Task.ensures_then fun answer => ?_
  cases answer with
  | failed error =>
    exact Task.Ensures.pure fun exchanges => ⟨by simp [Named, names], .nothing rfl⟩
  | rows rows =>
    exact Task.Ensures.pure fun exchanges =>
      ⟨by simp [Named, names], .value (Or.inr (Or.inl rfl)) rfl rfl⟩

theorem told_transform :
    Task.Ensures (fun g => ∀ exchanges, Told .transform f exchanges g) (Services.transform c n f) := by
  unfold Services.transform
  simp only
  split
  · exact Task.Ensures.pure fun exchanges => ⟨by simp [Named], .nothing rfl⟩
  · exact Task.ensures_throw _ _
  · exact Task.Ensures.pure fun exchanges =>
      ⟨by simp [Named, names], .value (Or.inr (Or.inr rfl)) rfl rfl⟩

/-! ### All kinds -/

/-- A task for a finding that is told whatever was exchanged. -/
theorem yields_of_told {kind : NodeKind} {f : Filled} {x : Handling}
    (h : Task.Ensures (fun g => ∀ exchanges, Told kind f exchanges g) x) :
    Task.Yields (Told kind f) x := h.yields.mono fun exchanges _ hg => hg exchanges

theorem yields_of_silent {kind : NodeKind} {f : Filled} {x : Handling}
    (h : Task.Ensures Silent x) : Task.Yields (Told kind f) x :=
  yields_of_told (h.mono fun _ hg => hg.told kind f)

/-- What every handler tells, and which variables it names. -/
theorem yields_told (kind : NodeKind) : Task.Yields (Told kind f) (kind.handler c n f) := by
  cases kind with
  | trigger => exact yields_of_silent (silent_trigger c n f)
  | message => exact yields_of_silent (silent_text c n f)
  | media => exact yields_of_silent (silent_media c n f)
  | callToAction => exact yields_of_silent (silent_callToAction c n f)
  | template => exact yields_of_silent (silent_template c n f)
  | location => exact yields_of_silent (silent_location c n f)
  | requestLocation => exact yields_of_silent (silent_requestLocation c n f)
  | buttons => exact yields_of_silent (silent_buttons c n f)
  | list => exact yields_of_silent (silent_list c n f)
  | form => exact yields_of_silent (silent_form c n f)
  | waitForReply => exact yields_of_silent (silent_waitForReply c n f)
  | branch => exact yields_of_silent (silent_branch c n f)
  | delay => exact yields_of_silent (silent_delay c n f)
  | stop => exact yields_of_silent (silent_stop c n f)
  | http => exact yields_http c n f
  | webhook => exact yields_of_silent (silent_webhook c n f)
  | sheet => exact yields_of_silent (silent_sheet c n f)
  | email => exact yields_of_silent (silent_email c n f)
  | completion => exact yields_of_told (told_completion c n f)
  | database => exact yields_of_told (told_database c n f)
  | transform => exact yields_of_told (told_transform c n f)

/-! ### Nodes -/

/-- No handler registered for a type of nodes ever comes to a finding. -/
def Registered.Fails (registered : Registered) (type : String) : Prop :=
  ∀ handler, registered.find? type = some handler →
    ∀ c n f, Task.Ensures (fun _ => False) (handler c n f)

theorem Registered.fails_nil (type : String) : Registered.Fails [] type := fun _ h => nomatch h

/-- What is told about a node: that it was passed over, that its handler failed, or what the handler of
its kind tells. -/
inductive Node.Tells (n : Node) (exchanges : List Exchange) (g : Finding) : Prop
  | skipped (eq : g = .skipped n)
  | failed {e : Failure} (eq : g = .ofFailure n e)
  | handled {kind : NodeKind} {f : Filled} (known : NodeKind.ofType? n.type = some kind)
      (filled : n.filled = .ok f) (told : g.Told kind f exchanges)

variable {c n}

theorem yields_handled {handler : Handler} {R : Filled → List Exchange → Finding → Prop}
    (h : ∀ f, Task.Yields (R f) (handler c n f)) :
    Task.Yields (fun exchanges g => ∃ f, n.filled = .ok f ∧ R f exchanges g)
      (handled handler c n) := by
  unfold handled
  refine Task.yields_attempt_bind fun f hf => (h f).bind fun exchanges g hg => ?_
  refine Task.yields_attempt_bind fun _ _ => Task.Yields.pure ?_
  rw [List.append_nil]
  exact ⟨f, hf, hg⟩

/-- A handler that is registered only fails, so what is told is told by a handler of a kind. -/
theorem yields_handlerOf {registered : Registered} {handler : Handler}
    (hfails : registered.Fails n.type) (h : handlerOf? registered n.type = some handler) :
    Task.Yields (fun exchanges g => ∃ kind f, NodeKind.ofType? n.type = some kind ∧
      n.filled = .ok f ∧ g.Told kind f exchanges) (handled handler c n) := by
  unfold handlerOf? at h
  cases hr : registered.find? n.type with
  | some other =>
    rw [hr, Option.some_or] at h
    obtain rfl := Option.some.inj h
    refine (yields_handled fun f => (hfails other hr c n f).yields).mono fun _ _ hg => ?_
    obtain ⟨_, _, hfalse⟩ := hg
    exact hfalse.elim
  | none =>
    rw [hr, Option.none_or] at h
    obtain ⟨kind, hk, rfl⟩ := Option.map_eq_some_iff.mp h
    refine (yields_handled fun f => yields_told c n f kind).mono fun _ _ hg => ?_
    obtain ⟨f, hf, hg⟩ := hg
    exact ⟨kind, f, hk, hf, hg⟩

theorem traces_tells {registered : Registered} (hfails : registered.Fails n.type) :
    (findOut registered c n).Traces n.Tells := by
  unfold findOut
  cases h : handlerOf? registered n.type with
  | none => exact Task.Traces.pure (.skipped rfl)
  | some handler =>
    refine Task.Traces.bind (yields_handlerOf hfails h) fun exchanges r hr => ?_
    cases r with
    | error e => exact Task.Traces.pure (.failed rfl)
    | ok g =>
      obtain ⟨kind, f, hk, hf, hg⟩ := hr g rfl
      refine Task.Traces.pure (.handled hk hf ?_)
      rwa [List.append_nil]

theorem Finding.find?_vars_self (g : Finding) (n : Node) (before : Entries Value) :
    (g.vars n before).find? n.id = some (.object (g.result n).output) :=
  Entries.find?_put_self _ _ _

/-- Executing a node never fails, and what it leaves is what is told about it. -/
theorem traces_told {registered : Registered} (hfails : registered.Fails n.type) :
    (execute registered c n).run.Traces fun exchanges v =>
      ∃ g : Finding, n.Tells exchanges g ∧ v = .ok (g.result n, g.vars n c.scope.vars) := by
  unfold execute
  rw [Task.run_lift_bind]
  refine (traces_tells hfails).bind fun exchanges g hg => Task.Traces.pure ⟨g, ?_, rfl⟩
  rwa [List.append_nil]

end ChatFlow
