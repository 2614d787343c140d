import ChatFlow.Proofs.Node.Steering
import ChatFlow.Proofs.Outside.Exchange
import ChatFlow.Proofs.Value.Parts

/-!
# A question is asked or the path ends

A node that waits for a reply waits only if its question has been delivered: one
message went out and was accepted, and the reply that says so could be read.  If not,
the path ends there.  A node without a question waits for whatever comes and sends
nothing.  `question_asked_or_path_ended` says so of every such node, whatever its
settings are and whatever the world replies.
-/

namespace ChatFlow

/-! ### Replies to a message -/

/-- The body of a reply can be read: it is JSON, or a text in the character set that its header
names. -/
def HttpReply.Readable (r : HttpReply) : Prop :=
  (Json.parseBytes? r.body).isSome = true ∨ ∃ s, r.text = .ok s

/-- A message was accepted, and the reply that says so can be read. -/
def HttpOutcome.Accepts (o : HttpOutcome) : Prop :=
  ∃ r, o = .replied r ∧ r.status < 400 ∧ r.Readable

namespace WhatsApp

/-- What the body of a reply says: what it is as JSON, else as a text. -/
def said (r : HttpReply) : Except Failure Value :=
  match Json.parseBytes? r.body with
  | some v => .ok v
  | none => r.text.map Value.str

theorem readable_iff (r : HttpReply) : r.Readable ↔ ∃ v, said r = .ok v := by
  unfold HttpReply.Readable said
  cases Json.parseBytes? r.body with
  | some v => exact iff_of_true (Or.inl rfl) ⟨v, rfl⟩
  | none =>
    cases r.text with
    | error e =>
      refine iff_of_false ?_ fun ⟨v, h⟩ => nomatch h
      rintro (h | ⟨s, h⟩)
      · cases h
      · cases h
    | ok s => exact iff_of_true (Or.inr ⟨s, rfl⟩) ⟨.str s, rfl⟩

theorem Delivery.ofOutcome_replied (r : HttpReply) :
    ofOutcome (.replied r) = (said r).map fun data =>
      if r.status < 400 then ⟨true, some data, none⟩
      else ⟨false, some data,
        some ("WhatsApp API returned HTTP " ++ String.ofList (Decimal.natChars r.status))⟩ := by
  unfold ofOutcome said
  by_cases h : r.status < 400
  · simp only [if_pos h]
    cases Json.parseBytes? r.body with
    | some v => rfl
    | none => cases r.text <;> rfl
  · simp only [if_neg h]
    cases Json.parseBytes? r.body with
    | some v => rfl
    | none => cases r.text <;> rfl

/-- A delivery succeeds if the message was accepted. -/
theorem Delivery.success_iff (o : HttpOutcome) :
    (∃ d, ofOutcome o = .ok d ∧ d.success = true) ↔ o.Accepts := by
  cases o with
  | replied r =>
    rw [ofOutcome_replied]
    constructor
    · rintro ⟨d, hd, hsuccess⟩
      obtain ⟨data, hdata, rfl⟩ := map_eq_ok_iff.mp hd
      by_cases h : r.status < 400
      · exact ⟨r, rfl, h, (readable_iff r).mpr ⟨data, hdata⟩⟩
      · rw [if_neg h] at hsuccess
        cases hsuccess
    · rintro ⟨r', hr, hstatus, hreadable⟩
      obtain rfl := HttpOutcome.replied.inj hr
      obtain ⟨data, hdata⟩ := (readable_iff r).mp hreadable
      refine ⟨_, map_eq_ok_iff.mpr ⟨data, hdata, rfl⟩, ?_⟩
      rw [if_pos hstatus]
  | timedOut reason =>
    refine iff_of_false ?_ fun ⟨r, h, _⟩ => nomatch h
    rintro ⟨d, hd, hsuccess⟩
    obtain rfl := Except.ok.inj hd
    cases hsuccess
  | broken reason =>
    refine iff_of_false ?_ fun ⟨r, h, _⟩ => nomatch h
    rintro ⟨d, hd, hsuccess⟩
    obtain rfl := Except.ok.inj hd
    cases hsuccess

/-- The exchange by which a message is sent. -/
def Account.exchange (a : Account) (payload : Value) (o : HttpOutcome) : Exchange :=
  ⟨.http (a.request payload), o⟩

/-- One message was exchanged, and it was accepted. -/
def Account.Accepted (a : Account) (exchanges : List Exchange) : Prop :=
  ∃ payload o, exchanges = [a.exchange payload o] ∧ o.Accepts

/-- One message went out after these questions, it was accepted, and the reply can be read. -/
def Account.AcceptedIn (a : Account) (world : World) (asked asked' : List Query) : Prop :=
  ∃ payload reply, asked' = asked ++ [.http (a.request payload)] ∧
    world asked (.http (a.request payload)) = some (.replied reply) ∧ reply.status < 400 ∧
    reply.Readable

/-- No more than one message was exchanged, and nothing else. -/
def Account.SentAtMostOne (a : Account) (exchanges : List Exchange) : Prop :=
  exchanges = [] ∨ ∃ payload o, exchanges = [a.exchange payload o]

theorem Account.not_accepted_nil (a : Account) : ¬ a.Accepted [] := by
  rintro ⟨payload, o, h, -⟩
  cases h

theorem Account.accepted_exchange_iff (a : Account) (payload : Value) (o : HttpOutcome) :
    a.Accepted [a.exchange payload o] ↔ o.Accepts := by
  constructor
  · rintro ⟨payload', o', h, ho⟩
    have hreply : HEq o o' := (Sigma.mk.inj (List.cons.inj h).1).2
    rwa [eq_of_heq hreply]
  · exact fun ho => ⟨payload, o, rfl, ho⟩

/-- The exchanges of a run tell whether its message was accepted. -/
theorem Account.acceptedIn_iff (a : Account) {world : World} {asked asked' : List Query}
    {exchanges : List Exchange} (hasked : asked' = asked ++ exchanges.map Sigma.fst)
    (hgives : world.Gives asked exchanges) :
    a.AcceptedIn world asked asked' ↔ a.Accepted exchanges := by
  subst hasked
  constructor
  · rintro ⟨payload, reply, hq, hreply, hstatus, hreadable⟩
    have hmap : exchanges.map Sigma.fst = [.http (a.request payload)] :=
      List.append_cancel_left hq
    obtain ⟨⟨q, r⟩, rfl, rfl⟩ := List.map_eq_singleton_iff.mp hmap
    obtain rfl : r = .replied reply := Option.some.inj (hgives.1.symm.trans hreply)
    exact ⟨payload, _, rfl, reply, rfl, hstatus, hreadable⟩
  · rintro ⟨payload, o, rfl, reply, rfl, hstatus, hreadable⟩
    exact ⟨payload, reply, rfl, hgives.1, hstatus, hreadable⟩

theorem Account.SentAtMostOne.asked {a : Account} {exchanges : List Exchange}
    (h : a.SentAtMostOne exchanges) (asked : List Query) :
    asked ++ exchanges.map Sigma.fst = asked ∨
      ∃ payload, asked ++ exchanges.map Sigma.fst = asked ++ [.http (a.request payload)] := by
  rcases h with rfl | ⟨payload, o, rfl⟩
  · exact Or.inl (List.append_nil asked)
  · exact Or.inr ⟨payload, rfl⟩

/-- What sending a message has to do with the replies: it succeeds if the one message was accepted. -/
structure Sends (a : Account) (exchanges : List Exchange) (r : Except Failure Delivery) : Prop where
  atMostOne : a.SentAtMostOne exchanges
  success : (∃ d, r = .ok d ∧ d.success = true) ↔ a.Accepted exchanges

theorem traces_send {σ : Type} (a : Account) {payload : Value} (hto : payload.isObject = true) :
    (send (σ := σ) a payload).run.Traces (Sends a) := by
  unfold send
  split
  · refine Task.traces_query_bind fun o => ?_
    have hsent : a.SentAtMostOne [a.exchange payload o] := Or.inr ⟨payload, o, rfl⟩
    have hiff := (Delivery.success_iff o).trans (a.accepted_exchange_iff payload o).symm
    refine Task.traces_attempt_bind (fun d hd => ?_) fun e he => ⟨hsent, ?_⟩
    · have hsends : Sends a [a.exchange payload o] (.ok d) := ⟨hsent, by rwa [hd] at hiff⟩
      split
      · rw [Value.get_of_isObject hto]
        exact hsends
      · exact hsends
    · rwa [he] at hiff
  · refine Task.traces_run_pure ⟨Or.inl rfl, iff_of_false ?_ a.not_accepted_nil⟩
    rintro ⟨d, hd, hsuccess⟩
    obtain rfl := Except.ok.inj hd
    cases hsuccess

theorem exists_of_buttonPayload {recipient body buttons header footer payload : Value}
    (h : buttonPayload recipient body buttons header footer = .ok payload) :
    ∃ content, payload = interactive recipient content := by
  obtain ⟨first, -, h⟩ := bind_eq_ok_iff.mp h
  obtain ⟨parts, -, h⟩ := bind_eq_ok_iff.mp h
  obtain rfl := pure_eq_ok_iff.mp h
  exact ⟨_, rfl⟩

theorem exists_of_listPayload {recipient body button sections header footer payload : Value}
    (h : listPayload recipient body button sections header footer = .ok payload) :
    ∃ content, payload = interactive recipient content := by
  obtain ⟨given, -, h⟩ := bind_eq_ok_iff.mp h
  obtain ⟨parts, -, h⟩ := bind_eq_ok_iff.mp h
  obtain rfl := pure_eq_ok_iff.mp h
  exact ⟨_, rfl⟩

end WhatsApp

/-! ### Handlers that ask a question -/

/-- What comes of a handler that asks a question, unless there is none to ask: it succeeds if its one
message was accepted. -/
structure Inquires (a : WhatsApp.Account) (unasked : Prop) (exchanges : List Exchange)
    (r : Except Failure Finding) : Prop where
  atMostOne : a.SentAtMostOne exchanges
  nothing : unasked → exchanges = []
  success : (∃ g, r = .ok g ∧ g.success = true) ↔ a.Accepted exchanges ∨ unasked
  /-- What it says of an error is a text. -/
  worded : ∀ g, r = .ok g → ∃ e, g.errorText = .ok e

section

variable {a : WhatsApp.Account} {unasked : Prop} (c : NodeContext) (n : Node) (f : Filled)

/-- Before anything is sent a handler can only fail. -/
theorem inquires_nil (h : ¬ unasked) {r : Except Failure Finding}
    (hr : ∀ g, r = .ok g → g.success = false ∧ ∃ e, g.errorText = .ok e) :
    Inquires a unasked [] r where
  atMostOne := Or.inl rfl
  nothing _ := rfl
  success := by
    refine iff_of_false ?_ (not_or.mpr ⟨a.not_accepted_nil, h⟩)
    rintro ⟨g, hg, hsuccess⟩
    rw [(hr g hg).1] at hsuccess
    cases hsuccess
  worded g hg := (hr g hg).2

theorem inquires_error (h : ¬ unasked) (e : Failure) : Inquires a unasked [] (.error e) :=
  inquires_nil h fun _ hg => nomatch hg

/-- What is computed before anything is sent can only fail. -/
theorem inquires_attempt_bind (h : ¬ unasked) {α : Type} {r : Except Failure α}
    {g : α → Handling} (hg : ∀ b, r = .ok b → (g b).run.Traces (Inquires a unasked)) :
    (Task.attempt r >>= g).run.Traces (Inquires a unasked) :=
  Task.traces_attempt_bind hg fun e _ => inquires_error h e

theorem inquires_missing (h : ¬ unasked) (output : Entries Value) (reason : String) :
    Inquires a unasked [] (.ok (.missing output reason true)) := by
  refine inquires_nil h ?_
  rintro _ ⟨⟩
  exact ⟨rfl, some reason, rfl⟩

theorem success_interactive (k : Awaited) (output : Entries Value) (d : WhatsApp.Delivery) :
    (Send.interactive k output d).success = d.success := by
  unfold Send.interactive
  cases hd : d.success <;> rfl

theorem errorText_interactive (k : Awaited) (output : Entries Value) (d : WhatsApp.Delivery) :
    ∃ e, (Send.interactive k output d).errorText = .ok e := by
  unfold Send.interactive
  cases d.success with
  | true => exact ⟨none, rfl⟩
  | false =>
    cases d.error with
    | none => exact ⟨none, rfl⟩
    | some e => exact ⟨some e, rfl⟩

/-- A message, and what is made of its delivery. -/
theorem traces_sent (h : ¬ unasked) (k : Awaited) (output : Entries Value) {payload : Value}
    (hto : payload.isObject = true) :
    (Send.send c payload >>= fun d => pure (Send.interactive k output d)).run.Traces
      (Inquires c.accounts.whatsapp unasked) := by
  refine (WhatsApp.traces_send _ hto).run_bind (fun exchanges d hd => ?_) fun exchanges e he => ?_
  · refine Task.traces_run_pure ?_
    rw [List.append_nil]
    refine ⟨hd.atMostOne, fun hu => absurd hu h, ?_, fun g hg => ?_⟩
    · rw [or_iff_left h, ← hd.success]
      constructor
      · rintro ⟨g, hg, hsuccess⟩
        obtain rfl := Except.ok.inj hg
        exact ⟨d, rfl, (success_interactive k output d).symm.trans hsuccess⟩
      · rintro ⟨d', hd', hsuccess⟩
        obtain rfl := Except.ok.inj hd'
        exact ⟨_, rfl, (success_interactive k output d).trans hsuccess⟩
    · obtain rfl := Except.ok.inj hg
      exact errorText_interactive k output d
  · refine ⟨he.atMostOne, fun hu => absurd hu h, ?_, fun g hg => nomatch hg⟩
    rw [or_iff_left h, ← he.success]
    refine iff_of_false ?_ ?_
    · rintro ⟨g, hg, -⟩
      cases hg
    · rintro ⟨d, hd, -⟩
      cases hd

theorem traces_buttons (h : ¬ unasked) :
    (Send.buttons c n f).run.Traces (Inquires c.accounts.whatsapp unasked) := by
  unfold Send.buttons
  refine inquires_attempt_bind h fun body _ => ?_
  refine inquires_attempt_bind h fun items _ => ?_
  dsimp only
  split
  · split
    · exact Task.traces_run_pure (inquires_missing h _ _)
    · refine inquires_attempt_bind h fun header _ => ?_
      refine inquires_attempt_bind h fun footer _ => ?_
      refine inquires_attempt_bind h fun payload hp => ?_
      obtain ⟨content, rfl⟩ := WhatsApp.exists_of_buttonPayload hp
      exact traces_sent c h _ _ rfl
  · exact Task.traces_run_pure (inquires_missing h _ _)

theorem traces_list (h : ¬ unasked) :
    (Send.list c n f).run.Traces (Inquires c.accounts.whatsapp unasked) := by
  unfold Send.list
  refine inquires_attempt_bind h fun body _ => ?_
  refine inquires_attempt_bind h fun sections _ => ?_
  dsimp only
  split
  · split
    · exact Task.traces_run_pure (inquires_missing h _ _)
    · refine inquires_attempt_bind h fun label _ => ?_
      refine inquires_attempt_bind h fun header _ => ?_
      refine inquires_attempt_bind h fun footer _ => ?_
      refine inquires_attempt_bind h fun payload hp => ?_
      obtain ⟨content, rfl⟩ := WhatsApp.exists_of_listPayload hp
      exact traces_sent c h _ _ rfl
  · exact Task.traces_run_pure (inquires_missing h _ _)

theorem traces_form (h : ¬ unasked) :
    (Send.form c n f).run.Traces (Inquires c.accounts.whatsapp unasked) := by
  unfold Send.form
  refine inquires_attempt_bind h fun formId _ => ?_
  refine inquires_attempt_bind h fun header _ => ?_
  refine inquires_attempt_bind h fun body _ => ?_
  dsimp only
  split
  · split
    · exact Task.traces_run_pure (inquires_missing h _ _)
    · refine inquires_attempt_bind h fun footer _ => ?_
      refine inquires_attempt_bind h fun token _ => ?_
      refine inquires_attempt_bind h fun label _ => ?_
      refine inquires_attempt_bind h fun screen _ => ?_
      refine inquires_attempt_bind h fun data _ => ?_
      exact traces_sent c h _ _ rfl
  · exact Task.traces_run_pure (inquires_missing h _ _)

/-- A question that is empty once its templates are filled is not asked. -/
theorem traces_waitForReply : (Send.waitForReply c n f).run.Traces
    (Inquires c.accounts.whatsapp (c.scope.fill (f.text "text") = .ok "")) := by
  unfold Send.waitForReply
  refine Task.traces_attempt_bind (fun prompt hprompt => ?_) fun e he => ?_
  · rw [hprompt]
    split
    · rename_i hempty
      refine Task.traces_run_pure ⟨Or.inl rfl, fun _ => rfl, ?_, fun g hg => ?_⟩
      · exact iff_of_true ⟨_, rfl, rfl⟩ (Or.inr (congrArg Except.ok hempty))
      · obtain rfl := Except.ok.inj hg
        exact ⟨none, rfl⟩
    · rename_i hasked
      have hasked : ¬ (Except.ok prompt : Except Failure String) = .ok "" :=
        fun h => hasked (Except.ok.inj h)
      split
      · exact traces_sent c hasked _ _ rfl
      · exact Task.traces_run_pure (inquires_missing hasked _ _)
  · rw [he]
    exact inquires_error (fun h => nomatch h) e

variable {c n f}

/-- A node that waits for whatever comes: the question in its settings is empty once its templates are
filled. -/
def Node.Promptless (c : NodeContext) (n : Node) : Prop :=
  n.type = "wait_for_reply" ∧ ∃ f, n.filled = .ok f ∧ c.scope.fill (f.text "text") = .ok ""

theorem NodeKind.type_of_waitForReply {type : String} (h : ofType? type = some .waitForReply) :
    type = "wait_for_reply" := by
  have htypes : ∀ entry ∈ types, entry.2 = waitForReply → entry.1 = "wait_for_reply" := by decide
  exact htypes _ (mem_types h) rfl

theorem Node.not_promptless {kind : NodeKind} (hk : NodeKind.ofType? n.type = some kind)
    (h : kind ≠ .waitForReply) : ¬ n.Promptless c := by
  rintro ⟨ht, -⟩
  rw [ht] at hk
  exact h (Option.some.inj hk).symm

theorem Node.promptless_iff (hk : NodeKind.ofType? n.type = some .waitForReply)
    (hf : n.filled = .ok f) : n.Promptless c ↔ c.scope.fill (f.text "text") = .ok "" := by
  constructor
  · rintro ⟨-, f', hf', h⟩
    obtain rfl := Except.ok.inj (hf.symm.trans hf')
    exact h
  · exact fun h => ⟨NodeKind.type_of_waitForReply hk, f, hf, h⟩

/-- Every handler of nodes that wait for a reply. -/
theorem traces_handler {kind : NodeKind} (hk : NodeKind.ofType? n.type = some kind)
    (ha : kind.awaited?.isSome = true) (hf : n.filled = .ok f) :
    (kind.handler c n f).run.Traces (Inquires c.accounts.whatsapp (n.Promptless c)) := by
  cases kind with
  | buttons => exact traces_buttons c n f (Node.not_promptless hk (by decide))
  | list => exact traces_list c n f (Node.not_promptless hk (by decide))
  | form => exact traces_form c n f (Node.not_promptless hk (by decide))
  | waitForReply =>
    rw [propext (Node.promptless_iff hk hf)]
    exact traces_waitForReply c n f
  | _ => cases ha

theorem traces_handled {kind : NodeKind} (hk : NodeKind.ofType? n.type = some kind)
    (ha : kind.awaited?.isSome = true) :
    (handled kind.handler c n).run.Traces (Inquires c.accounts.whatsapp (n.Promptless c)) := by
  unfold handled
  refine Task.traces_attempt_bind (fun f hf => ?_) fun e he => inquires_error ?_ e
  · refine (traces_handler hk ha hf).run_bind (fun exchanges g hg => ?_) fun _ _ he => he
    obtain ⟨e, he⟩ := hg.worded g rfl
    rw [he]
    refine Task.traces_run_pure ?_
    rw [List.append_nil]
    exact hg
  · rintro ⟨-, f, hf, -⟩
    rw [he] at hf
    cases hf

/-- What is found out about a node that waits for a reply. -/
structure Finding.Inquires (a : WhatsApp.Account) (unasked : Prop) (exchanges : List Exchange)
    (g : Finding) : Prop where
  atMostOne : a.SentAtMostOne exchanges
  nothing : unasked → exchanges = []
  success : g.success = true ↔ a.Accepted exchanges ∨ unasked

theorem traces_findOut {kind : NodeKind} (hk : NodeKind.ofType? n.type = some kind)
    (ha : kind.awaited?.isSome = true) : (findOut [] c n).Traces
      (Finding.Inquires c.accounts.whatsapp (n.Promptless c)) := by
  unfold findOut
  simp only [handlerOf?, hk]
  refine (traces_handled hk ha).bind fun exchanges r hr => ?_
  cases r with
  | ok g =>
    refine Task.Traces.pure ?_
    rw [List.append_nil]
    refine ⟨hr.atMostOne, hr.nothing, Iff.trans ?_ hr.success⟩
    constructor
    · exact fun h => ⟨g, rfl, h⟩
    · rintro ⟨g', hg', h⟩
      rwa [Except.ok.inj hg']
  | error e =>
    refine Task.Traces.pure ?_
    rw [List.append_nil]
    refine ⟨hr.atMostOne, hr.nothing, Iff.trans ?_ hr.success⟩
    refine iff_of_false Bool.false_ne_true ?_
    rintro ⟨g, hg, -⟩
    cases hg

/-! ### Nodes that wait for a reply -/

/-- The types of nodes that wait for a reply, and what they wait for. -/
def suspendingTypes : List (String × Awaited) :=
  [("send_button", .button), ("button_message", .button), ("send_list", .list),
   ("list_message", .list), ("send_flow", .form), ("wait_for_reply", .message)]

theorem Node.awaited?_eq (n : Node) : n.awaited? = suspendingTypes.lookup n.type := by
  have hknown : ∀ entry ∈ NodeKind.types, entry.2.awaited? = suspendingTypes.lookup entry.1 := by
    decide
  have htypes : ∀ entry ∈ suspendingTypes, NodeKind.ofType? entry.1 ≠ none := by decide
  unfold Node.awaited?
  cases hk : NodeKind.ofType? n.type with
  | some kind => exact hknown _ (NodeKind.mem_types hk)
  | none =>
    cases ha : suspendingTypes.lookup n.type with
    | none => rfl
    | some a =>
      obtain ⟨before, after, hsplit, -⟩ := List.lookup_eq_some_iff.mp ha
      have hmem : (n.type, a) ∈ suspendingTypes := by
        rw [hsplit]
        exact List.mem_append_right before List.mem_cons_self
      exact absurd hk (htypes _ hmem)

theorem NodeKind.suspends_of_awaited? {kind : NodeKind} (h : kind.awaited?.isSome = true) :
    kind.suspends = true := by
  cases kind <;> first | rfl | cases h

/-- After a node that waits for a reply the run waits or ends. -/
theorem Node.Steers.waits {g : Finding} (h : n.Steers c g) {k : Awaited}
    (hk : n.awaited? = some k) : g.Waits k := by
  cases h with
  | skipped unknown passes =>
    rw [Node.awaited?, unknown] at hk
    cases hk
  | failed known success awaited next stop =>
    rw [Node.awaited?, known] at hk
    have hkind : NodeKind.awaited? _ = some k := hk
    refine .of_failure success awaited next (stop.trans (NodeKind.suspends_of_awaited? ?_))
    rw [hkind]
    rfl
  | handled known filled steers =>
    rw [Node.awaited?, known] at hk
    have hkind : NodeKind.awaited? _ = some k := hk
    unfold NodeKind.Steers at steers
    rw [hkind] at steers
    exact steers

theorem traces_execute {kind : NodeKind} (hk : NodeKind.ofType? n.type = some kind)
    (ha : kind.awaited?.isSome = true) : (execute [] c n).run.Traces fun exchanges v =>
      ∃ g : Finding, g.Inquires c.accounts.whatsapp (n.Promptless c) exchanges ∧ n.Steers c g ∧
        v = .ok (g.result n, g.vars n c.scope.vars) := by
  unfold execute
  rw [Task.run_lift_bind]
  refine ((traces_findOut hk ha).and_always (always_findOut c n)).bind fun exchanges g hg => ?_
  refine Task.Traces.pure ⟨g, ?_, hg.2, rfl⟩
  rw [List.append_nil]
  exact hg.1

/-- A finding after which the run waits or ends tells which by what it has inquired. -/
theorem Finding.Inquires.waits_or_ends {a : WhatsApp.Account} {unasked : Prop}
    {exchanges : List Exchange} {g : Finding} (hg : g.Inquires a unasked exchanges) {k : Awaited}
    (hwaits : g.Waits k) {world : World} {asked asked' : List Query}
    (hasked : asked' = asked ++ exchanges.map Sigma.fst) (hgives : world.Gives asked exchanges) :
    (g.success = true ∧ g.awaited = some k ∧ g.stop = false ∧
        (a.AcceptedIn world asked asked' ∨ unasked ∧ asked' = asked)) ∨
      (g.success = false ∧ g.awaited = none ∧ g.stop = true ∧
        ¬ a.AcceptedIn world asked asked' ∧ ¬ unasked) := by
  have hiff := hg.success
  rw [← a.acceptedIn_iff hasked hgives] at hiff
  cases hs : g.success with
  | true =>
    obtain ⟨hwaiting, hstop⟩ := hwaits.waits hs
    refine Or.inl ⟨rfl, hwaiting, hstop, (hiff.mp hs).imp_right fun hu => ⟨hu, ?_⟩⟩
    rw [hasked, hg.nothing hu]
    exact List.append_nil asked
  | false =>
    obtain ⟨hwaiting, hstop⟩ := hwaits.ends hs
    obtain ⟨hnot, hu⟩ := not_or.mp (mt hiff.mpr (Bool.eq_false_iff.mp hs))
    exact Or.inr ⟨rfl, hwaiting, hstop, hnot, hu⟩

/-- **A node that waits for a reply waits only if its question was delivered.**  Executing it comes to
one of two results.  It did what it is for and waits, if one message went out and was accepted with a
reply that can be read, or if it has no question, and then nothing went out; or it failed and ends the
path.  A node of any other type never waits. -/
theorem question_asked_or_path_ended (c : NodeContext) (n : Node) (world : World)
    (s : Database.Address) (asked : List Query) :
    let x := (execute [] c n).run.run world s asked
    (∀ k, suspendingTypes.lookup n.type = some k → ∀ v, x.outcome = .inr v →
      ∃ r vars, v = .ok (r, vars) ∧
        ((r.success = true ∧ r.awaited = some k ∧ r.stop = false ∧
            (c.accounts.whatsapp.AcceptedIn world asked x.asked ∨
              n.Promptless c ∧ x.asked = asked)) ∨
          (r.success = false ∧ r.awaited = none ∧ r.stop = true ∧
            ¬ c.accounts.whatsapp.AcceptedIn world asked x.asked ∧ ¬ n.Promptless c)) ∧
        (x.asked = asked ∨
          ∃ payload, x.asked = asked ++ [.http (c.accounts.whatsapp.request payload)])) ∧
    (suspendingTypes.lookup n.type = none → ∀ v, x.outcome = .inr v →
      ∃ r vars, v = .ok (r, vars) ∧ r.awaited = none) ∧
    (world.Replies → ∃ v, x.outcome = .inr v) := by
  intro x
  have hrun {v : Except Failure (NodeResult × Entries Value)} (hv : x.outcome = .inr v) :
      (execute [] c n).run.run world s asked = ⟨x.state, x.asked, .inr v⟩ := by
    rw [← hv]
  refine ⟨fun k hk v hv => ?_, fun hk v hv => ?_, fun hw => ?_⟩
  · rw [← n.awaited?_eq] at hk
    obtain ⟨kind, hkind, hawaited⟩ := Option.bind_eq_some_iff.mp hk
    have hsome : kind.awaited?.isSome = true := by
      rw [hawaited]
      rfl
    obtain ⟨exchanges, hasked, hgives, g, hg, hsteers, rfl⟩ :=
      (traces_execute hkind hsome).of_run (hrun hv)
    refine ⟨g.result n, g.vars n c.scope.vars, rfl,
      hg.waits_or_ends (hsteers.waits hk) hasked hgives, ?_⟩
    rw [hasked]
    exact hg.atMostOne.asked asked
  · rw [← n.awaited?_eq] at hk
    obtain ⟨g, hsteers, rfl⟩ := (always_execute c n).of_run (hrun hv)
    refine ⟨g.result n, g.vars n c.scope.vars, rfl, ?_⟩
    show g.awaited = none
    cases hwaiting : g.awaited with
    | none => rfl
    | some k =>
      rw [(hsteers.awaited hwaiting).1] at hk
      cases hk
  · obtain ⟨s', asked', v, hv⟩ := (execute [] c n).run.run_ends s asked hw
    exact ⟨v, congrArg Task.Progress.outcome hv⟩

end

/-- What a node can see of a service that has an account for messages and nothing else. -/
def NodeContext.sending : NodeContext where
  accounts :=
    { whatsapp := ⟨"1", "t", "v17.0", .null⟩, httpTimeout := .null, sheet := ⟨"", .null⟩,
      completion := ⟨"", "", .null⟩, email := ⟨"", "", .null⟩, database := none, secrets := ⟨"", ""⟩ }
  now := ⟨0⟩
  document := ⟨[], [], none⟩
  scope := ⟨[("user.phone", .str "15550001111")], ⟨⟨0⟩, "UTC", ""⟩⟩

/-- A node that has the user choose. -/
def Node.inquiring : Node :=
  ⟨"b", "send_button", [("bodyText", .str "Choose"),
    ("buttons", .list [.object [("id", .str "yes"), ("text", .str "Yes")]])], none, "", []⟩

/-- A world in which every request is answered in this way. -/
def World.answering (reply : HttpReply) : World := fun _ q =>
  match q with
  | .http _ => some (.replied reply)
  | _ => none

/-- What comes of that node in such a world. -/
def Node.inquired (reply : HttpReply) :
    Task.Progress Database.Address (Except Failure (NodeResult × Entries Value)) :=
  (execute [] .sending .inquiring).run.run (.answering reply) none []

/-- A reply that says that the message was accepted. -/
def HttpReply.accepted : HttpReply := ⟨200, [("content-type", "application/json")], "true"⟩

theorem Node.inquired_accepted : ∃ request r vars,
    Node.inquired .accepted = ⟨none, [.http request], .inr (.ok (r, vars))⟩ ∧ r.success = true :=
  ⟨_, _, _, by with_unfolding_all rfl, rfl⟩

/-- The run waits for a button, since the question was accepted. -/
theorem question_asked_or_path_ended_inquiring : ∃ r vars,
    (Node.inquired .accepted).outcome = .inr (.ok (r, vars)) ∧ r.awaited = some .button ∧
      r.stop = false ∧ NodeContext.sending.accounts.whatsapp.AcceptedIn (.answering .accepted) []
        (Node.inquired .accepted).asked := by
  obtain ⟨request, r, vars, hrun, hsuccess⟩ := Node.inquired_accepted
  have houtcome : (Node.inquired .accepted).outcome = .inr (.ok (r, vars)) := by rw [hrun]
  obtain ⟨hwaits, -, -⟩ :=
    question_asked_or_path_ended .sending .inquiring (.answering .accepted) none []
  obtain ⟨r', vars', hr, h, -⟩ := hwaits .button rfl _ houtcome
  obtain ⟨rfl, rfl⟩ := Prod.mk.inj (Except.ok.inj hr)
  refine ⟨r, vars, houtcome, ?_⟩
  rcases h with ⟨-, hawaited, hstop, haccepted | ⟨-, hasked⟩⟩ | ⟨hfailure, -⟩
  · exact ⟨hawaited, hstop, haccepted⟩
  · have hasked : (Node.inquired .accepted).asked = [] := hasked
    rw [hrun] at hasked
    cases hasked
  · rw [hsuccess] at hfailure
    cases hfailure

/-- A reply that says so in a character set with two orders of bytes, but not in which of them. -/
def HttpReply.unmarked : HttpReply :=
  ⟨200, [("content-type", "text/plain; charset=utf-16")], "accepted"⟩

/-- The question went out and was accepted, and yet the path ends. -/
theorem accepted_question_ends_path : ∃ request r vars,
    Node.inquired .unmarked = ⟨none, [.http request], .inr (.ok (r, vars))⟩ ∧
      World.answering .unmarked [] (.http request) = some (.replied .unmarked) ∧
      HttpReply.unmarked.status < 400 ∧ suspendingTypes.lookup Node.inquiring.type = some .button ∧
      r.success = false ∧ r.awaited = none ∧ r.stop = true :=
  ⟨_, _, _, by with_unfolding_all rfl, rfl, by decide, rfl, rfl, rfl, rfl⟩

end ChatFlow
