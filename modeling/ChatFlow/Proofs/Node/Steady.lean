import ChatFlow.Node.Execute
import ChatFlow.Proofs.Outside.Steady

/-!
# Nodes in a world that replies always in the same way

Of all handlers only the one for queries to the database reads or writes anything
that it shares with others, and that is the address of the database.  So in a world
whose replies depend on the question only, what executing a node comes to depends on
what the node can see and on what the address of the database is found to be
(`execute_steady`).
-/

namespace ChatFlow

/-- What a handler comes to in a world that replies in this way depends only on what it can see and
on what the address of the database is found to be. -/
def Handler.Steady (reply : (q : Query) → q.Reply) (handler : Handler) : Prop :=
  ∀ c n f, (handler c n f).run.Steady reply (Database.found c.accounts.secrets reply)

/-- The same of a way to execute nodes. -/
def Executor.Steady (reply : (q : Query) → q.Reply) (executor : Executor) : Prop :=
  ∀ c n, (executor c n).run.Steady reply (Database.found c.accounts.secrets reply)

section

variable (c : NodeContext) (n : Node) (f : Filled)

/-! ### Handlers that share nothing -/

/-- A message, and what is made of its delivery. -/
theorem stateless_sent (payload : Value) (g : WhatsApp.Delivery → Finding) :
    (Send.send c payload >>= fun d => pure (g d)).run.Stateless :=
  .run_bind (WhatsApp.send_stateless _ payload) fun _ => Task.stateless_run_pure _

/-- A part that only fills templates or makes something of what was filled. -/
theorem stateless_filled {α : Type} (r : Except Failure α) {g : α → Handling}
    (hg : ∀ a, (g a).run.Stateless) : (Task.attempt r >>= g).run.Stateless :=
  .run_bind (Task.stateless_run_attempt r) hg

theorem stateless_coordinate (v : Value) {g : Option Float → Handling}
    (hg : ∀ x, (g x).run.Stateless) : (Send.coordinate c v >>= g).run.Stateless :=
  .run_bind (.run_bind (Task.stateless_run_attempt _) fun _ => Task.stateless_run_pure _) hg

theorem stateless_text : (Send.text c n f).run.Stateless := by
  unfold Send.text
  refine stateless_filled _ fun text => ?_
  dsimp only
  split
  · split
    · exact Task.stateless_run_pure _
    · exact stateless_sent c _ _
  · exact Task.stateless_run_pure _

theorem stateless_media : (Send.media c n f).run.Stateless := by
  unfold Send.media
  refine stateless_filled _ fun url => ?_
  refine stateless_filled _ fun caption => ?_
  dsimp only
  split
  · split
    · exact Task.stateless_run_pure _
    · exact stateless_filled _ fun filename => stateless_filled _ fun payload =>
        stateless_sent c payload _
  · exact Task.stateless_run_pure _

theorem stateless_callToAction : (Send.callToAction c n f).run.Stateless := by
  unfold Send.callToAction
  refine stateless_filled _ fun body => ?_
  refine stateless_filled _ fun label => ?_
  refine stateless_filled _ fun url => ?_
  dsimp only
  split
  · split
    · exact Task.stateless_run_pure _
    · exact stateless_filled _ fun header => stateless_filled _ fun footer => stateless_sent c _ _
  · exact Task.stateless_run_pure _

theorem stateless_template : (Send.template c n f).run.Stateless := by
  unfold Send.template
  refine stateless_filled _ fun name => ?_
  dsimp only
  split
  · split
    · exact Task.stateless_run_pure _
    · exact stateless_filled _ fun components => stateless_sent c _ _
  · exact Task.stateless_run_pure _

theorem stateless_location : (Send.location c n f).run.Stateless := by
  unfold Send.location
  refine stateless_coordinate c _ fun latitude => stateless_coordinate c _ fun longitude => ?_
  refine stateless_filled _ fun name => stateless_filled _ fun address => ?_
  dsimp only
  split
  · split
    · exact stateless_sent c _ _
    · exact Task.stateless_run_pure _
  · exact Task.stateless_run_pure _

theorem stateless_requestLocation : (Send.requestLocation c n f).run.Stateless := by
  unfold Send.requestLocation
  refine stateless_filled _ fun body => ?_
  dsimp only
  split
  · exact stateless_sent c _ _
  · exact Task.stateless_run_pure _

theorem stateless_buttons : (Send.buttons c n f).run.Stateless := by
  unfold Send.buttons
  refine stateless_filled _ fun body => ?_
  refine stateless_filled _ fun items => ?_
  dsimp only
  split
  · split
    · exact Task.stateless_run_pure _
    · exact stateless_filled _ fun header => stateless_filled _ fun footer =>
        stateless_filled _ fun payload => stateless_sent c payload _
  · exact Task.stateless_run_pure _

theorem stateless_list : (Send.list c n f).run.Stateless := by
  unfold Send.list
  refine stateless_filled _ fun body => ?_
  refine stateless_filled _ fun sections => ?_
  dsimp only
  split
  · split
    · exact Task.stateless_run_pure _
    · exact stateless_filled _ fun label => stateless_filled _ fun header =>
        stateless_filled _ fun footer => stateless_filled _ fun payload => stateless_sent c payload _
  · exact Task.stateless_run_pure _

theorem stateless_form : (Send.form c n f).run.Stateless := by
  unfold Send.form
  refine stateless_filled _ fun formId => ?_
  refine stateless_filled _ fun header => ?_
  refine stateless_filled _ fun body => ?_
  dsimp only
  split
  · split
    · exact Task.stateless_run_pure _
    · exact stateless_filled _ fun footer => stateless_filled _ fun token =>
        stateless_filled _ fun label => stateless_filled _ fun screen =>
          stateless_filled _ fun data => stateless_sent c _ _
  · exact Task.stateless_run_pure _

theorem stateless_waitForReply : (Send.waitForReply c n f).run.Stateless := by
  unfold Send.waitForReply
  refine stateless_filled _ fun prompt => ?_
  split
  · exact Task.stateless_run_pure _
  · split
    · exact stateless_sent c _ _
    · exact Task.stateless_run_pure _

theorem stateless_delay : (Control.delay c n f).run.Stateless :=
  .run_query _ fun _ => Task.stateless_run_pure _

theorem stateless_branch : (Control.branch c n f).run.Stateless := by
  unfold Control.branch
  refine .run_bind (Task.stateless_run_attempt _) fun target => ?_
  dsimp only
  split <;> exact Task.stateless_run_pure _

theorem stateless_stop : (Control.stop c n f).run.Stateless := by
  unfold Control.stop
  refine stateless_filled _ fun text => ?_
  dsimp only
  split
  · split
    · exact Task.stateless_run_pure _
    · exact stateless_sent c _ _
  · exact Task.stateless_run_pure _

theorem stateless_http : (Services.http c n f).run.Stateless := by
  unfold Services.http
  refine stateless_filled _ fun method => ?_
  refine stateless_filled _ fun url => ?_
  refine stateless_filled _ fun headers => ?_
  refine stateless_filled _ fun credentials => ?_
  refine stateless_filled _ fun headers => ?_
  refine stateless_filled _ fun body => ?_
  dsimp only
  refine .run_bind (Http.request_stateless ..) fun exchange => ?_
  cases exchange <;> exact Task.stateless_run_pure _

theorem stateless_webhook : (Services.webhook c n f).run.Stateless := by
  unfold Services.webhook
  refine stateless_filled _ fun url => ?_
  refine stateless_filled _ fun headers => ?_
  refine stateless_filled _ fun body => ?_
  dsimp only
  refine .run_bind (Http.request_stateless ..) fun exchange => ?_
  cases exchange <;> exact Task.stateless_run_pure _

theorem stateless_sheet : (Services.sheet c n f).run.Stateless := by
  unfold Services.sheet
  refine stateless_filled _ fun values => ?_
  refine stateless_filled _ fun spreadsheet => ?_
  refine stateless_filled _ fun sheet => ?_
  refine stateless_filled _ fun range => ?_
  refine .run_bind (Sheet.write_stateless ..) fun writing => ?_
  cases writing <;> exact Task.stateless_run_pure _

theorem stateless_completion : (Services.completion c n f).run.Stateless := by
  unfold Services.completion
  refine stateless_filled _ fun prompt => ?_
  refine stateless_filled _ fun instructions => ?_
  refine .run_bind (Completion.complete_stateless ..) fun completed => ?_
  cases completed <;> exact Task.stateless_run_pure _

theorem stateless_email : (Services.email c n f).run.Stateless := by
  unfold Services.email
  refine stateless_filled _ fun recipient => ?_
  refine stateless_filled _ fun subject => ?_
  refine stateless_filled _ fun body => ?_
  refine stateless_filled _ fun senderName => ?_
  dsimp only
  refine .run_bind (Email.send_stateless ..) fun posting => ?_
  cases posting <;> exact Task.stateless_run_pure _

theorem stateless_transform : (Services.transform c n f).run.Stateless := by
  unfold Services.transform
  dsimp only
  split
  · exact Task.stateless_run_pure _
  · exact Task.stateless_run_throw _
  · exact Task.stateless_run_pure _

theorem stateless_handler {kind : NodeKind} (h : kind ≠ .database) :
    (kind.handler c n f).run.Stateless := by
  cases kind with
  | trigger => exact Task.stateless_run_pure _
  | message => exact stateless_text c n f
  | media => exact stateless_media c n f
  | callToAction => exact stateless_callToAction c n f
  | template => exact stateless_template c n f
  | location => exact stateless_location c n f
  | requestLocation => exact stateless_requestLocation c n f
  | buttons => exact stateless_buttons c n f
  | list => exact stateless_list c n f
  | form => exact stateless_form c n f
  | waitForReply => exact stateless_waitForReply c n f
  | delay => exact stateless_delay c n f
  | http => exact stateless_http c n f
  | webhook => exact stateless_webhook c n f
  | branch => exact stateless_branch c n f
  | sheet => exact stateless_sheet c n f
  | completion => exact stateless_completion c n f
  | email => exact stateless_email c n f
  | database => exact absurd rfl h
  | transform => exact stateless_transform c n f
  | stop => exact stateless_stop c n f

end

/-! ### All nodes -/

variable {reply : (q : Query) → q.Reply}

theorem steady_database : Handler.Steady reply Services.database := by
  intro c n f
  refine Task.Steady.run_bind (.pure _) fun filters => ?_
  refine Task.Steady.run_bind (Database.steady_run _ reply _ _ _ _) fun answer => ?_
  cases answer <;> exact .pure _

theorem NodeKind.handler_steady (kind : NodeKind) : kind.handler.Steady reply := by
  by_cases h : kind = .database
  · rw [h]
    exact steady_database
  · exact fun c n f => (stateless_handler c n f h).steady

theorem Handler.Steady.handled {handler : Handler} (h : handler.Steady reply) (c : NodeContext)
    (n : Node) : (handled handler c n).run.Steady reply (Database.found c.accounts.secrets reply) := by
  refine Task.Steady.run_bind (.pure _) fun f => ?_
  refine Task.Steady.run_bind (h c n f) fun finding => ?_
  exact Task.Steady.run_bind (.pure _) fun _ => .pure _

theorem handlerOf?_steady {registered : Registered}
    (hr : ∀ type handler, registered.find? type = some handler → handler.Steady reply)
    {type : String} {handler : Handler} (h : handlerOf? registered type = some handler) :
    handler.Steady reply := by
  rcases Option.or_eq_some_iff.mp h with h | ⟨-, h⟩
  · exact hr type handler h
  · obtain ⟨kind, -, rfl⟩ := Option.map_eq_some_iff.mp h
    exact kind.handler_steady

/-- What executing a node comes to depends only on what the node can see and on what the address of
the database is found to be, if that holds of the handlers that were registered. -/
theorem execute_steady {registered : Registered}
    (hr : ∀ type handler, registered.find? type = some handler → handler.Steady reply) :
    (execute registered).Steady reply := by
  intro c n
  unfold execute
  rw [Task.run_lift_bind]
  refine Task.Steady.bind ?_ fun finding => .pure _
  unfold findOut
  cases hk : handlerOf? registered n.type with
  | none => exact .pure _
  | some handler =>
    refine ((handlerOf?_steady hr hk).handled c n).bind fun outcome => ?_
    cases outcome <;> exact .pure _

end ChatFlow
