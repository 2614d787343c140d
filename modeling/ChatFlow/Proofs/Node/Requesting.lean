import ChatFlow.Proofs.Node.Delivering
import ChatFlow.Proofs.Node.Querying
import ChatFlow.Proofs.Outside.Requests
import ChatFlow.Proofs.Value.Parts

/-!
# What a node sends, and to whom

Executing a node sends at most one request over HTTP, whatever its type and its settings are
and whatever the world replies; nothing is ever sent again.  If this request carries a
message, then the phone number of the user is known and the message goes to it
(`one_request_and_to_the_user`).  Each handler that sends a message looks for the number
itself before it does, and puts it into the payload itself.
-/

namespace ChatFlow

/-- The message goes to the user, whose phone number is known. -/
def NodeContext.Addresses (c : NodeContext) (payload : Value) : Prop :=
  ∃ v, c.scope.get? "user.phone" = some v ∧ v.truthy = true ∧
    payload.field? "to" = some (.str v.display)

/-- A request that carries no message but to the user. -/
def NodeContext.Allows (c : NodeContext) (r : HttpRequest) : Prop :=
  ∀ payload, r.Carries payload → c.Addresses payload

section

variable (c : NodeContext) (n : Node) (f : Filled)

theorem NodeContext.allows_of_blank {r : HttpRequest} (h : r.Blank) : c.Allows r :=
  fun payload hcarries => absurd hcarries (h payload)

variable {c}

theorem NodeContext.addresses_of_phone {phone : String} (h : c.phone? = some phone) {payload : Value}
    (hto : payload.field? "to" = some (.str phone)) : c.Addresses payload := by
  unfold phone? at h
  split at h
  · rename_i v hv
    split at h
    · rename_i htruthy
      obtain rfl := Option.some.inj h
      exact ⟨v, hv, htruthy, hto⟩
    · cases h
  · cases h

theorem NodeContext.allows_request {payload : Value} (h : c.Addresses payload) :
    c.Allows (c.accounts.whatsapp.request payload) := by
  rintro payload' ⟨-, hjson⟩
  obtain rfl := Option.some.inj hjson
  exact h

/-! ### Messages -/

theorem WhatsApp.to_of_mediaPayload {recipient kind url caption filename payload : Value}
    (h : mediaPayload recipient kind url caption filename = .ok payload) :
    payload.field? "to" = some recipient := by
  obtain ⟨word, -, h⟩ := bind_eq_ok_iff.mp h
  obtain rfl := pure_eq_ok_iff.mp h
  rfl

/-- A message to the user, and what is made of its delivery. -/
theorem sendsOne_sent {phone : String} (h : c.phone? = some phone) {payload : Value}
    (hto : payload.field? "to" = some (.str phone)) (g : WhatsApp.Delivery → Finding) :
    (Send.send c payload >>= fun d => pure (g d)).run.SendsOne c.Allows :=
  (WhatsApp.sendsOne_send (NodeContext.allows_request (NodeContext.addresses_of_phone h hto))).run_bind
    fun _ => Task.asks_run_pure _

variable (c)

theorem sendsOne_text : (Send.text c n f).run.SendsOne c.Allows := by
  unfold Send.text
  refine Task.sendsOne_attempt_bind fun text _ => ?_
  dsimp only
  split
  · rename_i phone hphone
    split
    · exact Task.sendsOne_run_pure _
    · exact sendsOne_sent hphone rfl _
  · exact Task.sendsOne_run_pure _

theorem sendsOne_media : (Send.media c n f).run.SendsOne c.Allows := by
  unfold Send.media
  refine Task.sendsOne_attempt_bind fun url _ => Task.sendsOne_attempt_bind fun caption _ => ?_
  dsimp only
  split
  · rename_i phone hphone
    split
    · exact Task.sendsOne_run_pure _
    · refine Task.sendsOne_attempt_bind fun filename _ => ?_
      refine Task.sendsOne_attempt_bind fun payload hpayload => ?_
      exact sendsOne_sent hphone (WhatsApp.to_of_mediaPayload hpayload) _
  · exact Task.sendsOne_run_pure _

theorem sendsOne_callToAction : (Send.callToAction c n f).run.SendsOne c.Allows := by
  unfold Send.callToAction
  refine Task.sendsOne_attempt_bind fun body _ => Task.sendsOne_attempt_bind fun label _ => ?_
  refine Task.sendsOne_attempt_bind fun url _ => ?_
  dsimp only
  split
  · rename_i phone hphone
    split
    · exact Task.sendsOne_run_pure _
    · refine Task.sendsOne_attempt_bind fun header _ => Task.sendsOne_attempt_bind fun footer _ => ?_
      exact sendsOne_sent hphone rfl _
  · exact Task.sendsOne_run_pure _

theorem sendsOne_template : (Send.template c n f).run.SendsOne c.Allows := by
  unfold Send.template
  refine Task.sendsOne_attempt_bind fun name _ => ?_
  dsimp only
  split
  · rename_i phone hphone
    split
    · exact Task.sendsOne_run_pure _
    · exact Task.sendsOne_attempt_bind fun components _ => sendsOne_sent hphone rfl _
  · exact Task.sendsOne_run_pure _

theorem sendsOne_coordinate (v : Value) {g : Option Float → Handling}
    (hg : ∀ x, (g x).run.SendsOne c.Allows) : (Send.coordinate c v >>= g).run.SendsOne c.Allows :=
  Task.Asks.sendsOne_run_bind (Task.asks_run_attempt_bind fun _ => Task.asks_run_pure _) hg

theorem sendsOne_location : (Send.location c n f).run.SendsOne c.Allows := by
  unfold Send.location
  refine sendsOne_coordinate c _ fun latitude => sendsOne_coordinate c _ fun longitude => ?_
  refine Task.sendsOne_attempt_bind fun name _ => Task.sendsOne_attempt_bind fun address _ => ?_
  dsimp only
  split
  · split
    · rename_i phone hphone
      exact sendsOne_sent hphone rfl _
    · exact Task.sendsOne_run_pure _
  · exact Task.sendsOne_run_pure _

theorem sendsOne_requestLocation : (Send.requestLocation c n f).run.SendsOne c.Allows := by
  unfold Send.requestLocation
  refine Task.sendsOne_attempt_bind fun body _ => ?_
  dsimp only
  split
  · rename_i phone hphone
    exact sendsOne_sent hphone rfl _
  · exact Task.sendsOne_run_pure _

/-- The one request of a node with buttons takes the message that is made of them. -/
theorem sendsOne_buttons_of {P : HttpRequest → Prop}
    (h : ∀ phone body items header footer payload, c.phone? = some phone →
      Send.buttonItems c.scope 0 n.buttons = .ok items → items ≠ [] →
      WhatsApp.buttonPayload (.str phone) (.str body) (.list items) (.str header) (.str footer) =
        .ok payload → P (c.accounts.whatsapp.request payload)) :
    (Send.buttons c n f).run.SendsOne P := by
  unfold Send.buttons
  refine Task.sendsOne_attempt_bind fun body _ => Task.sendsOne_attempt_bind fun items hitems => ?_
  dsimp only
  split
  · rename_i phone hphone
    split
    · exact Task.sendsOne_run_pure _
    · rename_i hpresent
      have hne : items ≠ [] := by
        rintro rfl
        simp at hpresent
      refine Task.sendsOne_attempt_bind fun header _ => Task.sendsOne_attempt_bind fun footer _ => ?_
      refine Task.sendsOne_attempt_bind fun payload hpayload => ?_
      exact (WhatsApp.sendsOne_send (h _ _ _ _ _ _ hphone hitems hne hpayload)).run_bind
        fun _ => Task.asks_run_pure _
  · exact Task.sendsOne_run_pure _

theorem sendsOne_buttons : (Send.buttons c n f).run.SendsOne c.Allows := by
  refine sendsOne_buttons_of c n f fun phone _ _ _ _ payload hphone _ _ hpayload => ?_
  obtain ⟨content, rfl⟩ := WhatsApp.exists_of_buttonPayload hpayload
  exact NodeContext.allows_request (NodeContext.addresses_of_phone hphone rfl)

theorem sendsOne_list : (Send.list c n f).run.SendsOne c.Allows := by
  unfold Send.list
  refine Task.sendsOne_attempt_bind fun body _ => Task.sendsOne_attempt_bind fun sections _ => ?_
  dsimp only
  split
  · rename_i phone hphone
    split
    · exact Task.sendsOne_run_pure _
    · refine Task.sendsOne_attempt_bind fun label _ => Task.sendsOne_attempt_bind fun header _ => ?_
      refine Task.sendsOne_attempt_bind fun footer _ => ?_
      refine Task.sendsOne_attempt_bind fun payload hpayload => ?_
      obtain ⟨content, rfl⟩ := WhatsApp.exists_of_listPayload hpayload
      exact sendsOne_sent hphone rfl _
  · exact Task.sendsOne_run_pure _

theorem sendsOne_form : (Send.form c n f).run.SendsOne c.Allows := by
  unfold Send.form
  refine Task.sendsOne_attempt_bind fun formId _ => Task.sendsOne_attempt_bind fun header _ => ?_
  refine Task.sendsOne_attempt_bind fun body _ => ?_
  dsimp only
  split
  · rename_i phone hphone
    split
    · exact Task.sendsOne_run_pure _
    · refine Task.sendsOne_attempt_bind fun footer _ => Task.sendsOne_attempt_bind fun token _ => ?_
      refine Task.sendsOne_attempt_bind fun label _ => Task.sendsOne_attempt_bind fun screen _ => ?_
      exact Task.sendsOne_attempt_bind fun data _ => sendsOne_sent hphone rfl _
  · exact Task.sendsOne_run_pure _

theorem sendsOne_waitForReply : (Send.waitForReply c n f).run.SendsOne c.Allows := by
  unfold Send.waitForReply
  refine Task.sendsOne_attempt_bind fun prompt _ => ?_
  split
  · exact Task.sendsOne_run_pure _
  · split
    · rename_i phone hphone
      exact sendsOne_sent hphone rfl _
    · exact Task.sendsOne_run_pure _

theorem sendsOne_stop : (Control.stop c n f).run.SendsOne c.Allows := by
  unfold Control.stop
  refine Task.sendsOne_attempt_bind fun text _ => ?_
  dsimp only
  split
  · rename_i phone hphone
    split
    · exact Task.sendsOne_run_pure _
    · exact sendsOne_sent hphone rfl _
  · exact Task.sendsOne_run_pure _

/-! ### Everything else -/

theorem sendsOne_delay : (Control.delay c n f).run.SendsOne c.Allows := by
  unfold Control.delay
  dsimp only
  rw [Task.run_lift_bind]
  exact .ask rfl fun _ => Task.sendsOne_run_pure _

theorem sendsOne_branch : (Control.branch c n f).run.SendsOne c.Allows := by
  unfold Control.branch
  refine Task.sendsOne_attempt_bind fun target _ => ?_
  dsimp only
  split <;> exact Task.sendsOne_run_pure _

theorem sendsOne_transform : (Services.transform c n f).run.SendsOne c.Allows := by
  unfold Services.transform
  simp only
  split
  · exact Task.sendsOne_run_pure _
  · exact Task.sendsOne_run_attempt _
  · exact Task.sendsOne_run_pure _

/-- What is made of the outcome of a request that carries no message. -/
theorem sendsOne_served {α : Type} {x : Work α} (hx : x.run.SendsOne HttpRequest.Blank)
    {g : α → Handling} (hg : ∀ a, (g a).run.Asks Query.Offline) :
    (x >>= g).run.SendsOne c.Allows :=
  Task.SendsOne.run_bind (hx.mono fun _ => c.allows_of_blank) hg

theorem sendsOne_http : (Services.http c n f).run.SendsOne c.Allows := by
  unfold Services.http
  refine Task.sendsOne_attempt_bind fun method _ => Task.sendsOne_attempt_bind fun url _ => ?_
  refine Task.sendsOne_attempt_bind fun headers _ => Task.sendsOne_attempt_bind fun credentials _ => ?_
  refine Task.sendsOne_attempt_bind fun headers _ => Task.sendsOne_attempt_bind fun body _ => ?_
  refine sendsOne_served c (Http.sendsOne_request ..) fun exchange => ?_
  cases exchange <;> exact Task.asks_run_pure _

theorem sendsOne_webhook : (Services.webhook c n f).run.SendsOne c.Allows := by
  unfold Services.webhook
  refine Task.sendsOne_attempt_bind fun url _ => Task.sendsOne_attempt_bind fun headers _ => ?_
  refine Task.sendsOne_attempt_bind fun body _ => ?_
  refine sendsOne_served c (Http.sendsOne_request ..) fun exchange => ?_
  cases exchange <;> exact Task.asks_run_pure _

theorem sendsOne_sheet : (Services.sheet c n f).run.SendsOne c.Allows := by
  unfold Services.sheet
  refine Task.sendsOne_attempt_bind fun values _ => Task.sendsOne_attempt_bind fun spreadsheet _ => ?_
  refine Task.sendsOne_attempt_bind fun sheet _ => Task.sendsOne_attempt_bind fun range _ => ?_
  refine sendsOne_served c (Sheet.sendsOne_write ..) fun writing => ?_
  cases writing <;> exact Task.asks_run_pure _

theorem sendsOne_completion : (Services.completion c n f).run.SendsOne c.Allows := by
  unfold Services.completion
  refine Task.sendsOne_attempt_bind fun prompt _ => ?_
  refine Task.sendsOne_attempt_bind fun instructions _ => ?_
  refine sendsOne_served c (Completion.sendsOne_complete ..) fun completed => ?_
  cases completed <;> exact Task.asks_run_pure _

theorem sendsOne_email : (Services.email c n f).run.SendsOne c.Allows := by
  unfold Services.email
  refine Task.sendsOne_attempt_bind fun recipient _ => Task.sendsOne_attempt_bind fun subject _ => ?_
  refine Task.sendsOne_attempt_bind fun body _ => Task.sendsOne_attempt_bind fun senderName _ => ?_
  refine sendsOne_served c (Email.sendsOne_send ..) fun posting => ?_
  cases posting <;> exact Task.asks_run_pure _

theorem sendsOne_database : (Services.database c n f).run.SendsOne c.Allows := by
  unfold Services.database
  refine Task.sendsOne_attempt_bind fun filters _ => ?_
  have hrun (operation query : String) (table filters : Value) :
      (Database.run c.accounts.secrets operation table filters query).Asks Query.Offline :=
    Database.asks_run _ (fun _ _ h => h) fun _ _ _ => rfl
  refine Task.Asks.sendsOne_run_bind (hrun _ _ _ _) fun answer => ?_
  cases answer <;> exact Task.sendsOne_run_pure _

/-! ### All kinds -/

theorem sendsOne_handler (kind : NodeKind) : (kind.handler c n f).run.SendsOne c.Allows := by
  cases kind with
  | trigger => exact Task.sendsOne_run_pure _
  | message => exact sendsOne_text c n f
  | media => exact sendsOne_media c n f
  | callToAction => exact sendsOne_callToAction c n f
  | template => exact sendsOne_template c n f
  | location => exact sendsOne_location c n f
  | requestLocation => exact sendsOne_requestLocation c n f
  | buttons => exact sendsOne_buttons c n f
  | list => exact sendsOne_list c n f
  | form => exact sendsOne_form c n f
  | waitForReply => exact sendsOne_waitForReply c n f
  | delay => exact sendsOne_delay c n f
  | http => exact sendsOne_http c n f
  | webhook => exact sendsOne_webhook c n f
  | branch => exact sendsOne_branch c n f
  | sheet => exact sendsOne_sheet c n f
  | completion => exact sendsOne_completion c n f
  | email => exact sendsOne_email c n f
  | database => exact sendsOne_database c n f
  | transform => exact sendsOne_transform c n f
  | stop => exact sendsOne_stop c n f

theorem sendsOne_handled {P : HttpRequest → Prop} {handler : Handler}
    (h : ∀ f, n.filled = .ok f → (handler c n f).run.SendsOne P) :
    (handled handler c n).run.SendsOne P := by
  unfold handled
  refine Task.sendsOne_attempt_bind fun f hf => (h f hf).run_bind fun g => ?_
  exact Task.asks_run_attempt_bind fun _ => Task.asks_run_pure _

/-- What a node sends is what the handler of its kind sends, once the settings are read. -/
theorem sendsOne_execute_of {P : HttpRequest → Prop}
    (h : ∀ kind, NodeKind.ofType? n.type = some kind → ∀ f, n.filled = .ok f →
      (kind.handler c n f).run.SendsOne P) : (execute [] c n).run.SendsOne P := by
  have hfind : (findOut [] c n).SendsOne P := by
    unfold findOut
    cases hk : NodeKind.ofType? n.type with
    | none =>
      simp only [handlerOf?, hk]
      exact .done _
    | some kind =>
      simp only [handlerOf?, hk]
      refine (sendsOne_handled c n (h kind hk)).bind fun r => ?_
      cases r <;> exact Task.asks_pure _ _
  unfold execute
  rw [Task.run_lift_bind]
  exact hfind.bind fun _ => Task.asks_pure _ _

theorem sendsOne_execute : (execute [] c n).run.SendsOne c.Allows :=
  sendsOne_execute_of c n fun kind _ f _ => sendsOne_handler c n f kind

/-- **A node sends one request at most, and a message only to the user.**  Whatever its type and its
settings are and whatever the world replies, also if it never does: no more than one request goes out
over HTTP, and if it carries a message, the phone number of the user is known and the message goes to
it.  So if it is not known, no message goes out. -/
theorem one_request_and_to_the_user (world : World) (s : Database.Address) (asked : List Query) :
    let x := (execute [] c n).run.run world s asked
    ∃ more, x.asked = asked ++ more ∧ (requests more).length ≤ 1 ∧
      (∀ request ∈ requests more, ∀ payload, request.Carries payload →
        ∃ v, c.scope.get? "user.phone" = some v ∧ v.truthy = true ∧
          payload.field? "to" = some (.str v.display)) ∧
      ((∀ v, c.scope.get? "user.phone" = some v → v.truthy = false) →
        ∀ request ∈ requests more, ∀ payload, ¬ request.Carries payload) := by
  intro x
  obtain ⟨more, hmore, hone, hallowed⟩ := (sendsOne_execute c n).run world s asked
  refine ⟨more, hmore, hone, hallowed, fun hunknown request hrequest payload hcarries => ?_⟩
  obtain ⟨v, hv, htruthy, -⟩ := hallowed request hrequest payload hcarries
  rw [hunknown v hv] at htruthy
  cases htruthy

end

/-- The one request of a node with buttons carries its message to the user. -/
theorem one_request_and_to_the_user_inquiring : ∃ request payload,
    requests (Node.inquired .accepted).asked = [request] ∧ request.Carries payload ∧
      payload.field? "to" = some (.str "15550001111") := by
  obtain ⟨payload, r, vars, hrun⟩ : ∃ payload r vars, Node.inquired .accepted =
      ⟨none, [.http (NodeContext.sending.accounts.whatsapp.request payload)], .inr (.ok (r, vars))⟩ :=
    ⟨_, _, _, by with_unfolding_all rfl⟩
  obtain ⟨more, hmore, -, hto, -⟩ :=
    one_request_and_to_the_user .sending .inquiring (.answering .accepted) none []
  have hmore : (Node.inquired .accepted).asked = more := hmore
  have hrequests : requests (Node.inquired .accepted).asked =
      [NodeContext.sending.accounts.whatsapp.request payload] := by
    rw [hrun]
    rfl
  have hcarries := WhatsApp.Account.carries_request NodeContext.sending.accounts.whatsapp payload
  rw [hmore] at hrequests
  obtain ⟨v, hv, -, hpayload⟩ :=
    hto _ (by rw [hrequests]; exact List.mem_singleton_self _) payload hcarries
  have hphone : NodeContext.sending.scope.get? "user.phone" = some (.str "15550001111") := by
    with_unfolding_all rfl
  obtain rfl := Option.some.inj (hv.symm.trans hphone)
  exact ⟨_, payload, by rw [hmore, hrequests], hcarries, hpayload⟩

end ChatFlow
