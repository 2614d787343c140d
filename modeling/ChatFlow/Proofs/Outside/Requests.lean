import ChatFlow.Outside.Completion
import ChatFlow.Outside.Email
import ChatFlow.Outside.Http
import ChatFlow.Outside.Sheet
import ChatFlow.Outside.WhatsApp.Client
import ChatFlow.Proofs.Outside.Asking

/-!
# Tasks that send no more than one request

`Task.SendsOne P` says that a task sends at most one request over HTTP, whatever the world
replies, and that this request has the property `P`.  Whoever does something after such a
task must not send any more (`SendsOne.bind`), and so a run sends at most one
(`SendsOne.run`).  The clients of all services are of this kind.

A request carries a message if it takes it to the messaging service as its JSON.  No
client but the one for messages sends such a request.
-/

namespace ChatFlow

namespace Task

variable {σ α β ε : Type} {P Q : HttpRequest → Prop}

/-- A task that sends at most one request over HTTP, and only one with this property. -/
inductive SendsOne (P : HttpRequest → Prop) : Task σ α → Prop
  | done (a : α) : SendsOne P (done a)
  | get {next : σ → Task σ α} (h : ∀ s, SendsOne P (next s)) : SendsOne P (get next)
  | put {s : σ} {next : Task σ α} (h : SendsOne P next) : SendsOne P (put s next)
  | ask {q : Query} {next : q.Reply → Task σ α} (hq : q.Offline) (h : ∀ r, SendsOne P (next r)) :
      SendsOne P (ask q next)
  | send {request : HttpRequest} {next : HttpOutcome → Task σ α} (hr : P request)
      (h : ∀ o, (next o).Asks Query.Offline) : SendsOne P (ask (.http request) next)

theorem SendsOne.mono {t : Task σ α} (ht : t.SendsOne P) (h : ∀ r, P r → Q r) : t.SendsOne Q := by
  induction ht with
  | done a => exact .done a
  | get _ ih => exact .get ih
  | put _ ih => exact .put ih
  | ask hq _ ih => exact .ask hq ih
  | send hr hnext => exact .send (h _ hr) hnext

theorem Asks.sendsOne {t : Task σ α} (ht : t.Asks Query.Offline) : t.SendsOne P := by
  induction t with
  | done a => exact .done a
  | get next ih => exact .get fun s => ih s (ht s)
  | put s next ih => exact .put (ih ht)
  | ask q next ih => exact .ask ht.1 fun r => ih r (ht.2 r)

/-- After a task that may have sent a request nothing is sent. -/
theorem SendsOne.bind {t : Task σ α} {f : α → Task σ β} (ht : t.SendsOne P)
    (hf : ∀ a, (f a).Asks Query.Offline) : (t >>= f).SendsOne P := by
  induction ht with
  | done a => exact (hf a).sendsOne
  | get _ ih => exact .get ih
  | put _ ih => exact .put ih
  | ask hq _ ih => exact .ask hq ih
  | send hr hnext => exact .send hr fun o => (hnext o).bind hf

/-- Before a task that may send a request nothing is sent. -/
theorem Asks.sendsOne_bind {t : Task σ α} {f : α → Task σ β} (ht : t.Asks Query.Offline)
    (hf : ∀ a, (f a).SendsOne P) : (t >>= f).SendsOne P := by
  induction t with
  | done a => exact hf a
  | get next ih => exact .get fun s => ih s (ht s)
  | put s next ih => exact .put (ih ht)
  | ask q next ih => exact .ask ht.1 fun r => ih r (ht.2 r)

/-- The requests of a run, which need not come to an end. -/
theorem SendsOne.run {t : Task σ α} (ht : t.SendsOne P) (world : World) (s : σ)
    (asked : List Query) : ∃ more, (t.run world s asked).asked = asked ++ more ∧
      (requests more).length ≤ 1 ∧ ∀ r ∈ requests more, P r := by
  induction ht generalizing s asked with
  | done a => exact ⟨[], (List.append_nil asked).symm, Nat.zero_le 1, List.forall_mem_nil _⟩
  | get _ ih => exact ih s s asked
  | put _ ih => exact ih _ asked
  | @ask q next hq _ ih =>
    have hcons (more : List Query) : requests (q :: more) = requests more :=
      List.filterMap_cons_none hq
    simp only [Task.run]
    cases world asked q with
    | none =>
      refine ⟨[q], rfl, ?_⟩
      rw [hcons]
      exact ⟨Nat.zero_le 1, List.forall_mem_nil _⟩
    | some r =>
      obtain ⟨more, hmore, hone⟩ := ih r s (asked ++ [q])
      refine ⟨q :: more, ?_, ?_⟩
      · rw [hmore, List.append_assoc, List.singleton_append]
      · rwa [hcons]
  | @send request next hr hnext =>
    have hone {more : List Query} (h : ∀ q ∈ more, q.Offline) :
        (requests (.http request :: more)).length ≤ 1 ∧
          ∀ r ∈ requests (.http request :: more), P r := by
      have hcons : requests (.http request :: more) = [request] :=
        congrArg (request :: ·) (requests_eq_nil h)
      rw [hcons]
      exact ⟨Nat.le_refl 1, fun r hmem => List.mem_singleton.mp hmem ▸ hr⟩
    simp only [Task.run]
    cases world asked (.http request) with
    | none => exact ⟨[.http request], rfl, hone (List.forall_mem_nil _)⟩
    | some o =>
      obtain ⟨more, hmore, hoffline⟩ := (hnext o).asked world s (asked ++ [.http request])
      refine ⟨.http request :: more, ?_, hone hoffline⟩
      rw [hmore, List.append_assoc, List.singleton_append]

/-! ### Tasks that may fail -/

theorem asks_run_pure {R : Query → Prop} (a : α) : (pure a : ExceptT ε (Task σ) α).run.Asks R :=
  trivial

theorem asks_run_attempt {R : Query → Prop} (r : Except ε α) :
    (attempt r : ExceptT ε (Task σ) α).run.Asks R := trivial

theorem asks_run_attempt_bind {R : Query → Prop} {r : Except ε β} {g : β → ExceptT ε (Task σ) α}
    (hg : ∀ b, (g b).run.Asks R) : (attempt r >>= g).run.Asks R := by
  cases r with
  | error e => trivial
  | ok b => exact hg b

theorem sendsOne_run_pure (a : α) : (pure a : ExceptT ε (Task σ) α).run.SendsOne P :=
  (asks_run_pure a).sendsOne

theorem sendsOne_run_attempt (r : Except ε α) :
    (attempt r : ExceptT ε (Task σ) α).run.SendsOne P := (asks_run_attempt r).sendsOne

/-- A computation that may fail comes first, and asks nothing. -/
theorem sendsOne_attempt_bind {r : Except ε β} {g : β → ExceptT ε (Task σ) α}
    (hg : ∀ b, r = .ok b → (g b).run.SendsOne P) : (attempt r >>= g).run.SendsOne P := by
  cases r with
  | error e => exact .done _
  | ok b => exact hg b rfl

/-- A task that may fail goes on only if the part before did not, and then it sends nothing more. -/
theorem SendsOne.run_bind {x : ExceptT ε (Task σ) β} {f : β → ExceptT ε (Task σ) α}
    (hx : x.run.SendsOne P) (hf : ∀ b, (f b).run.Asks Query.Offline) : (x >>= f).run.SendsOne P := by
  rw [ExceptT.run_bind]
  refine hx.bind fun r => ?_
  cases r with
  | error e => exact asks_pure _ _
  | ok b => exact hf b

theorem Asks.sendsOne_run_bind {x : ExceptT ε (Task σ) β} {f : β → ExceptT ε (Task σ) α}
    (hx : x.run.Asks Query.Offline) (hf : ∀ b, (f b).run.SendsOne P) :
    (x >>= f).run.SendsOne P := by
  rw [ExceptT.run_bind]
  refine hx.sendsOne_bind fun r => ?_
  cases r with
  | error e => exact .done _
  | ok b => exact hf b

/-- The request, and what is made of the outcome. -/
theorem sendsOne_query_bind {request : HttpRequest} {g : HttpOutcome → ExceptT ε (Task σ) α}
    (hr : P request) (hg : ∀ o, (g o).run.Asks Query.Offline) :
    (ExceptT.lift (query (.http request)) >>= g).run.SendsOne P := by
  rw [run_lift_bind]
  exact .send hr hg

end Task

/-! ### Requests that carry a message -/

theorem prefix_toList_append (s t : String) : s.toList <+: (s ++ t).toList := by
  rw [String.toList_append]
  exact List.prefix_append _ _

/-- Where the messaging service is reached. -/
def WhatsApp.host : List Char := "https://graph.facebook.com/".toList

/-- A request that takes a message to the messaging service, as its JSON. -/
def HttpRequest.Carries (r : HttpRequest) (payload : Value) : Prop :=
  WhatsApp.host <+: r.url.toList ∧ r.json = some payload

/-- A request that carries no message. -/
def HttpRequest.Blank (r : HttpRequest) : Prop := ∀ payload, ¬ r.Carries payload

namespace HttpRequest

variable {r : HttpRequest}

theorem blank_of_json (h : r.json = none) : r.Blank := by
  rintro payload ⟨-, hjson⟩
  rw [h] at hjson
  cases hjson

/-- A request to another service carries no message. -/
theorem blank_of_url (start : String) (h : start.toList <+: r.url.toList)
    (haway : ¬ start.toList <+: WhatsApp.host ∧ ¬ WhatsApp.host <+: start.toList) : r.Blank := by
  rintro payload ⟨hhost, -⟩
  rcases List.prefix_or_prefix_of_prefix h hhost with hp | hp
  · exact haway.1 hp
  · exact haway.2 hp

end HttpRequest

/-- A message of an account is carried by its request. -/
theorem WhatsApp.Account.carries_request (a : Account) (payload : Value) :
    (a.request payload).Carries payload := by
  have hurl : host <+: a.url.toList :=
    (prefix_toList_append _ a.version).trans <| (prefix_toList_append _ "/").trans <|
      (prefix_toList_append _ a.phoneId).trans (prefix_toList_append _ "/messages")
  exact ⟨hurl, rfl⟩

/-! ### The clients -/

section

variable {σ : Type} {P : HttpRequest → Prop}

theorem WhatsApp.sendsOne_send {a : Account} {payload : Value} (h : P (a.request payload)) :
    (send (σ := σ) a payload).run.SendsOne P := by
  unfold send
  split
  · refine Task.sendsOne_query_bind h fun outcome => Task.asks_run_attempt_bind fun delivery => ?_
    split
    · exact Task.asks_run_attempt _
    · exact Task.asks_run_pure _
  · exact Task.sendsOne_run_pure _

theorem Http.sendsOne_request (limit method : Value) (url : String) (headers : Entries Value)
    (body timeout : Value) :
    (Http.request (σ := σ) limit method url headers body timeout).run.SendsOne
      HttpRequest.Blank := by
  unfold Http.request
  refine Task.sendsOne_attempt_bind fun word _ => ?_
  dsimp only
  split
  · exact Task.sendsOne_run_pure _
  · exact Task.sendsOne_query_bind (HttpRequest.blank_of_json rfl) fun _ => Task.asks_run_attempt _

/-- Where the service for spreadsheets is reached. -/
def Sheet.host : String := "https://sheets.googleapis.com/v4/spreadsheets/"

theorem Sheet.prefix_rangeUrl (spreadsheet range : String) :
    host.toList <+: (rangeUrl spreadsheet range).toList :=
  (prefix_toList_append _ spreadsheet).trans <| (prefix_toList_append _ "/values/").trans
    (prefix_toList_append _ _)

theorem Sheet.prefix_of_target? {o : Order} {method url : String}
    (h : o.target? = .ok (some (method, url))) : host.toList <+: url.toList := by
  unfold Order.target? at h
  dsimp only at h
  split at h
  · obtain ⟨-, rfl⟩ := Prod.mk.inj (Option.some.inj (Except.ok.inj h))
    exact (prefix_rangeUrl _ _).trans (prefix_toList_append _ _)
  · split at h
    · obtain ⟨-, rfl⟩ := Prod.mk.inj (Option.some.inj (Except.ok.inj h))
      exact prefix_rangeUrl _ _
    · cases h
  · cases h

theorem Sheet.sendsOne_write (a : Account) (o : Order) :
    (write (σ := σ) a o).run.SendsOne HttpRequest.Blank := by
  unfold write
  split
  · exact Task.sendsOne_run_pure _
  · refine Task.sendsOne_attempt_bind fun target ht => ?_
    cases target with
    | none => exact Task.sendsOne_run_pure _
    | some target =>
      obtain ⟨method, url⟩ := target
      dsimp only
      split
      · exact Task.sendsOne_run_pure _
      · refine Task.sendsOne_query_bind ?_ fun _ => Task.asks_run_pure _
        exact HttpRequest.blank_of_url host (prefix_of_target? ht) (by decide)

theorem Completion.Prompt.blank_request (p : Prompt) (a : Account) (provider : Provider) :
    (p.request a provider).Blank := by
  cases provider with
  | openai =>
    exact HttpRequest.blank_of_url "https://api.openai.com/v1/chat/completions" List.prefix_rfl
      (by decide)
  | anthropic =>
    exact HttpRequest.blank_of_url "https://api.anthropic.com/v1/messages" List.prefix_rfl
      (by decide)

theorem Completion.sendsOne_complete (a : Account) (p : Prompt) :
    (complete (σ := σ) a p).run.SendsOne HttpRequest.Blank := by
  unfold complete
  refine Task.sendsOne_attempt_bind fun name _ => ?_
  split
  · exact Task.sendsOne_run_pure _
  · split
    · exact Task.sendsOne_run_pure _
    · split
      · exact Task.sendsOne_run_pure _
      · exact Task.sendsOne_query_bind (p.blank_request a _) fun _ => Task.asks_run_attempt _

theorem Email.sendsOne_send (a : Account) (now : Calendar.Instant) (l : Letter) :
    (send (σ := σ) a now l).run.SendsOne HttpRequest.Blank := by
  unfold send
  split
  · exact Task.sendsOne_run_pure _
  · split
    · split
      · exact Task.sendsOne_run_pure _
      · split
        · exact Task.sendsOne_run_pure _
        · refine Task.sendsOne_query_bind ?_ fun _ => Task.asks_run_attempt _
          exact HttpRequest.blank_of_url "https://api.resend.com/emails" List.prefix_rfl (by decide)
    · exact Task.sendsOne_run_attempt _

end

end ChatFlow
