import ChatFlow.Outside.Database.Client
import ChatFlow.Proofs.Outside.Exchange
import ChatFlow.Proofs.Value.Parts

/-!
# Sessions with the database

A request to the database asks nothing, or only for the secret that should hold the
address, or it opens a connection.  Every connection that is opened is used for one
statement, which is committed if it was executed and rolled back if not, and is closed
again.  `sessions_in_order` says so of any number of requests to one client, one after the
other, and that the secret is fetched only as long as no address is known.

`Task.Leads` follows a task from a state to what it comes to: unlike `Task.Traces` it
knows which state is read.  `Serves` says what one request does from an address that is
known or not, and `Service` chains requests by the address that each leaves behind.
-/

namespace ChatFlow

namespace Task

variable {σ α β : Type}

/-- From a state a task comes to states, exchanges and values that are related in this way, whatever
the world replies. -/
def Leads : Task σ α → σ → (σ → List Exchange → α → Prop) → Prop
  | done a, s, P => P s [] a
  | get next, s, P => (next s).Leads s P
  | put s' next, _, P => next.Leads s' P
  | ask q next, s, P =>
    ∀ r : q.Reply, (next r).Leads s fun s' exchanges a => P s' (⟨q, r⟩ :: exchanges) a

variable {P : σ → List Exchange → α → Prop} {t : Task σ α} {s : σ}

/-- What is done after a task begins with the state that the task leaves. -/
theorem Leads.bind {f : α → Task σ β} {R : σ → List Exchange → β → Prop} (ht : t.Leads s P)
    (hf : ∀ s' exchanges a, P s' exchanges a →
      (f a).Leads s' fun s'' more b => R s'' (exchanges ++ more) b) : (t >>= f).Leads s R := by
  induction t generalizing P R s with
  | done a => exact hf s [] a ht
  | get next ih => exact ih s ht hf
  | put s' next ih => exact ih ht hf
  | ask q next ih =>
    exact fun r => ih r (ht r) fun s' exchanges a => hf s' (⟨q, r⟩ :: exchanges) a

/-- The state and the value of a run, and the exchanges of the run with the world. -/
theorem Leads.of_run (ht : t.Leads s P) {world : World} {s' : σ} {asked asked' : List Query} {a : α}
    (h : t.run world s asked = ⟨s', asked', .inr a⟩) :
    ∃ exchanges, asked' = asked ++ exchanges.map Sigma.fst ∧ world.Gives asked exchanges ∧
      P s' exchanges a := by
  induction t generalizing P s asked with
  | done b =>
    simp only [run, Progress.mk.injEq, Sum.inr.injEq] at h
    obtain ⟨rfl, rfl, rfl⟩ := h
    exact ⟨[], (List.append_nil asked).symm, trivial, ht⟩
  | get next ih => exact ih s ht h
  | put u next ih => exact ih ht h
  | ask q next ih =>
    simp only [run] at h
    cases hw : world asked q with
    | none =>
      rw [hw] at h
      cases h
    | some r =>
      rw [hw] at h
      obtain ⟨exchanges, hasked, hgives, hP⟩ := ih r (ht r) h
      refine ⟨⟨q, r⟩ :: exchanges, ?_, ⟨hw, hgives⟩, hP⟩
      rw [hasked, List.append_assoc, List.map_cons, List.singleton_append]

end Task

namespace Exchange

variable (e : Exchange)

/-- The secret is fetched. -/
def Fetches : Prop := ∃ url timeout reply, e = ⟨.secret url timeout, reply⟩

/-- The secret is fetched and holds the address of the database. -/
def Tells : Prop := ∃ url timeout contents address,
  e = ⟨.secret url timeout, .ok contents⟩ ∧ Database.addressIn contents = .ok address

/-- A connection is opened. -/
def Opens : Prop := ∃ url, e = ⟨.connect url, .ok ()⟩

/-- A statement is not executed. -/
def Refuses : Prop := ∃ text parameters reason, e = ⟨.execute text parameters, .error reason⟩

end Exchange

namespace Database

/-! ### Requests -/

/-- A query to the database as it is asked for. -/
structure Request where
  operation : String
  table : Value
  filters : Value
  query : String

/-- What a request comes to. -/
def Request.run (store : SecretStore) (r : Request) : Task Address (Except Failure Answer) :=
  Database.run store r.operation r.table r.filters r.query

/-- What requests to one client come to, one after the other. -/
def runAll (store : SecretStore) : List Request → Task Address (List (Except Failure Answer))
  | [] => pure []
  | r :: rest => do
    let answer ← r.run store
    let answers ← runAll store rest
    return answer :: answers

/-- What a request has asked and been told, and what came of it. -/
structure Call where
  exchanges : List Exchange
  answer : Except Failure Answer

/-- What calls have asked, one after the other. -/
def trace (calls : List Call) : List Exchange := calls.flatMap Call.exchanges

/-! ### Sessions in order -/

/-- The secret is fetched once, or not at all. -/
inductive Fetched : List Exchange → Prop
  | nothing : Fetched []
  | secret (url : String) (timeout : Nat) (reply : Except String Value) :
      Fetched [⟨.secret url timeout, reply⟩]

/-- What one request asks: nothing, the secret alone, or the secret if need be and then a connection,
which if it is opened is used for one statement, ended in one of the two ways, and closed. -/
inductive Session : List Exchange → Prop
  | silent : Session []
  | unaddressed (url : String) (timeout : Nat) (reply : Except String Value) :
      Session [⟨.secret url timeout, reply⟩]
  | unconnected {fetch : List Exchange} (h : Fetched fetch) (url : Value) (reason : String) :
      Session (fetch ++ [⟨.connect url, .error reason⟩])
  | committed {fetch : List Exchange} (h : Fetched fetch) (url : Value) (text : String)
      (parameters : Option (List Value)) (reply : Except String (Option (List Value))) :
      Session (fetch ++ [⟨.connect url, .ok ()⟩, ⟨.execute text parameters, reply⟩, ⟨.commit, ()⟩,
        ⟨.close, ()⟩])
  | rolledBack {fetch : List Exchange} (h : Fetched fetch) (url : Value) (text : String)
      (parameters : Option (List Value)) (reply : Except String (Option (List Value))) :
      Session (fetch ++ [⟨.connect url, .ok ()⟩, ⟨.execute text parameters, reply⟩, ⟨.rollback, ()⟩,
        ⟨.close, ()⟩])

/-- A call that leaves the database in order. -/
structure Call.InOrder (c : Call) : Prop where
  session : Session c.exchanges
  /-- The transaction is committed if the call succeeds. -/
  commit : .commit ∈ c.exchanges.map Sigma.fst ↔ ∃ rows, c.answer = .ok (.rows rows)
  /-- It is rolled back if the statement was not executed. -/
  rollback : .rollback ∈ c.exchanges.map Sigma.fst ↔ ∃ e ∈ c.exchanges, e.Refuses
  /-- A connection that is opened is closed in the end. -/
  close : (∃ e ∈ c.exchanges, e.Opens) → c.exchanges.getLast? = some ⟨.close, ()⟩

/-! ### What a request does -/

variable {store : SecretStore}

/-- How an address is had from the one that is known, if any, and what is known then. -/
inductive Locates (store : SecretStore) :
    Address → List Exchange → Except Failure Value → Address → Prop
  | known (url : Value) : Locates store (some url) [] (.ok url) (some url)
  | lost (reply : Except String Value) (f : Failure)
      (h : ¬ Exchange.Tells ⟨.secret store.url 10, reply⟩) :
      Locates store none [⟨.secret store.url 10, reply⟩] (.error f) none
  | found (contents url : Value) (h : addressIn contents = .ok url) :
      Locates store none [⟨.secret store.url 10, .ok contents⟩] (.ok url) (some url)

/-- What a request does from the address that is known, if any, and what is known then. -/
inductive Serves (store : SecretStore) : Address → Call → Address → Prop
  | refused (known : Address) {answer : Except Failure Answer}
      (h : ∀ rows, answer ≠ .ok (.rows rows)) : Serves store known ⟨[], answer⟩ known
  | unaddressed {known known' : Address} {fetch : List Exchange} {f : Failure}
      {answer : Except Failure Answer} (hf : Locates store known fetch (.error f) known')
      (h : ∀ rows, answer ≠ .ok (.rows rows)) : Serves store known ⟨fetch, answer⟩ known'
  | unconnected {known known' : Address} {fetch : List Exchange} {url : Value}
      (hf : Locates store known fetch (.ok url) known') (reason : String) :
      Serves store known ⟨fetch ++ [⟨.connect url, .error reason⟩], .ok (.failed reason)⟩ known'
  | committed {known known' : Address} {fetch : List Exchange} {url : Value}
      (hf : Locates store known fetch (.ok url) known') (text : String)
      (parameters : Option (List Value)) (rows : Option (List Value)) :
      Serves store known ⟨fetch ++ [⟨.connect url, .ok ()⟩, ⟨.execute text parameters, .ok rows⟩,
        ⟨.commit, ()⟩, ⟨.close, ()⟩], .ok (.rows (rows.getD []))⟩ known'
  | rolledBack {known known' : Address} {fetch : List Exchange} {url : Value}
      (hf : Locates store known fetch (.ok url) known') (text : String)
      (parameters : Option (List Value)) (reason : String) :
      Serves store known ⟨fetch ++ [⟨.connect url, .ok ()⟩,
        ⟨.execute text parameters, .error reason⟩, ⟨.rollback, ()⟩, ⟨.close, ()⟩],
        .ok (.failed reason)⟩ known'

theorem leads_address (known : Address) :
    (address store).Leads known fun known' fetch r => Locates store known fetch r known' := by
  cases known with
  | some url => exact .known url
  | none =>
    intro reply
    cases reply with
    | error reason =>
      refine .lost _ _ ?_
      rintro ⟨url, timeout, contents, address, h, -⟩
      cases h
    | ok contents =>
      simp only [Task.andThen]
      cases h : addressIn contents with
      | error f =>
        refine .lost _ _ ?_
        rintro ⟨url, timeout, contents', address, heq, haddress⟩
        cases heq
        rw [h] at haddress
        cases haddress
      | ok url => exact .found contents url h

/-- A failure is not an answer with rows. -/
theorem Answer.ofFailure_ne_rows (f : Failure) (rows : List Value) :
    ofFailure f ≠ .ok (.rows rows) := by
  intro h
  unfold ofFailure at h
  split at h <;> cases h

theorem leads_execute (known : Address) (text : String) (parameters : List Value) :
    (execute store text parameters).Leads known fun known' exchanges r =>
      ∀ answer, (∀ f, r = .error f → ∀ rows, answer ≠ .ok (.rows rows)) →
        (∀ a, r = .ok a → answer = .ok a) → Serves store known ⟨exchanges, answer⟩ known' := by
  refine (leads_address known).bind fun known' fetch url hf => ?_
  cases url with
  | error f =>
    intro answer hne _
    rw [List.append_nil]
    exact .unaddressed hf (hne f rfl)
  | ok url =>
    intro connected
    cases connected with
    | error reason =>
      intro answer _ heq
      rw [heq _ rfl]
      exact .unconnected hf reason
    | ok _ =>
      intro reply
      cases reply with
      | ok rows =>
        intro _ _ answer _ heq
        rw [heq _ rfl]
        exact .committed hf text _ rows
      | error reason =>
        intro _ _ answer _ heq
        rw [heq _ rfl]
        exact .rolledBack hf text _ reason

theorem leads_run (known : Address) (r : Request) :
    (r.run store).Leads known fun known' exchanges answer =>
      Serves store known ⟨exchanges, answer⟩ known' := by
  unfold Request.run run
  split
  · exact .refused known fun rows h => nomatch h
  · split
    · exact .refused known (Answer.ofFailure_ne_rows _)
    · refine (leads_execute known _ _).bind fun known' exchanges result h => ?_
      cases result with
      | error f =>
        show Serves store known ⟨exchanges ++ [], _⟩ known'
        rw [List.append_nil]
        exact h _ (fun _ _ => Answer.ofFailure_ne_rows f) fun _ ha => nomatch ha
      | ok a =>
        show Serves store known ⟨exchanges ++ [], _⟩ known'
        rw [List.append_nil]
        exact h _ (fun _ hf => nomatch hf) fun _ ha => by rw [Except.ok.inj ha]

/-! ### Every request is in order -/

variable {known known' : Address} {c : Call}

theorem Locates.fetched {fetch : List Exchange} {r : Except Failure Value}
    (h : Locates store known fetch r known') : Fetched fetch := by
  cases h with
  | known url => exact .nothing
  | lost reply f _ => exact .secret _ _ reply
  | found contents url _ => exact .secret _ _ _

/-- What ends without rows and asks at most for the secret is in order. -/
theorem Fetched.inOrder {fetch : List Exchange} (h : Fetched fetch) {answer : Except Failure Answer}
    (hne : ∀ rows, answer ≠ .ok (.rows rows)) : Call.InOrder ⟨fetch, answer⟩ := by
  cases h with
  | nothing => constructor <;> simp [hne, Session.silent]
  | secret url timeout reply =>
    constructor <;> simp [hne, Session.unaddressed, Exchange.Opens, Exchange.Refuses]

theorem Serves.inOrder (h : Serves store known c known') : c.InOrder := by
  cases h with
  | refused hne => exact Fetched.nothing.inOrder hne
  | unaddressed hf hne => exact hf.fetched.inOrder hne
  | unconnected hf reason =>
    refine ⟨.unconnected hf.fetched _ reason, ?_, ?_, ?_⟩ <;>
      cases hf.fetched <;> simp [Exchange.Opens, Exchange.Refuses]
  | committed hf text parameters rows =>
    refine ⟨.committed hf.fetched _ text parameters _, ?_, ?_, ?_⟩ <;>
      cases hf.fetched <;> simp [Exchange.Refuses]
  | rolledBack hf text parameters reason =>
    refine ⟨.rolledBack hf.fetched _ text parameters _, ?_, ?_, ?_⟩ <;>
      cases hf.fetched <;> simp [Exchange.Refuses]

/-! ### The secret is fetched as long as no address is known -/

theorem Locates.of_unknown {fetch : List Exchange} {r : Except Failure Value}
    (h : Locates store known fetch r none) : known = none ∧ ∀ e ∈ fetch, ¬ e.Tells := by
  cases h with
  | lost reply f hno => exact ⟨rfl, by simpa using hno⟩

/-- As long as no address is known, none has been told. -/
theorem Serves.of_unknown (h : Serves store known c none) :
    known = none ∧ ∀ e ∈ c.exchanges, ¬ e.Tells := by
  cases h with
  | refused _ => exact ⟨rfl, by simp⟩
  | unaddressed hf _ => exact hf.of_unknown
  | unconnected hf _ | committed hf _ _ _ | rolledBack hf _ _ _ =>
    obtain ⟨hknown, htells⟩ := hf.of_unknown
    refine ⟨hknown, fun e he => ?_⟩
    obtain he | he := List.mem_append.mp he
    · exact htells e he
    · rintro ⟨url, timeout, contents, address, rfl, -⟩
      simp at he

theorem Locates.nothing_or_unknown {fetch : List Exchange} {r : Except Failure Value}
    (h : Locates store known fetch r known') : fetch = [] ∨ known = none := by
  cases h with
  | known => exact .inl rfl
  | lost => exact .inr rfl
  | found => exact .inr rfl

/-- Where an address is known, the secret is not fetched. -/
theorem Serves.unknown_of_fetches (h : Serves store known c known') {e : Exchange}
    (he : e ∈ c.exchanges) (hfetches : e.Fetches) : known = none := by
  obtain ⟨url, timeout, reply, rfl⟩ := hfetches
  cases h with
  | refused _ => simp at he
  | unaddressed hf _ | unconnected hf _ | committed hf _ _ _ | rolledBack hf _ _ _ =>
    obtain rfl | hknown := hf.nothing_or_unknown
    · simp at he
    · exact hknown

/-- Calls one after the other, each from the address that the one before it leaves. -/
inductive Service (store : SecretStore) : Address → List Call → Address → Prop
  | idle (known : Address) : Service store known [] known
  | call {known known' known'' : Address} {c : Call} {rest : List Call}
      (h : Serves store known c known') (hrest : Service store known' rest known'') :
      Service store known (c :: rest) known''

variable {calls : List Call}

theorem Service.inOrder (h : Service store known calls known') : ∀ c ∈ calls, c.InOrder := by
  induction h with
  | idle => simp
  | call hc _ ih => exact List.forall_mem_cons.mpr ⟨hc.inOrder, ih⟩

theorem Service.of_append {before after : List Call}
    (h : Service store known (before ++ after) known') :
    ∃ between, Service store known before between ∧ Service store between after known' := by
  induction before generalizing known with
  | nil => exact ⟨known, .idle known, h⟩
  | cons c before ih =>
    cases h with
    | call hc hrest =>
      obtain ⟨between, hbefore, hafter⟩ := ih hrest
      exact ⟨between, .call hc hbefore, hafter⟩

theorem Service.of_unknown (h : Service store known calls known') (hnone : known' = none) :
    known = none ∧ ∀ c ∈ calls, ∀ e ∈ c.exchanges, ¬ e.Tells := by
  induction h with
  | idle => exact ⟨hnone, by simp⟩
  | call hc _ ih =>
    obtain ⟨rfl, hrest⟩ := ih hnone
    obtain ⟨hknown, hfirst⟩ := hc.of_unknown
    exact ⟨hknown, List.forall_mem_cons.mpr ⟨hfirst, hrest⟩⟩

/-- When a call fetches the secret, no address was known at first and none has been told since. -/
theorem Service.unknown_of_fetches {before after : List Call}
    (h : Service store known (before ++ c :: after) known') {e : Exchange} (he : e ∈ c.exchanges)
    (hfetches : e.Fetches) :
    known = none ∧ ∀ earlier ∈ before, ∀ e ∈ earlier.exchanges, ¬ e.Tells := by
  obtain ⟨between, hbefore, hafter⟩ := h.of_append
  cases hafter with
  | call hc _ => exact hbefore.of_unknown (hc.unknown_of_fetches he hfetches)

theorem leads_runAll (known : Address) (requests : List Request) :
    (runAll store requests).Leads known fun known' exchanges answers =>
      ∃ calls, calls.map Call.answer = answers ∧ answers.length = requests.length ∧
        exchanges = trace calls ∧ Service store known calls known' := by
  induction requests generalizing known with
  | nil => exact ⟨[], rfl, rfl, rfl, .idle known⟩
  | cons r rest ih =>
    refine (leads_run known r).bind fun known' exchanges answer hc => ?_
    refine (ih known').bind fun known'' more answers hrest => ?_
    obtain ⟨calls, rfl, hlength, rfl, hservice⟩ := hrest
    refine ⟨⟨exchanges, answer⟩ :: calls, rfl, congrArg Nat.succ hlength, ?_, .call hc hservice⟩
    rw [List.append_nil]
    rfl

/-- A world where the secret holds an address and the database executes one statement only. -/
def executing (statement : String) : World := fun _ q =>
  match q with
  | .secret _ _ => some (.ok (.object [("DATABASE_URL", .str "postgres://db")]))
  | .connect _ => some (.ok ())
  | .execute text _ => some (if text = statement then .ok (some [.int 1]) else .error "syntax error")
  | .commit | .rollback | .close => some ()
  | _ => none

end Database

end ChatFlow
