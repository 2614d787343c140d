import ChatFlow.Outside.Completion
import ChatFlow.Outside.Database.Client
import ChatFlow.Outside.Email
import ChatFlow.Outside.Http
import ChatFlow.Outside.Sheet
import ChatFlow.Outside.WhatsApp.Client
import ChatFlow.Proofs.Outside.Task

/-!
# Worlds that reply to a question always in the same way

In such a world what a task comes to can depend only on the state that it begins
with.  `Task.Steady` says that it depends on no more than a key of that state, and
that the key stays as it is: so other steady tasks may have been run before.  Tasks
that neither read nor write the state are steady whatever the key is
(`Task.Stateless.steady`); the clients of all services are of this kind, with one
exception.  The client of the database remembers the address that it has fetched,
and is steady for what the address is found to be (`Database.steady_run`).
-/

namespace ChatFlow

/-- A world in which the reply depends on the question only. -/
def World.replying (reply : (q : Query) → q.Reply) : World := fun _ q => some (reply q)

theorem World.replying_replies (reply : (q : Query) → q.Reply) : (replying reply).Replies :=
  fun _ _ => rfl

namespace Task

variable {σ κ α β ε : Type}

/-! ### Tasks without a state -/

/-- A task that neither reads nor writes the state. -/
def Stateless : Task σ α → Prop
  | done _ => True
  | get _ => False
  | put _ _ => False
  | ask q next => ∀ r : q.Reply, (next r).Stateless

theorem stateless_pure (a : α) : (pure a : Task σ α).Stateless := trivial

theorem stateless_query (q : Query) : (query q : Task σ q.Reply).Stateless := fun _ => trivial

theorem Stateless.bind {t : Task σ α} {f : α → Task σ β} (ht : t.Stateless)
    (hf : ∀ a, (f a).Stateless) : (t >>= f).Stateless := by
  induction t with
  | done a => exact hf a
  | get next ih => exact ht.elim
  | put s next ih => exact ht.elim
  | ask q next ih => exact fun r => ih r (ht r)

theorem stateless_run_pure (a : α) : (pure a : ExceptT ε (Task σ) α).run.Stateless :=
  trivial

theorem stateless_run_throw (e : ε) : (throw e : ExceptT ε (Task σ) α).run.Stateless :=
  trivial

theorem stateless_run_attempt (r : Except ε α) :
    (attempt r : ExceptT ε (Task σ) α).run.Stateless := trivial

/-- A task that may fail is stateless if its parts are: a failure is a value like others. -/
theorem Stateless.run_bind {x : ExceptT ε (Task σ) α} {f : α → ExceptT ε (Task σ) β}
    (hx : x.run.Stateless) (hf : ∀ a, (f a).run.Stateless) : (x >>= f).run.Stateless := by
  rw [ExceptT.run_bind]
  refine hx.bind fun r => ?_
  cases r with
  | error e => exact stateless_pure _
  | ok a => exact hf a

/-- A question, and what is made of the reply. -/
theorem Stateless.run_query (q : Query) {f : q.Reply → ExceptT ε (Task σ) β}
    (hf : ∀ r, (f r).run.Stateless) : (ExceptT.lift (query q) >>= f).run.Stateless :=
  .run_bind ((stateless_query q).bind fun _ => stateless_pure _) hf

/-! ### Tasks that depend on a key of the state -/

variable (reply : (q : Query) → q.Reply) (key : σ → κ)

/-- From every state with this key a task comes to this value, and leaves the key as it is. -/
def ComesTo (k : κ) (t : Task σ α) (a : α) : Prop :=
  ∀ s asked, key s = k → ∃ s' asked', t.run (.replying reply) s asked = ⟨s', asked', .inr a⟩ ∧
    key s' = k

/-- What a task comes to depends only on the key of the state that it begins with. -/
def Steady (t : Task σ α) : Prop := ∀ s, ∃ a, t.ComesTo reply key (key s) a

variable {reply key} {k : κ}

theorem ComesTo.pure (a : α) : (pure a : Task σ α).ComesTo reply key k a :=
  fun s asked h => ⟨s, asked, rfl, h⟩

theorem ComesTo.bind {t : Task σ α} {f : α → Task σ β} {a : α} {b : β}
    (ht : t.ComesTo reply key k a) (hf : (f a).ComesTo reply key k b) :
    (t >>= f).ComesTo reply key k b := by
  intro s asked hs
  obtain ⟨s₁, asked₁, h₁, hs₁⟩ := ht s asked hs
  obtain ⟨s₂, asked₂, h₂, hs₂⟩ := hf s₁ asked₁ hs₁
  exact ⟨s₂, asked₂, (run_bind _ t f s asked h₁).trans h₂, hs₂⟩

theorem Steady.pure (a : α) : (pure a : Task σ α).Steady reply key := fun _ => ⟨a, .pure a⟩

theorem Steady.bind {t : Task σ α} {f : α → Task σ β} (ht : t.Steady reply key)
    (hf : ∀ a, (f a).Steady reply key) : (t >>= f).Steady reply key := by
  intro s
  obtain ⟨a, ha⟩ := ht s
  obtain ⟨b, hb⟩ := hf a s
  exact ⟨b, ha.bind hb⟩

/-- Parts of tasks that may fail: a failure is a value like others. -/
theorem Steady.run_bind {x : ExceptT ε (Task σ) α} {f : α → ExceptT ε (Task σ) β}
    (hx : x.run.Steady reply key) (hf : ∀ a, (f a).run.Steady reply key) :
    (x >>= f).run.Steady reply key := by
  rw [ExceptT.run_bind]
  refine hx.bind fun r => ?_
  cases r with
  | error e => exact .pure _
  | ok a => exact hf a

theorem Stateless.exists_value {t : Task σ α} (ht : t.Stateless)
    (reply : (q : Query) → q.Reply) :
    ∃ a, ∀ s asked, ∃ asked', t.run (.replying reply) s asked = ⟨s, asked', .inr a⟩ := by
  induction t with
  | done a => exact ⟨a, fun s asked => ⟨asked, rfl⟩⟩
  | get next ih => exact ht.elim
  | put s next ih => exact ht.elim
  | ask q next ih =>
    obtain ⟨a, ha⟩ := ih (reply q) (ht (reply q))
    exact ⟨a, fun s asked => ha s _⟩

-- From here on only the lemmas above are used: unfolding this would evaluate the task.
attribute [irreducible] Stateless

theorem Stateless.steady {t : Task σ α} (ht : t.Stateless) : t.Steady reply key := by
  intro s
  obtain ⟨a, ha⟩ := ht.exists_value reply
  refine ⟨a, fun s asked hs => ?_⟩
  obtain ⟨asked', h⟩ := ha s asked
  exact ⟨s, asked', h, hs⟩

end Task

/-! ### The clients -/

section

variable {σ : Type}

theorem WhatsApp.send_stateless (a : Account) (payload : Value) :
    (send (σ := σ) a payload).run.Stateless := by
  unfold send
  split
  · refine .run_query _ fun outcome => ?_
    refine .run_bind (Task.stateless_run_attempt _) fun delivery => ?_
    split
    · exact Task.stateless_run_attempt _
    · exact Task.stateless_run_pure _
  · exact Task.stateless_run_pure _

theorem Http.request_stateless (limit method : Value) (url : String)
    (headers : Entries Value) (body timeout : Value) :
    (Http.request (σ := σ) limit method url headers body timeout).run.Stateless := by
  unfold Http.request
  refine .run_bind (Task.stateless_run_attempt _) fun word => ?_
  dsimp only
  split
  · exact Task.stateless_run_pure _
  · exact .run_query _ fun outcome => Task.stateless_run_attempt _

theorem Sheet.write_stateless (a : Account) (o : Order) :
    (write (σ := σ) a o).run.Stateless := by
  unfold write
  split
  · exact Task.stateless_run_pure _
  · refine .run_bind (Task.stateless_run_attempt _) fun target => ?_
    split
    · exact Task.stateless_run_pure _
    · split
      · exact Task.stateless_run_pure _
      · exact .run_query _ fun outcome => Task.stateless_run_pure _

theorem Completion.complete_stateless (a : Account) (p : Prompt) :
    (complete (σ := σ) a p).run.Stateless := by
  unfold complete
  refine .run_bind (Task.stateless_run_attempt _) fun name => ?_
  split
  · exact Task.stateless_run_pure _
  · split
    · exact Task.stateless_run_pure _
    · split
      · exact Task.stateless_run_pure _
      · exact .run_query _ fun outcome => Task.stateless_run_attempt _

theorem Email.send_stateless (a : Account) (now : Calendar.Instant) (l : Letter) :
    (send (σ := σ) a now l).run.Stateless := by
  unfold send
  split
  · exact Task.stateless_run_pure _
  · split
    · split
      · exact Task.stateless_run_pure _
      · split
        · exact Task.stateless_run_pure _
        · exact .run_query _ fun outcome => Task.stateless_run_attempt _
    · exact Task.stateless_run_attempt _

end

/-! ### The database -/

namespace Database

variable (store : SecretStore) (reply : (q : Query) → q.Reply)

/-- What the address of the database is found to be. -/
def found (known : Address) : Option (Except Failure Value) :=
  ((address store).run (.replying reply) known []).value?

/-- The address is found in the secret if it is not known. -/
theorem address_run_none (asked : List Query) :
    ∃ asked', (address store).run (.replying reply) none asked =
      match reply (.secret store.url 10) with
      | .error reason => ⟨none, asked', .inr (.error (.noDatabase
          ("Failed to fetch DATABASE_URL from Dapr secrets: " ++ reason)))⟩
      | .ok contents =>
        match addressIn contents with
        | .error f => ⟨none, asked', .inr (.error f)⟩
        | .ok v => ⟨some v, asked', .inr (.ok v)⟩ := by
  refine ⟨asked ++ [.secret store.url 10], ?_⟩
  simp only [address, Task.state, Task.query, Task.get_bind, Task.done_bind, Task.ask_bind, Task.run,
    World.replying]
  cases reply (.secret store.url 10) with
  | error reason => rfl
  | ok contents =>
    simp only
    cases addressIn contents <;> rfl

theorem exists_found (known : Address) : ∃ v known', found store reply known = some v ∧
    found store reply known' = some v ∧
    ∀ asked, ∃ asked', (address store).run (.replying reply) known asked = ⟨known', asked', .inr v⟩ := by
  cases known with
  | some v => exact ⟨.ok v, some v, rfl, rfl, fun asked => ⟨asked, rfl⟩⟩
  | none =>
    have hnone (v : Except Failure Value) (known' : Address)
        (h : ∀ asked, ∃ asked', (address store).run (.replying reply) none asked =
          ⟨known', asked', .inr v⟩) : found store reply none = some v := by
      obtain ⟨asked', h⟩ := h []
      rw [found, h]
      rfl
    have hrun := address_run_none store reply
    cases hr : reply (.secret store.url 10) with
    | error reason =>
      simp only [hr] at hrun
      exact ⟨_, none, hnone _ _ hrun, hnone _ _ hrun, hrun⟩
    | ok contents =>
      simp only [hr] at hrun
      cases ha : addressIn contents with
      | error f =>
        simp only [ha] at hrun
        exact ⟨_, none, hnone _ _ hrun, hnone _ _ hrun, hrun⟩
      | ok v =>
        simp only [ha] at hrun
        exact ⟨_, some v, hnone _ _ hrun, rfl, hrun⟩

/-- An address that has been found is found again. -/
theorem steady_address : (address store).Steady reply (found store reply) := by
  intro known
  obtain ⟨v, -, hv, -, -⟩ := exists_found store reply known
  refine ⟨v, fun s asked hs => ?_⟩
  obtain ⟨w, s', hw, hw', hrun⟩ := exists_found store reply s
  obtain rfl := Option.some.inj (hw.symm.trans (hs.trans hv))
  obtain ⟨asked', hrun⟩ := hrun asked
  exact ⟨s', asked', hrun, hw'.trans hv.symm⟩

theorem executeAndClose_stateless {σ : Type} (text : String) (parameters : List Value) :
    (executeAndClose (σ := σ) text parameters).Stateless := by
  refine .bind (Task.stateless_query _) fun answer => ?_
  cases answer with
  | error reason =>
    exact .bind (Task.stateless_query _) fun _ =>
      .bind (Task.stateless_query _) fun _ => Task.stateless_pure _
  | ok rows =>
    exact .bind (Task.stateless_query _) fun _ =>
      .bind (Task.stateless_query _) fun _ => Task.stateless_pure _

theorem steady_execute (text : String) (parameters : List Value) :
    (execute store text parameters).Steady reply (found store reply) := by
  refine (steady_address store reply).bind fun url => ?_
  cases url with
  | error f => exact .pure _
  | ok url =>
    refine Task.Stateless.steady (.bind (Task.stateless_query _) fun connected => ?_)
    cases connected with
    | error reason => exact Task.stateless_pure _
    | ok _ => exact .bind (executeAndClose_stateless text parameters) fun _ => Task.stateless_pure _

theorem steady_run (operation : String) (table filters : Value) (query : String) :
    (run store operation table filters query).Steady reply (found store reply) := by
  unfold run
  split
  · exact .pure _
  · split
    · exact .pure _
    · refine (steady_execute store reply _ _).bind fun answer => ?_
      cases answer <;> exact .pure _

end Database

end ChatFlow
