import ChatFlow.Proofs.Outside.Task

/-!
# What tasks make of the replies

`Task.Traces P` says that `P` holds of every value of a task together with the
questions that were asked and the replies that came on the way to it, whatever they
are.  Like `Task.Always` it goes through a `do` block part by part (`Traces.bind`), and
of a run that ends it tells what the value has to do with the replies of the world
(`Traces.of_run`).
-/

namespace ChatFlow

/-- A question and the reply to it. -/
abbrev Exchange := (q : Query) × q.Reply

/-- The world gives these replies to these questions, one after the other, after those before. -/
def World.Gives (world : World) (asked : List Query) : List Exchange → Prop
  | [] => True
  | e :: rest => world asked e.1 = some e.2 ∧ world.Gives (asked ++ [e.1]) rest

namespace Task

variable {σ α β ε : Type}

/-- Every value of a task, together with the exchanges on the way to it, has this property. -/
def Traces : Task σ α → (List Exchange → α → Prop) → Prop
  | done a, P => P [] a
  | get next, P => ∀ s, (next s).Traces P
  | put _ next, P => next.Traces P
  | ask q next, P => ∀ r : q.Reply, (next r).Traces fun exchanges a => P (⟨q, r⟩ :: exchanges) a

variable {P : List Exchange → α → Prop}

theorem Traces.pure {a : α} (h : P [] a) : (Pure.pure a : Task σ α).Traces P := h

theorem Traces.mono {R : List Exchange → α → Prop} {t : Task σ α} (ht : t.Traces P)
    (h : ∀ exchanges a, P exchanges a → R exchanges a) : t.Traces R := by
  induction t generalizing P R with
  | done a => exact h [] a ht
  | get next ih => exact fun s => ih s (ht s) h
  | put s next ih => exact ih ht h
  | ask q next ih => exact fun r => ih r (ht r) fun exchanges a => h (⟨q, r⟩ :: exchanges) a

/-- What is done after a task adds its exchanges to those of the task. -/
theorem Traces.bind {t : Task σ α} {f : α → Task σ β} {R : List Exchange → β → Prop}
    (ht : t.Traces P)
    (hf : ∀ exchanges a, P exchanges a → (f a).Traces fun more b => R (exchanges ++ more) b) :
    (t >>= f).Traces R := by
  induction t generalizing P R with
  | done a => exact hf [] a ht
  | get next ih => exact fun s => ih s (ht s) hf
  | put s next ih => exact ih ht hf
  | ask q next ih => exact fun r => ih r (ht r) fun exchanges a => hf (⟨q, r⟩ :: exchanges) a

/-- What the values have after their exchanges, and what they always have. -/
theorem Traces.and_always {R : α → Prop} {t : Task σ α} (ht : t.Traces P) (h : t.Always R) :
    t.Traces fun exchanges a => P exchanges a ∧ R a := by
  induction t generalizing P with
  | done a => exact ⟨ht, always_done.mp h⟩
  | get next ih => exact fun s => ih s (ht s) (always_get.mp h s)
  | put s next ih => exact ih ht (always_put.mp h)
  | ask q next ih => exact fun r => ih r (ht r) (always_ask.mp h r)

/-- What every value has, it has whatever the exchanges were. -/
theorem Always.traces {R : α → Prop} {t : Task σ α} (h : t.Always R) :
    t.Traces fun _ a => R a := by
  induction t with
  | done a =>
    have ha : R a := always_done.mp h
    exact ha
  | get next ih => exact fun s => ih s (always_get.mp h s)
  | put s next ih => exact ih (always_put.mp h)
  | ask q next ih => exact fun r => ih r (always_ask.mp h r)

/-- The value of a run, and the exchanges of the run with the world. -/
theorem Traces.of_run {t : Task σ α} (ht : t.Traces P) {world : World} {s s' : σ}
    {asked asked' : List Query} {a : α} (h : t.run world s asked = ⟨s', asked', .inr a⟩) :
    ∃ exchanges, asked' = asked ++ exchanges.map Sigma.fst ∧ world.Gives asked exchanges ∧
      P exchanges a := by
  induction t generalizing P s asked with
  | done b =>
    simp only [run, Progress.mk.injEq, Sum.inr.injEq] at h
    obtain ⟨-, rfl, rfl⟩ := h
    exact ⟨[], (List.append_nil asked).symm, trivial, ht⟩
  | get next ih => exact ih s (ht s) h
  | put u next ih => exact ih ht h
  | ask q next ih =>
    simp only [run] at h
    cases hw : world asked q with
    | none =>
      rw [hw] at h
      cases h
    | some r =>
      rw [hw] at h
      obtain ⟨exchanges, hasked, hgives, hP⟩ := ih r (ht r) h
      refine ⟨⟨q, r⟩ :: exchanges, ?_, ⟨hw, hgives⟩, hP⟩
      rw [hasked, List.append_assoc, List.map_cons, List.singleton_append]

/-! ### Tasks that may fail -/

section

variable {P : List Exchange → Except ε α → Prop}

theorem traces_run_pure {a : α} (h : P [] (.ok a)) :
    (Pure.pure a : ExceptT ε (Task σ) α).run.Traces P := h

/-- A computation that may fail comes first, and asks nothing. -/
theorem traces_attempt_bind {r : Except ε β} {g : β → ExceptT ε (Task σ) α}
    (hg : ∀ b, r = .ok b → (g b).run.Traces P) (he : ∀ e, r = .error e → P [] (.error e)) :
    (attempt r >>= g).run.Traces P := by
  cases r with
  | error e => exact he e rfl
  | ok b => exact hg b rfl

/-- A task that may fail goes on only if the part before did not. -/
theorem Traces.run_bind {x : ExceptT ε (Task σ) β} {f : β → ExceptT ε (Task σ) α}
    {R : List Exchange → Except ε β → Prop} (hx : x.run.Traces R)
    (hf : ∀ exchanges b, R exchanges (.ok b) →
      (f b).run.Traces fun more a => P (exchanges ++ more) a)
    (he : ∀ exchanges e, R exchanges (.error e) → P exchanges (.error e)) :
    (x >>= f).run.Traces P := by
  rw [ExceptT.run_bind]
  refine hx.bind fun exchanges r hr => ?_
  cases r with
  | error e =>
    refine Traces.pure ?_
    rw [List.append_nil]
    exact he exchanges e hr
  | ok b => exact hf exchanges b hr

/-- A question, and what is made of the reply. -/
theorem traces_query_bind {q : Query} {g : q.Reply → ExceptT ε (Task σ) α}
    (hg : ∀ r, (g r).run.Traces fun exchanges a => P (⟨q, r⟩ :: exchanges) a) :
    (ExceptT.lift (query q) >>= g).run.Traces P := by
  rw [run_lift_bind]
  exact hg

/-! ### The successes of a task -/

variable {Q : List Exchange → α → Prop}

/-- Every success of a task that may fail, together with the exchanges on the way to it, has this
property. -/
def Yields (Q : List Exchange → α → Prop) (x : ExceptT ε (Task σ) α) : Prop :=
  x.run.Traces fun exchanges r => ∀ a, r = .ok a → Q exchanges a

theorem Yields.pure {a : α} (h : Q [] a) : Yields Q (Pure.pure a : ExceptT ε (Task σ) α) := by
  refine traces_run_pure fun b hb => ?_
  obtain rfl := Except.ok.inj hb
  exact h

/-- A computation that may fail comes first, and asks nothing. -/
theorem yields_attempt_bind {r : Except ε β} {g : β → ExceptT ε (Task σ) α}
    (hg : ∀ b, r = .ok b → Yields Q (g b)) : Yields Q (attempt r >>= g) :=
  traces_attempt_bind hg fun _ _ _ ha => nomatch ha

theorem yields_attempt {r : Except ε α} (h : ∀ a, r = .ok a → Q [] a) :
    Yields Q (attempt r : ExceptT ε (Task σ) α) := h

/-- A question, and what is made of the reply. -/
theorem yields_query_bind {q : Query} {g : q.Reply → ExceptT ε (Task σ) α}
    (hg : ∀ r, Yields (fun exchanges a => Q (⟨q, r⟩ :: exchanges) a) (g r)) :
    Yields Q (ExceptT.lift (query q) >>= g) := traces_query_bind hg

theorem Yields.mono {R : List Exchange → α → Prop} {x : ExceptT ε (Task σ) α} (hx : Yields Q x)
    (h : ∀ exchanges a, Q exchanges a → R exchanges a) : Yields R x :=
  Traces.mono hx fun exchanges _ hr a ha => h exchanges a (hr a ha)

/-- What is done after a success adds its exchanges to those before. -/
theorem Yields.bind {R : List Exchange → β → Prop} {x : ExceptT ε (Task σ) β}
    {f : β → ExceptT ε (Task σ) α} (hx : Yields R x)
    (hf : ∀ exchanges b, R exchanges b → Yields (fun more a => Q (exchanges ++ more) a) (f b)) :
    Yields Q (x >>= f) :=
  Traces.run_bind hx (fun exchanges b hb => hf exchanges b (hb b rfl)) fun _ _ _ _ ha => nomatch ha

/-- What a task ensures of its successes, it ensures whatever the exchanges were. -/
theorem Ensures.yields {R : α → Prop} {x : ExceptT ε (Task σ) α} (hx : Ensures R x) :
    Yields (fun _ a => R a) x := hx.always.traces

end

end Task

end ChatFlow
