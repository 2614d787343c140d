import ChatFlow.Outside.Task

/-!
# What tasks come to

Two ways to reason about a task without walking through its tree.

`Task.Always P` says that every value of a task has the property `P`, whatever
the states are that it reads and whatever the world replies; `Task.Ensures P`
says the same of the successes of a task that may fail.  Both go through a `do`
block part by part (`always_bind`, `ensures_bind`), so a fact about a handler
is a fact about each value that it can return.

The other way is exact: `run_andThen` gives the run of one task after another
from how far the first one comes, and `run_within` that of a task on a part of
the state from its run on that part.

A task stands still only at a question without a reply, so in a world that replies
to every question it ends (`run_ends`).  What has been asked stays asked: the
questions before a task are a prefix of those after it (`asked_prefix`).
-/

namespace ChatFlow.Task

variable {σ τ α β ε : Type}

/-! ### The laws of a monad -/

theorem bind_pure' (t : Task σ α) : t >>= pure = t := by
  induction t with
  | done a => rfl
  | get next ih => exact congrArg get (funext ih)
  | put s next ih => exact congrArg (put s) ih
  | ask q next ih => exact congrArg (ask q) (funext ih)

theorem bind_assoc' {γ : Type} (t : Task σ α) (f : α → Task σ β) (g : β → Task σ γ) :
    t >>= f >>= g = t >>= fun a => f a >>= g := by
  induction t with
  | done a => rfl
  | get next ih => exact congrArg get (funext ih)
  | put s next ih => exact congrArg (put s) ih
  | ask q next ih => exact congrArg (ask q) (funext ih)

instance : LawfulMonad (Task σ) := LawfulMonad.mk' _
  (fun t => bind_pure' t)
  (fun _ _ => rfl)
  bind_assoc'

/-! ### Every value of a task -/

/-- Whatever a task reads and whatever the world replies, its value has a property. -/
def Always (P : α → Prop) : Task σ α → Prop
  | done a => P a
  | get next => ∀ s, (next s).Always P
  | put _ next => next.Always P
  | ask q next => ∀ r : q.Reply, (next r).Always P

/-- The value of a task that may fail has a property whenever the task succeeds. -/
def Ensures (P : α → Prop) (x : ExceptT ε (Task σ) α) : Prop :=
  Always (fun r => ∀ a, r = .ok a → P a) x.run

@[simp] theorem always_pure (P : α → Prop) (a : α) : Always P (pure a : Task σ α) ↔ P a := Iff.rfl

theorem always_done {P : α → Prop} {a : α} : Always P (done a : Task σ α) ↔ P a := Iff.rfl

theorem always_get {P : α → Prop} {next : σ → Task σ α} :
    Always P (get next) ↔ ∀ s, (next s).Always P := Iff.rfl

theorem always_put {P : α → Prop} {s : σ} {next : Task σ α} :
    Always P (put s next) ↔ next.Always P := Iff.rfl

theorem always_ask {P : α → Prop} {q : Query} {next : q.Reply → Task σ α} :
    Always P (ask q next) ↔ ∀ r, (next r).Always P := Iff.rfl

theorem Always.pure {P : α → Prop} {a : α} (h : P a) : Always P (Pure.pure a : Task σ α) := h

theorem Always.mono {P Q : α → Prop} (h : ∀ a, P a → Q a) {t : Task σ α} (ht : t.Always P) :
    t.Always Q := by
  induction t with
  | done a => exact h a ht
  | get next ih => exact fun s => ih s (ht s)
  | put s next ih => exact ih ht
  | ask q next ih => exact fun r => ih r (ht r)

theorem always_of_forall {P : α → Prop} (h : ∀ a, P a) (t : Task σ α) : t.Always P := by
  induction t with
  | done a => exact h a
  | get next ih => exact ih
  | put s next ih => exact ih
  | ask q next ih => exact ih

@[simp] theorem always_bind (P : β → Prop) (t : Task σ α) (f : α → Task σ β) :
    Always P (t >>= f) ↔ Always (fun a => Always P (f a)) t := by
  induction t with
  | done a => rfl
  | get next ih => exact forall_congr' ih
  | put s next ih => exact ih
  | ask q next ih => exact forall_congr' ih

/-- What every value of a task has, the value that a run of it ends with has. -/
theorem Always.of_run {P : α → Prop} {t : Task σ α} (ht : t.Always P) {world : World} {s s' : σ}
    {asked asked' : List Query} {a : α} (h : t.run world s asked = ⟨s', asked', .inr a⟩) : P a := by
  induction t generalizing s asked with
  | done b =>
    simp only [run, Progress.mk.injEq, Sum.inr.injEq] at h
    exact h.2.2 ▸ ht
  | get next ih => exact ih s (ht s) h
  | put u next ih => exact ih ht h
  | ask q next ih =>
    simp only [run] at h
    cases hw : world asked q with
    | none => simp [hw] at h
    | some r => rw [hw] at h; exact ih r (ht r) h

/-! ### Tasks that may fail -/

theorem Ensures.always {P : α → Prop} {x : ExceptT ε (Task σ) α} (hx : Ensures P x) :
    Always (fun r => ∀ a, r = .ok a → P a) x.run := hx

theorem Ensures.mono {P Q : α → Prop} (h : ∀ a, P a → Q a) {x : ExceptT ε (Task σ) α}
    (hx : Ensures P x) : Ensures Q x :=
  Always.mono (fun _ hr a ha => h a (hr a ha)) hx

theorem ensures_of_forall {P : α → Prop} (h : ∀ a, P a) (x : ExceptT ε (Task σ) α) :
    Ensures P x :=
  always_of_forall (fun _ a _ => h a) _

@[simp] theorem ensures_true (x : ExceptT ε (Task σ) α) : Ensures (fun _ => True) x :=
  ensures_of_forall (fun _ => trivial) x

@[simp] theorem ensures_pure (P : α → Prop) (a : α) :
    Ensures P (pure a : ExceptT ε (Task σ) α) ↔ P a :=
  ⟨fun h => h a rfl, fun h _ hb => Except.ok.inj hb ▸ h⟩

theorem Ensures.pure {P : α → Prop} {a : α} (h : P a) :
    Ensures P (Pure.pure a : ExceptT ε (Task σ) α) := (ensures_pure P a).mpr h

@[simp] theorem ensures_throw (P : α → Prop) (e : ε) :
    Ensures P (throw e : ExceptT ε (Task σ) α) :=
  fun _ hb => by cases hb

@[simp] theorem ensures_attempt (P : α → Prop) (r : Except ε α) :
    Ensures P (attempt r : ExceptT ε (Task σ) α) ↔ ∀ a, r = .ok a → P a := Iff.rfl

@[simp] theorem ensures_bind (P : β → Prop) (x : ExceptT ε (Task σ) α)
    (f : α → ExceptT ε (Task σ) β) :
    Ensures P (x >>= f) ↔ Ensures (fun a => Ensures P (f a)) x := by
  unfold Ensures
  rw [ExceptT.run_bind, always_bind]
  constructor
  · refine fun h => h.mono fun r hr a ha => ?_
    subst ha
    exact hr
  · refine fun h => h.mono fun r hr => ?_
    cases r with
    | error e => exact fun _ hb => by cases hb
    | ok a => exact hr a rfl

@[simp] theorem ensures_map (P : β → Prop) (f : α → β) (x : ExceptT ε (Task σ) α) :
    Ensures P (f <$> x) ↔ Ensures (fun a => P (f a)) x := by
  rw [← bind_pure_comp, ensures_bind]
  simp only [ensures_pure]

/-- A task that ensures something whatever the value before it is ensures it after any task. -/
theorem ensures_then {P : β → Prop} {x : ExceptT ε (Task σ) α} {f : α → ExceptT ε (Task σ) β}
    (h : ∀ a, Ensures P (f a)) : Ensures P (x >>= f) :=
  (ensures_bind P x f).mpr (ensures_of_forall h x)

@[simp] theorem ensures_ite (P : α → Prop) (c : Prop) [Decidable c] (x y : ExceptT ε (Task σ) α) :
    Ensures P (if c then x else y) ↔ (c → Ensures P x) ∧ (¬ c → Ensures P y) := by
  by_cases h : c <;> simp [h]

/-! ### The parts of a task that may fail -/

theorem attempt_ok_bind (a : α) (f : α → ExceptT ε (Task σ) β) :
    (attempt (.ok a) >>= f) = f a := rfl

theorem run_lift_bind (t : Task σ α) (f : α → ExceptT ε (Task σ) β) :
    (ExceptT.lift t >>= f).run = t >>= fun a => (f a).run := by
  induction t with
  | done a => rfl
  | get next ih => exact congrArg get (funext ih)
  | put s next ih => exact congrArg (put s) ih
  | ask q next ih => exact congrArg (ask q) (funext ih)

theorem ensures_lift_bind (P : β → Prop) (t : Task σ α) (f : α → ExceptT ε (Task σ) β) :
    Ensures P (ExceptT.lift t >>= f) ↔ Always (fun a => Ensures P (f a)) t := by
  unfold Ensures
  rw [run_lift_bind, always_bind]

-- From here on only the lemmas above are used: unfolding these would evaluate the task.
attribute [irreducible] Always Ensures

/-! ### Runs of composed tasks -/

/-- What comes of a task that goes on after another one has come so far. -/
def Progress.andThen (p : Progress σ α) (world : World) (f : α → Task σ β) : Progress σ β :=
  match p.outcome with
  | .inr a => (f a).run world p.state p.asked
  | .inl t => ⟨p.state, p.asked, .inl (t >>= f)⟩

theorem run_andThen (world : World) (t : Task σ α) (f : α → Task σ β) (s : σ)
    (asked : List Query) :
    (t >>= f).run world s asked = (t.run world s asked).andThen world f := by
  induction t generalizing s asked with
  | done a => rfl
  | get next ih => exact ih s s asked
  | put u next ih => exact ih u asked
  | ask q next ih =>
    simp only [ask_bind, run]
    cases world asked q with
    | none => rfl
    | some r => exact ih r s _

@[simp] theorem andThen_pure_asked (p : Progress σ α) (world : World) (f : α → β) :
    (p.andThen world fun a => pure (f a)).asked = p.asked := by
  unfold Progress.andThen
  split <;> rfl

theorem andThen_pure_outcome {p : Progress σ α} {world : World} {f : α → β} {b : β}
    (h : (p.andThen world fun a => pure (f a)).outcome = .inr b) :
    ∃ a, p.outcome = .inr a ∧ b = f a := by
  unfold Progress.andThen at h
  split at h
  · rename_i a ha
    exact ⟨a, ha, (Sum.inr.inj h).symm⟩
  · cases h

/-- A task on a part of the state runs as it does on that part alone; `read` and `write` have to fit
together. -/
theorem run_within {read : τ → σ} {write : σ → τ → τ} (hself : ∀ t, write (read t) t = t)
    (hread : ∀ a t, read (write a t) = a) (hwrite : ∀ a b t, write a (write b t) = write a t)
    (world : World) (t : Task σ α) (u : τ) (asked : List Query) :
    (t.within read write).run world u asked =
      ⟨write (t.run world (read u) asked).state u, (t.run world (read u) asked).asked,
        (t.run world (read u) asked).outcome.map (within read write) id⟩ := by
  induction t generalizing u asked with
  | done a => simp [within, run, hself]
  | get next ih => exact ih (read u) u asked
  | put s next ih =>
    have h := ih (write s u) asked
    rw [hread, hwrite] at h
    exact h
  | ask q next ih =>
    simp only [within, run]
    cases world asked q with
    | none => simp [within, hself]
    | some r => exact ih r u _

end ChatFlow.Task

/-! ### Worlds that reply -/

namespace ChatFlow

namespace World

/-- A world that replies to every question, well or badly. -/
def Replies (world : World) : Prop := ∀ asked q, (world asked q).isSome

/-- A world that refuses everything. -/
def refusing : World := fun _ q =>
  match q with
  | .http _ => some (.broken "refused")
  | .sleep _ => some ()
  | .connect _ => some (.error "refused")
  | .execute _ _ => some (.error "refused")
  | .commit => some ()
  | .rollback => some ()
  | .close => some ()
  | .secret _ _ => some (.error "refused")
  | .saveState _ _ _ => some (.error "refused")
  | .getSettings _ _ => some (.error "refused")

theorem refusing_replies : refusing.Replies := by
  intro asked q
  cases q <;> rfl

end World

namespace Task

variable {σ α : Type} (t : Task σ α) (s : σ) (asked : List Query)

/-- In a world that replies a task comes to a value. -/
theorem run_ends {world : World} (hw : world.Replies) :
    ∃ s' asked' a, t.run world s asked = ⟨s', asked', .inr a⟩ := by
  induction t generalizing s asked with
  | done a => exact ⟨s, asked, a, rfl⟩
  | get next ih => exact ih s s asked
  | put u next ih => exact ih u asked
  | ask q next ih =>
    obtain ⟨r, hr⟩ := Option.isSome_iff_exists.mp (hw asked q)
    simp only [run, hr]
    exact ih r s _

theorem asked_prefix (world : World) : asked <+: (t.run world s asked).asked := by
  induction t generalizing s asked with
  | done a => exact List.prefix_rfl
  | get next ih => exact ih s s asked
  | put u next ih => exact ih u asked
  | ask q next ih =>
    have hq : asked <+: asked ++ [q] := List.prefix_append asked [q]
    simp only [run]
    cases world asked q with
    | none => exact hq
    | some r => exact hq.trans (ih r s _)

end Task

end ChatFlow
