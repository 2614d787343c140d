import ChatFlow.Outside.Query

/-!
# Tasks

A task is a computation that reads and writes a state of type `σ` and asks the
outside world.  It is a tree: each question has one branch for each reply.  So
the same task can be run to its end against a `World`, and can also be run in
turns with other tasks on one state, since it stands still at every question.

`Task.run` runs a task to its end and keeps every question asked.  `Task.turn`
runs it only to the next question that has to be waited for; `run_turn` says that
turn after turn it runs as `run` runs it.  `Task.within` lets a task work on a
part of a larger state.
-/

namespace ChatFlow

/-- A computation on a state that asks the outside world. -/
inductive Task (σ α : Type) where
  /-- The task has ended with a value. -/
  | done (a : α)
  /-- The task reads the state. -/
  | get (next : σ → Task σ α)
  /-- The task writes the state. -/
  | put (s : σ) (next : Task σ α)
  /-- The task asks the world and waits for the reply. -/
  | ask (q : Query) (next : q.Reply → Task σ α)

namespace Task

variable {σ τ α β : Type}

/-- One task, then the one that its value gives. -/
def andThen : Task σ α → (α → Task σ β) → Task σ β
  | done a, f => f a
  | get next, f => get fun s => (next s).andThen f
  | put s next, f => put s (next.andThen f)
  | ask q next, f => ask q fun r => (next r).andThen f

instance : Monad (Task σ) where
  pure := done
  bind := andThen

/-- The state. -/
def state : Task σ σ := get done

/-- Writes the state. -/
def setState (s : σ) : Task σ Unit := put s (done ())

/-- Changes the state. -/
def change (f : σ → σ) : Task σ Unit := get fun s => put (f s) (done ())

/-- Asks the world. -/
def query (q : Query) : Task σ q.Reply := ask q done

/-- A computation that may fail, as a task that may fail. -/
def attempt {ε : Type} (r : Except ε α) : ExceptT ε (Task σ) α := ExceptT.mk (done r)

/-- A task on a part of the state: `read` takes the part out and `write` puts it back. -/
def within (read : τ → σ) (write : σ → τ → τ) : Task σ α → Task τ α
  | done a => done a
  | get next => get fun t => (next (read t)).within read write
  | put s next => get fun t => put (write s t) (next.within read write)
  | ask q next => ask q fun r => (next r).within read write

@[simp] theorem done_bind (a : α) (f : α → Task σ β) : done a >>= f = f a := rfl

@[simp] theorem pure_bind (a : α) (f : α → Task σ β) : (pure a : Task σ α) >>= f = f a := rfl

@[simp] theorem get_bind (next : σ → Task σ α) (f : α → Task σ β) :
    get next >>= f = get fun s => next s >>= f := rfl

@[simp] theorem put_bind (s : σ) (next : Task σ α) (f : α → Task σ β) :
    put s next >>= f = put s (next >>= f) := rfl

@[simp] theorem ask_bind (q : Query) (next : q.Reply → Task σ α) (f : α → Task σ β) :
    ask q next >>= f = ask q fun r => next r >>= f := rfl

/-- How far a task has come: the state, the questions asked since the world began, and the value of
the task, or the task that waits for a reply which never comes. -/
structure Progress (σ α : Type) where
  state : σ
  asked : List Query
  outcome : Task σ α ⊕ α

/-- The value of a task that has ended. -/
def Progress.value? (p : Progress σ α) : Option α :=
  match p.outcome with
  | .inr a => some a
  | .inl _ => none

/-- Runs a task until it ends or the world does not reply. -/
def run (world : World) (s : σ) (asked : List Query) : Task σ α → Progress σ α
  | done a => ⟨s, asked, .inr a⟩
  | get next => (next s).run world s asked
  | put t next => next.run world t asked
  | ask q next =>
    match world asked q with
    | some r => (next r).run world s (asked ++ [q])
    | none => ⟨s, asked ++ [q], .inl (ask q next)⟩

/-- A task after another one runs on from where that one ended. -/
theorem run_bind (world : World) (t : Task σ α) (f : α → Task σ β) (s : σ) (asked : List Query)
    {s' : σ} {asked' : List Query} {a : α} (h : t.run world s asked = ⟨s', asked', .inr a⟩) :
    (t >>= f).run world s asked = (f a).run world s' asked' := by
  induction t generalizing s asked with
  | done b =>
    simp only [run, Progress.mk.injEq, Sum.inr.injEq] at h
    obtain ⟨rfl, rfl, rfl⟩ := h
    rfl
  | get next ih => exact ih s s asked h
  | put u next ih => exact ih u asked h
  | ask q next ih =>
    simp only [ask_bind, run] at h ⊢
    cases hw : world asked q with
    | none => simp [hw] at h
    | some r => rw [hw] at h; exact ih r s _ h

/-! ### Turns -/

/-- How a turn of a task ends. -/
inductive Turn (σ α : Type) where
  /-- The task has ended with a value. -/
  | ended (a : α)
  /-- The task has a reply to go on with. -/
  | left (t : Task σ α)
  /-- The task waits for a reply which never comes. -/
  | stuck (t : Task σ α)

/-- Runs a task up to the next question that has to be waited for. -/
def turn (world : World) (s : σ) (asked : List Query) : Task σ α → σ × List Query × Turn σ α
  | done a => (s, asked, .ended a)
  | get next => (next s).turn world s asked
  | put t next => next.turn world t asked
  | ask q next =>
    match world asked q with
    | some r =>
      if q.isAwaited then (s, asked ++ [q], .left (next r))
      else (next r).turn world s (asked ++ [q])
    | none => (s, asked ++ [q], .stuck (ask q next))

/-- A task runs as what a turn leaves of it runs on. -/
theorem run_turn (world : World) (t : Task σ α) (s : σ) (asked : List Query) :
    t.run world s asked =
      match t.turn world s asked with
      | (s, asked, .ended a) => ⟨s, asked, .inr a⟩
      | (s, asked, .left t) => t.run world s asked
      | (s, asked, .stuck t) => ⟨s, asked, .inl t⟩ := by
  induction t generalizing s asked with
  | done a => rfl
  | get next ih => exact ih s s asked
  | put u next ih => exact ih u asked
  | ask q next ih =>
    simp only [run, turn]
    cases world asked q with
    | none => rfl
    | some r =>
      by_cases h : q.isAwaited = true
      · simp only [if_pos h]
      · simp only [if_neg h]
        exact ih r s _

end Task

end ChatFlow
