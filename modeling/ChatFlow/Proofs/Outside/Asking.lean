import ChatFlow.Proofs.Outside.Task

/-!
# What tasks ask

`Task.Asks P` says that every question which a task may ask has the property `P`,
whatever the states are that it reads and whatever the world replies; so every
question of a run has it (`Task.Asks.asked`).

`Task.SameSql` compares two tasks.  They ask the same until one of them executes a
statement on the database; then the other one executes a statement with the same
text, and no further one follows.  So whoever looks at the texts of the statements
cannot tell one from the other (`Task.SameSql.run`), and where there is no statement
they do the same.
-/

namespace ChatFlow

/-- The text of the statement that a query executes. -/
def Query.statement? : Query → Option String
  | .execute text _ => some text
  | _ => none

/-- The texts of the statements among these questions. -/
def statements (asked : List Query) : List String := asked.filterMap Query.statement?

theorem statements_append (before more : List Query) :
    statements (before ++ more) = statements before ++ statements more := List.filterMap_append

/-- A query that executes no statement. -/
def Query.Quiet (q : Query) : Prop := q.statement? = none

theorem statements_eq_nil {asked : List Query} (h : ∀ q ∈ asked, q.Quiet) :
    statements asked = [] := List.filterMap_eq_nil_iff.mpr h

/-- The request that a query sends over HTTP. -/
def Query.request? : Query → Option HttpRequest
  | .http request => some request
  | _ => none

/-- The requests over HTTP among these questions. -/
def requests (asked : List Query) : List HttpRequest := asked.filterMap Query.request?

/-- A query that sends no request over HTTP. -/
def Query.Offline (q : Query) : Prop := q.request? = none

theorem requests_eq_nil {asked : List Query} (h : ∀ q ∈ asked, q.Offline) : requests asked = [] :=
  List.filterMap_eq_nil_iff.mpr h

namespace Task

variable {σ α β ε : Type} {P : Query → Prop}

/-! ### Every question of a task -/

/-- Every question that a task may ask has this property. -/
def Asks (P : Query → Prop) : Task σ α → Prop
  | done _ => True
  | get next => ∀ s, (next s).Asks P
  | put _ next => next.Asks P
  | ask q next => P q ∧ ∀ r : q.Reply, (next r).Asks P

theorem asks_pure (P : Query → Prop) (a : α) : (pure a : Task σ α).Asks P := trivial

theorem asks_state (P : Query → Prop) : (state : Task σ σ).Asks P := fun _ => trivial

theorem asks_setState (P : Query → Prop) (s : σ) : (setState s).Asks P := trivial

theorem asks_query {q : Query} (h : P q) : (query q : Task σ q.Reply).Asks P :=
  ⟨h, fun _ => trivial⟩

theorem Asks.bind {t : Task σ α} {f : α → Task σ β} (ht : t.Asks P) (hf : ∀ a, (f a).Asks P) :
    (t >>= f).Asks P := by
  induction t with
  | done a => exact hf a
  | get next ih => exact fun s => ih s (ht s)
  | put s next ih => exact ih ht
  | ask q next ih => exact ⟨ht.1, fun r => ih r (ht.2 r)⟩

/-- What a task asks, in order: the questions of a run have the property. -/
theorem Asks.asked {t : Task σ α} (ht : t.Asks P) (world : World) (s : σ) (asked : List Query) :
    ∃ more, (t.run world s asked).asked = asked ++ more ∧ ∀ q ∈ more, P q := by
  induction t generalizing s asked with
  | done a => exact ⟨[], (List.append_nil asked).symm, fun q hq => nomatch hq⟩
  | get next ih => exact ih s (ht s) s asked
  | put u next ih => exact ih ht u asked
  | ask q next ih =>
    simp only [run]
    cases world asked q with
    | none =>
      refine ⟨[q], rfl, fun q' hq' => ?_⟩
      obtain rfl := List.mem_singleton.mp hq'
      exact ht.1
    | some r =>
      obtain ⟨more, hmore, hP⟩ := ih r (ht.2 r) s (asked ++ [q])
      refine ⟨q :: more, ?_, fun q' hq' => ?_⟩
      · show ((next r).run world s (asked ++ [q])).asked = asked ++ q :: more
        rw [hmore, List.append_assoc, List.singleton_append]
      · rcases List.mem_cons.mp hq' with rfl | hq'
        · exact ht.1
        · exact hP q' hq'

/-! ### Two tasks with the same statements -/

/-- Two tasks that ask the same until they execute a statement, with the same text each and none
after it.  Where they end without one, their values are related. -/
inductive SameSql (same : α → β → Prop) : Task σ α → Task σ β → Prop
  | done {a : α} {b : β} (h : same a b) : SameSql same (done a) (done b)
  | get {next : σ → Task σ α} {next' : σ → Task σ β} (h : ∀ s, SameSql same (next s) (next' s)) :
      SameSql same (get next) (get next')
  | put {s : σ} {next : Task σ α} {next' : Task σ β} (h : SameSql same next next') :
      SameSql same (put s next) (put s next')
  | ask {q : Query} {next : q.Reply → Task σ α} {next' : q.Reply → Task σ β} (hq : q.Quiet)
      (h : ∀ r, SameSql same (next r) (next' r)) : SameSql same (ask q next) (ask q next')
  | execute {text : String} {parameters parameters' : Option (List Value)}
      {next : (Query.execute text parameters).Reply → Task σ α}
      {next' : (Query.execute text parameters').Reply → Task σ β}
      (h : ∀ r, (next r).Asks Query.Quiet) (h' : ∀ r, (next' r).Asks Query.Quiet) :
      SameSql same (ask (.execute text parameters) next) (ask (.execute text parameters') next')

/-- Two tasks that go on differently after the same part, which executes no statement. -/
theorem Asks.sameSql_bind {γ : Type} {same : β → γ → Prop} {t : Task σ α} {f : α → Task σ β}
    {f' : α → Task σ γ} (h : t.Asks Query.Quiet) (hf : ∀ a, SameSql same (f a) (f' a)) :
    SameSql same (t >>= f) (t >>= f') := by
  induction t with
  | done a => exact hf a
  | get next ih => exact .get fun s => ih s (h s)
  | put s next ih => exact .put (ih h)
  | ask q next ih => exact .ask h.1 fun r => ih r (h.2 r)

/-- What is done after two tasks executes no statement, but for one that both of them still
execute. -/
theorem SameSql.bind {γ δ : Type} {same : α → β → Prop} {same' : γ → δ → Prop} {t : Task σ α}
    {t' : Task σ β} {f : α → Task σ γ} {f' : β → Task σ δ} (h : SameSql same t t')
    (hf : ∀ a b, same a b → SameSql same' (f a) (f' b)) (hquiet : ∀ a, (f a).Asks Query.Quiet)
    (hquiet' : ∀ b, (f' b).Asks Query.Quiet) : SameSql same' (t >>= f) (t' >>= f') := by
  induction h with
  | done h => exact hf _ _ h
  | get _ ih => exact .get ih
  | put _ ih => exact .put ih
  | ask hq _ ih => exact .ask hq ih
  | execute h h' => exact .execute (fun r => (h r).bind hquiet) fun r => (h' r).bind hquiet'

/-- What two runs after these questions have in common if no one can tell them apart by the
statements: both end, or wait for the same reply, without a statement and after the same questions;
or both execute one statement with the same text after the same questions. -/
inductive SameRun (same : α → β → Prop) (asked : List Query) (x : Progress σ α)
    (y : Progress σ β) : Prop
  | ended {s : σ} {more : List Query} {a : α} {b : β} (quiet : ∀ q ∈ more, q.Quiet) (h : same a b)
      (hx : x = ⟨s, asked ++ more, .inr a⟩) (hy : y = ⟨s, asked ++ more, .inr b⟩)
  | waiting {s : σ} {more : List Query} {t : Task σ α} {t' : Task σ β}
      (quiet : ∀ q ∈ more, q.Quiet) (hx : x = ⟨s, asked ++ more, .inl t⟩)
      (hy : y = ⟨s, asked ++ more, .inl t'⟩)
  | executed {text : String} {parameters parameters' : Option (List Value)}
      {more after after' : List Query} (quiet : ∀ q ∈ more ++ after ++ after', q.Quiet)
      (hx : x.asked = asked ++ more ++ .execute text parameters :: after)
      (hy : y.asked = asked ++ more ++ .execute text parameters' :: after')

variable {same : α → β → Prop}

theorem SameRun.cons {asked : List Query} {q : Query} (hq : q.Quiet) {x : Progress σ α}
    {y : Progress σ β} (h : SameRun same (asked ++ [q]) x y) : SameRun same asked x y := by
  have hcons (more : List Query) : asked ++ [q] ++ more = asked ++ q :: more := by
    rw [List.append_assoc, List.singleton_append]
  have hquiet {more : List Query} (h : ∀ q ∈ more, q.Quiet) : ∀ q' ∈ q :: more, q'.Quiet :=
    List.forall_mem_cons.mpr ⟨hq, h⟩
  cases h with
  | ended quiet h hx hy =>
    rw [hcons] at hx hy
    exact .ended (hquiet quiet) h hx hy
  | waiting quiet hx hy =>
    rw [hcons] at hx hy
    exact .waiting (hquiet quiet) hx hy
  | executed quiet hx hy =>
    rw [hcons] at hx hy
    exact .executed (hquiet quiet) hx hy

/-- The texts of the statements are the same. -/
theorem SameRun.statements_eq {asked : List Query} {x : Progress σ α} {y : Progress σ β}
    (h : SameRun same asked x y) : statements x.asked = statements y.asked := by
  cases h with
  | ended quiet h hx hy => rw [hx, hy]
  | waiting quiet hx hy => rw [hx, hy]
  | @executed text parameters parameters' more after after' quiet hx hy =>
    have hafter : statements after = [] := statements_eq_nil fun q hq =>
      quiet q (List.mem_append_left _ (List.mem_append_right _ hq))
    have hafter' : statements after' = [] := statements_eq_nil fun q hq =>
      quiet q (List.mem_append_right _ hq)
    have hcons (parameters : Option (List Value)) (rest : List Query) :
        statements (.execute text parameters :: rest) = text :: statements rest := rfl
    rw [hx, hy, statements_append (asked ++ more), statements_append (asked ++ more), hcons,
      hcons, hafter, hafter']

/-- The run of a task that executes a statement and no other one after it. -/
theorem exists_asked_execute (world : World) (s : σ) (asked : List Query) {text : String}
    {parameters : Option (List Value)} {next : (Query.execute text parameters).Reply → Task σ α}
    (h : ∀ r, (next r).Asks Query.Quiet) : ∃ after,
      ((ask (.execute text parameters) next).run world s asked).asked =
        asked ++ .execute text parameters :: after ∧ ∀ q ∈ after, q.Quiet := by
  simp only [run]
  cases world asked (.execute text parameters) with
  | none => exact ⟨[], rfl, List.forall_mem_nil _⟩
  | some r =>
    obtain ⟨after, hafter, hquiet⟩ := (h r).asked world s (asked ++ [.execute text parameters])
    refine ⟨after, ?_, hquiet⟩
    show ((next r).run world s (asked ++ [.execute text parameters])).asked = _
    rw [hafter, List.append_assoc, List.singleton_append]

/-- The runs of two tasks with the same statements, in one world and from one state. -/
theorem SameSql.run {t : Task σ α} {t' : Task σ β} (h : SameSql same t t') (world : World) (s : σ)
    (asked : List Query) : SameRun same asked (t.run world s asked) (t'.run world s asked) := by
  induction h generalizing s asked with
  | @done a b h =>
    have hquiet : ∀ q ∈ ([] : List Query), q.Quiet := List.forall_mem_nil _
    have hx : (⟨s, asked, .inr a⟩ : Progress σ α) = ⟨s, asked ++ [], .inr a⟩ := by
      rw [List.append_nil]
    have hy : (⟨s, asked, .inr b⟩ : Progress σ β) = ⟨s, asked ++ [], .inr b⟩ := by
      rw [List.append_nil]
    exact .ended hquiet h hx hy
  | get _ ih => exact ih s s asked
  | put _ ih => exact ih _ asked
  | @ask q next next' hq _ ih =>
    simp only [Task.run]
    cases world asked q with
    | none =>
      refine .waiting (fun q' hq' => ?_) rfl rfl
      obtain rfl := List.mem_singleton.mp hq'
      exact hq
    | some r => exact (ih r s (asked ++ [q])).cons hq
  | execute h h' =>
    obtain ⟨after, hx, hquiet⟩ := exists_asked_execute world s asked h
    obtain ⟨after', hy, hquiet'⟩ := exists_asked_execute world s asked h'
    have hnil : asked = asked ++ [] := (List.append_nil asked).symm
    refine .executed ?_ (hx.trans (congrArg (· ++ _) hnil)) (hy.trans (congrArg (· ++ _) hnil))
    rw [List.nil_append]
    intro q hq
    rcases List.mem_append.mp hq with hq | hq
    · exact hquiet q hq
    · exact hquiet' q hq

end Task

end ChatFlow
