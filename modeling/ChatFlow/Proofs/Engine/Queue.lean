import ChatFlow.Proofs.Engine.Schedule

/-!
# Replies behind a run

Calls of one conversation that are made at the same time come to what they come to
one after the other (`calls_serial`).  So what one of them finds is what the one
before it has left: a run that pauses leaves its pause to the next call, and a
pause that a call has resumed is not there for any later call until a run pauses
again.  Both are about single calls (`Call.leaves`) and follow along the calls that
were executed.
-/

namespace ChatFlow

open Engine

/-- The pause is the one that the run of a result has left. -/
structure RunResult.Left (r : RunResult) (p : Pause) : Prop where
  outcome : r.outcome = .paused
  flow : p.flow = r.flow
  conversation : p.conversation = r.conversation
  run : p.run = r.run
  node : r.visited.getLast? = some p.node
  vars : p.vars = r.vars

/-- What a call that has come to a value leaves as the pause of its conversation. -/
inductive Call.Leaves (call : Call) (s s' : EngineState) (v : Except Failure (Option RunResult)) :
    Prop
  /-- Its run has paused. -/
  | paused {r : RunResult} {p : Pause} (hv : v = .ok (some r)) (left : r.Left p)
      (hp : s'.pauses.lookup call.conversation = some p)
  /-- It has taken the pause out. -/
  | taken (hv : ∀ r, v = .ok (some r) → r.outcome ≠ .paused)
      (hp : s'.pauses.lookup call.conversation = none)
  /-- The pause, if there was one, was no concern of the call. -/
  | kept (hv : ∀ r, v = .ok (some r) → r.outcome ≠ .paused ∧ call.resumes s = false)
      (hp : s'.pauses.lookup call.conversation = s.pauses.lookup call.conversation)

section

variable {service : Service} {s s' s₁ : EngineState} {world : World} {asked asked' : List Query}
  {call : Call} {v : Except Failure (Option RunResult)} {r : RunResult}

/-- A call that answers about a flow that does not exist has taken out the pause if it resumes. -/
theorem Call.Opens.resumes_or_unpause (h : call.Opens service s (.answered (some r)) s₁) :
    call.resumes s = false ∧ s₁ = s ∨ s₁ = s.unpause call.conversation := by
  cases h with
  | run h => cases h; exact Or.inl ⟨rfl, rfl⟩
  | webhook h => cases h; exact Or.inl ⟨rfl, rfl⟩
  | resume h => cases h; exact Or.inr rfl
  | reply hp hv h => cases h; exact Or.inr rfl
  | keyword hp hm h =>
    cases h
    refine Or.inl ⟨?_, rfl⟩
    rw [Call.resumes, hp, Option.isSome_none]

theorem Journey.Walks.left {j : Journey} {left : Nat} {a q : Journey.Point}
    {visits : List Journey.Visit} {n : Node} {awaited : Awaited}
    (h : j.Walks service world left a visits (.paused n awaited) q) :
    (j.resultOf .paused ⟨Journey.visitedBy visits (.paused n awaited), q.vars⟩ none).Left
      (j.pauseAt service n.id awaited q.vars) := by
  obtain ⟨before, result, p', vars, database, asked, rfl, -, -⟩ := h.exists_paused
  refine ⟨rfl, rfl, rfl, rfl, ?_, rfl⟩
  simp [Journey.resultOf, Journey.visitedBy, Journey.Ending.broken, Journey.pauseAt]

theorem Call.leaves (h : (call.task service).run.run world s asked = ⟨s', asked', .inr v⟩) :
    call.Leaves s s' v := by
  have hc := call.comes service s world asked
  rw [h] at hc
  cases hc with
  | failed opens hp =>
    obtain ⟨rfl, -, hv⟩ := Task.Progress.mk.inj hp
    obtain rfl := Sum.inr.inj hv
    rcases opens.eq_or_unpause rfl with rfl | rfl
    · exact .kept (fun r hr => nomatch hr) rfl
    · exact .taken (fun r hr => nomatch hr) (s.unpause_lookup_self _)
  | @answered answer s₁ opens hp =>
    obtain ⟨rfl, -, hv⟩ := Task.Progress.mk.inj hp
    obtain rfl := Sum.inr.inj hv
    cases answer with
    | none =>
      rw [opens.eq_of_none]
      exact .kept (fun r hr => nomatch hr) rfl
    | some r =>
      have hr : ∀ r', Except.ok (some r) = Except.ok (ε := Failure) (some r') →
          r'.outcome ≠ .paused := by
        rintro r' ⟨⟩
        obtain ⟨flow, rfl⟩ := opens.eq_unknownFlow
        exact fun h => nomatch h
      rcases opens.resumes_or_unpause with ⟨hresumes, rfl⟩ | rfl
      · exact .kept (fun r' hr' => ⟨hr r' hr', hresumes⟩) rfl
      · exact .taken hr (s.unpause_lookup_self _)
  | @walked o d s₁ visits ending q opens departs walks state answer =>
    obtain rfl := answer v rfl
    obtain ⟨stored, -, through⟩ := opens.through departs
    have hs : s'.pauses = d.journey.pausesAfter service s₁.pauses ending q.vars :=
      congrArg EngineState.pauses state
    by_cases hpaused : ending.outcome = .paused
    · obtain ⟨n, awaited, rfl⟩ := Journey.Ending.eq_paused hpaused
      refine .paused rfl walks.left ?_
      rw [hs, ← through.conversation, Journey.pausesAfter_paused]
    · rw [Journey.pausesAfter_of_ne_paused _ _ _ _ _ hpaused, opens.pauses_eq departs] at hs
      have hr : ∀ r, Except.ok (ε := Failure) (some (d.journey.resultOf ending.outcome
          ⟨Journey.visitedBy visits ending, q.vars⟩ ending.error)) = .ok (some r) →
          r.outcome ≠ .paused := by
        rintro r ⟨⟩
        exact hpaused
      cases hresumes : call.resumes s with
      | true =>
        rw [hresumes, if_pos rfl] at hs
        exact .taken hr (by rw [hs]; exact s.unpause_lookup_self _)
      | false =>
        rw [hresumes, if_neg Bool.false_ne_true] at hs
        exact .kept (fun r h => ⟨hr r h, hresumes⟩) (by rw [hs])
  | waiting opens departs state outcome => cases outcome

/-- A call that has resumed a run has found a pause. -/
theorem Call.exists_pause
    (h : (call.task service).run.run world s asked = ⟨s', asked', .inr (.ok (some r))⟩)
    (hresumes : call.resumes s = true) : ∃ p, s.pauses.lookup call.conversation = some p := by
  cases call with
  | run => cases hresumes
  | webhook => cases hresumes
  | receive m => exact Option.isSome_iff_exists.mp hresumes
  | resume conversation flow further =>
    obtain ⟨o, s₁, ho⟩ := exists_resumes service s conversation flow further
    cases ho with
    | idle hp =>
      have hnone := (Call.Opens.resume (.idle hp) : Call.Opens service s
        (.resume conversation flow further) (.answered none) s).runsAs world asked
      rw [h] at hnone
      cases hnone
    | unknown hp => exact ⟨_, hp⟩
    | unreadable hp => exact ⟨_, hp⟩
    | reopens hp => exact ⟨_, hp⟩
    | renews hp => exact ⟨_, hp⟩

end

/-! ### Calls one after the other -/

/-- A call with the conversation that it needs for itself. -/
def Call.started (service : Service) (call : Call) : Started (Option RunResult) :=
  ⟨some call.conversation, call.task service⟩

/-- Among calls that were made at the same time this one has resumed a run. -/
def Engine.Executed.Resumed (calls : List Call) (e : Executed (Option RunResult)) : Prop :=
  ∃ call r, calls[e.number]? = some call ∧ call.resumes e.before = true ∧ e.value = .ok (some r)

/-- A call has paused a run and left this pause. -/
def Engine.Executed.HasLeft (e : Executed (Option RunResult)) (p : Pause) : Prop :=
  ∃ r, e.value = .ok (some r) ∧ r.Left p

namespace Engine.OneByOne

variable {service : Service} {world : World} {calls : List Call} {c : String} {s t : EngineState}
  {asked u : List Query} {done before middle after : List (Executed (Option RunResult))}
  {e f : Executed (Option RunResult)}

/-- The first of the calls that were executed. -/
theorem first (hc : ∀ call ∈ calls, call.conversation = c)
    (h : OneByOne world (calls.map (Call.started service)) s asked (e :: done) t u) :
    e.before = s ∧ ∃ call s₁ asked₁, calls[e.number]? = some call ∧ call.conversation = c ∧
      (call.task service).run.run world s asked = ⟨s₁, asked₁, .inr e.value⟩ ∧
      OneByOne world (calls.map (Call.started service)) s₁ asked₁ done t u := by
  cases h with
  | next hi hr h =>
    rw [List.getElem?_map, Option.map_eq_some_iff] at hi
    obtain ⟨call, hi, rfl⟩ := hi
    exact ⟨rfl, call, _, _, hi, hc call (List.mem_of_getElem? hi), hr, h⟩

/-- A pause that is there after some calls was there before them, or one of them has left it. -/
theorem pause_from (hc : ∀ call ∈ calls, call.conversation = c)
    (h : OneByOne world (calls.map (Call.started service)) s asked done t u) {p : Pause}
    (hp : t.pauses.lookup c = some p) :
    s.pauses.lookup c = some p ∨ ∃ e ∈ done, e.HasLeft p := by
  induction done generalizing s asked with
  | nil =>
    cases h
    exact Or.inl hp
  | cons e done ih =>
    obtain ⟨-, call, s₁, asked₁, -, rfl, hr, h⟩ := h.first hc
    rcases ih h with hp | ⟨g, hg, hleft⟩
    · cases Call.leaves hr with
      | paused hv left hp' =>
        obtain rfl := Option.some.inj (hp.symm.trans hp')
        exact Or.inr ⟨e, List.mem_cons_self, _, hv, left⟩
      | taken _ hp' =>
        rw [hp'] at hp
        cases hp
      | kept _ hp' => exact Or.inl (hp'.symm.trans hp)
    · exact Or.inr ⟨g, List.mem_cons_of_mem e hg, hleft⟩

/-- Of two calls that have resumed a run the later one has resumed a run which has paused since the
earlier one began. -/
theorem resumed_once (hc : ∀ call ∈ calls, call.conversation = c)
    (h : OneByOne world (calls.map (Call.started service)) s asked
      (before ++ e :: (middle ++ f :: after)) t u)
    (he : e.Resumed calls) (hf : f.Resumed calls) :
    ∃ g ∈ e :: middle, ∃ p, g.HasLeft p ∧ f.before.pauses.lookup c = some p := by
  obtain ⟨t₁, u₁, -, h₁⟩ := h.split
  obtain ⟨rfl, call, s₂, asked₂, hcall, hconversation, hr, h₂⟩ := h₁.first hc
  obtain ⟨t₃, u₃, h₃, h₄⟩ := h₂.split
  obtain ⟨rfl, call', s₄, asked₄, hcall', hconversation', hr', -⟩ := h₄.first hc
  obtain ⟨_, r, hi, hresumes, hv⟩ := he
  obtain rfl := Option.some.inj (hi.symm.trans hcall)
  obtain ⟨_, r', hi', hresumes', hv'⟩ := hf
  obtain rfl := Option.some.inj (hi'.symm.trans hcall')
  rw [hv'] at hr'
  obtain ⟨p, hp⟩ := Call.exists_pause hr' hresumes'
  rw [hconversation'] at hp
  rcases h₃.pause_from hc hp with hp₂ | ⟨g, hg, hleft⟩
  · cases Call.leaves hr with
    | paused hv left hp' =>
      rw [hconversation, hp₂] at hp'
      obtain rfl := Option.some.inj hp'
      exact ⟨e, List.mem_cons_self, p, ⟨_, hv, left⟩, hp⟩
    | taken _ hp' =>
      rw [hconversation, hp₂] at hp'
      cases hp'
    | kept hv' _ =>
      rw [(hv' r hv).2] at hresumes
      cases hresumes
  · exact ⟨g, List.mem_cons_of_mem e hg, p, hleft, hp⟩

/-- The call behind a run that has paused finds the pause of that run. -/
theorem finds (hc : ∀ call ∈ calls, call.conversation = c)
    (h : OneByOne world (calls.map (Call.started service)) s asked (before ++ e :: f :: after) t u)
    {r : RunResult} (hv : e.value = .ok (some r)) (hr : r.outcome = .paused) :
    ∃ p, r.Left p ∧ f.before.pauses.lookup c = some p := by
  obtain ⟨t₁, u₁, -, h₁⟩ := h.split
  obtain ⟨-, call, s₂, asked₂, -, rfl, hrun, h₂⟩ := h₁.first hc
  obtain ⟨rfl, -⟩ := h₂.first hc
  cases Call.leaves hrun with
  | paused hv' left hp =>
    obtain rfl := Option.some.inj (Except.ok.inj (hv.symm.trans hv'))
    exact ⟨_, left, hp⟩
  | taken hv' _ => exact absurd hr (hv' r hv)
  | kept hv' _ => exact absurd hr (hv' r hv).1

end Engine.OneByOne

/-- The calls of one conversation, started at the same time. -/
def Engine.Pool.ofCalls (service : Service) (s : EngineState) (asked : List Query)
    (calls : List Call) : Pool (Option RunResult) :=
  Pool.start s asked (calls.map (Call.started service))

/-- Calls of one conversation that are made at the same time and have turns in any order: no schedule
goes on for ever, and when no call can go on, they have come to what they come to one after the other
in the order in which they got hold of the conversation.  In a world that replies all of them have
ended.  Of two calls that have resumed a run the later one has resumed a run which has paused
meanwhile, and the call behind a run that has paused finds the pause of that run. -/
theorem calls_serial (service : Service) (world : World) (s : EngineState) (asked : List Query)
    (calls : List Call) {c : String} (hc : ∀ call ∈ calls, call.conversation = c) :
    (∀ schedule : Nat → Nat, ∃ n, ((Pool.ofCalls service s asked calls).follow world
        ((List.range n).map schedule)).ready[schedule n]? = none) ∧
      ∀ places, ((Pool.ofCalls service s asked calls).follow world places).ready = [] →
        ∃ done, Pool.Serial world (calls.map (Call.started service)) s asked
            ((Pool.ofCalls service s asked calls).order world places)
            ((Pool.ofCalls service s asked calls).follow world places) done ∧
          (world.Replies → (done.map Executed.number).Perm (List.range calls.length)) ∧
          (∀ before e middle f after, done = before ++ e :: (middle ++ f :: after) →
            e.Resumed calls → f.Resumed calls →
            ∃ g ∈ e :: middle, ∃ p, g.HasLeft p ∧ f.before.pauses.lookup c = some p) ∧
          ∀ before e f after r, done = before ++ e :: f :: after → e.value = .ok (some r) →
            r.outcome = .paused → ∃ p, r.Left p ∧ f.before.pauses.lookup c = some p := by
  have hstarted : ∀ call ∈ calls.map (Call.started service), call.conversation = some c := by
    intro started h
    obtain ⟨call, hcall, rfl⟩ := List.mem_map.mp h
    exact congrArg some (hc call hcall)
  refine ⟨fun schedule => ?_, fun places hready => ?_⟩
  · exact (Pool.kept_start hstarted : Pool.Kept world _ c s asked [] [] _).ends schedule
  · obtain ⟨done, hserial⟩ := Pool.follow_serial hstarted places hready
    have hexecuted : ∃ t u, OneByOne world (calls.map (Call.started service)) s asked done t u := by
      cases hserial with
      | ended executed => exact ⟨_, _, executed⟩
      | blocked executed => exact ⟨_, _, executed⟩
    obtain ⟨t, u, hexecuted⟩ := hexecuted
    refine ⟨done, hserial, fun hw => ?_, ?_, ?_⟩
    · simpa using (hserial.ended_of_replies hw).2
    · rintro before e middle f after rfl he hf
      exact hexecuted.resumed_once hc he hf
    · rintro before e f after r rfl hv hr
      exact hexecuted.finds hc hv hr

/-- A service that also keeps records of runs outside. -/
def Service.keeping : Service := { Service.alone with archive := some "records" }

/-- A run and a reply to it that is there before the run has paused. -/
def Call.early : List Call := [.run "f" "c" [] none (some "e"), .resume "c" "f" []]

theorem calls_serial_early :
    ((Pool.ofCalls .keeping .waiting [] Call.early).follow .refusing [0, 0, 0, 0, 0]).ready = [] ∧
      ∃ done, Pool.Serial .refusing (Call.early.map (Call.started .keeping)) .waiting [] [0, 1]
        ((Pool.ofCalls .keeping .waiting [] Call.early).follow .refusing [0, 0, 0, 0, 0]) done := by
  have hready : ((Pool.ofCalls .keeping .waiting [] Call.early).follow .refusing
      [0, 0, 0, 0, 0]).ready = [] := by
    rw [← List.isEmpty_iff]
    decide +kernel
  have horder : (Pool.ofCalls .keeping .waiting [] Call.early).order .refusing [0, 0, 0, 0, 0] =
      [0, 1] := by
    decide +kernel
  have hserial := calls_serial .keeping .refusing .waiting [] Call.early (c := "c") (by decide +kernel)
  obtain ⟨done, h, -⟩ := hserial.2 [0, 0, 0, 0, 0] hready
  exact ⟨hready, done, horder ▸ h⟩

end ChatFlow
