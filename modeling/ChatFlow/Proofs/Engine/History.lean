import ChatFlow.Proofs.Engine.Course
import ChatFlow.Proofs.Engine.Handling

/-!
# Histories

A history begins with empty stores.  One after the other flows are saved and calls
are made, each against a world of its own; a call may also fail, or be given up
while it waits for a reply.  Every run that a call starts has an id that no run had
before.

What holds after every history is that the pauses and the records agree: a pause
can be resumed, since the record of its run says that it is paused, and where and
for what.  This is one invariant, `EngineState.Consistent`.  While a walk is under
way it holds as well, and the pauses of the other conversations are about other
runs (`SetOut`), so that whatever the walk writes does not touch them.
-/

namespace ChatFlow

/-- What happens to the engine. -/
inductive Event where
  | saved (flow : FlowRecord)
  /-- A call is made, and what becomes of it, none if it is given up. -/
  | called (call : Call) (value : Option (Except Failure (Option RunResult)))

/-- What has happened to an engine that executes nodes in this way, and the state that it is in. -/
inductive History (executor : Executor) : List Event → EngineState → Prop
  | start (database : Database.Address) : History executor [] (EngineState.start [] database)
  | saved {events : List Event} {s : EngineState} (h : History executor events s)
      (flow : FlowRecord) :
      History executor (events ++ [.saved flow]) { s with flows := s.flows.save flow }
  | called {events : List Event} {s : EngineState} (h : History executor events s) (call : Call)
      (service : Service) (hx : service.executor = executor) (world : World) (asked : List Query)
      (own : ∀ d s₁, call.Opens service s (.starts d) s₁ → s.runs.find? d.journey.run = none) :
      History executor
        (events ++ [.called call ((call.task service).run.run world s asked).value?])
        ((call.task service).run.run world s asked).state

/-! ### Pauses and records -/

/-- A record says that its run waits as a pause says. -/
structure RunRecord.Awaits (r : RunRecord) (p : Pause) : Prop where
  flow : r.flow = p.flow
  conversation : r.conversation = p.conversation
  status : r.status = .paused
  completedAt : r.completedAt = none
  currentNode : r.currentNode = some p.node
  last : ∃ e, r.log.getLast? = some e ∧ e.node = p.node ∧ e.success = true ∧
    e.waitingFor = some p.awaited.word

namespace EngineState

/-- The run of a pause has a record that says the same. -/
def Resumable (s : EngineState) (p : Pause) : Prop :=
  ∃ id r, p.run = some id ∧ s.runs.find? id = some r ∧ r.id = id ∧ r.Awaits p

/-- Flows and records are kept under their ids, and every pause can be resumed. -/
structure Consistent (s : EngineState) : Prop where
  flows : ∀ id flow, s.flows.find? id = some flow → flow.id = id
  runs : s.runs.Keyed
  pauses : ∀ conversation p, s.pauses.lookup conversation = some p →
    p.conversation = conversation ∧ s.Resumable p

/-- A run has set out: its record says that it is running, and no pause is about it. -/
structure SetOut (s : EngineState) (j : Journey) : Prop extends s.Consistent where
  record : ∃ r, s.runs.find? j.run = some r ∧ r.flow = j.flow ∧ r.conversation = j.conversation ∧
    r.completedAt = none
  others : ∀ conversation p, s.pauses.lookup conversation = some p → p.run ≠ some j.run

variable {s t : EngineState} {p : Pause}

theorem Resumable.of_find? (h : s.Resumable p)
    (ht : ∀ id, p.run = some id → t.runs.find? id = s.runs.find? id) : t.Resumable p := by
  obtain ⟨id, r, hid, hr, ha⟩ := h
  exact ⟨id, r, hid, (ht id hid).trans hr, ha⟩

theorem consistent_start (database : Database.Address) : (start [] database).Consistent where
  flows id flow h := by cases h
  runs id r h := by
    rw [start, Runs.find?_empty] at h
    cases h
  pauses conversation p h := by cases h

theorem Consistent.save (h : s.Consistent) (flow : FlowRecord) :
    { s with flows := s.flows.save flow }.Consistent where
  flows := Flows.Keyed.save h.flows flow
  runs := h.runs
  pauses := h.pauses

theorem Consistent.unpause (h : s.Consistent) (conversation : String) :
    (s.unpause conversation).Consistent where
  flows := h.flows
  runs := h.runs
  pauses other p hp := by
    rw [unpause_lookup] at hp
    split at hp
    · cases hp
    · exact h.pauses other p hp

/-- Pauses of different conversations are about different runs. -/
theorem Consistent.run_ne (h : s.Consistent) {c c' : String} {p p' : Pause} {id : String}
    (hp : s.pauses.lookup c = some p) (hp' : s.pauses.lookup c' = some p') (hc : c' ≠ c)
    (hid : p.run = some id) : p'.run ≠ some id := by
  intro hid'
  obtain ⟨hpc, i, r, hi, hr, -, ha⟩ := h.pauses c p hp
  obtain ⟨hpc', i', r', hi', hr', -, ha'⟩ := h.pauses c' p' hp'
  obtain rfl := Option.some.inj (hi.symm.trans hid)
  obtain rfl := Option.some.inj (hi'.symm.trans hid')
  obtain rfl := Option.some.inj (hr.symm.trans hr')
  exact hc (hpc' ▸ hpc ▸ ha'.conversation.symm.trans ha.conversation)

/-! ### Setting out -/

variable {service : Service} {flow conversation : String} {vars : Entries Value}
  {start id : Option String} {d : Departure}

/-- A new run sets out under an id that no run has. -/
theorem SetOut.of_starts (h : s.Consistent)
    (hs : Starts service s flow conversation vars start id (.starts d) t)
    (own : s.runs.find? d.journey.run = none) : t.SetOut d.journey := by
  cases hs with
  | @starts stored document record runs hf hd hr =>
    have hne : ∀ other p, s.pauses.lookup other = some p → p.run ≠ some record.id := by
      intro other p hp hrun
      obtain ⟨-, i, r, hi, hr', -⟩ := h.pauses other p hp
      obtain rfl := Option.some.inj (hi.symm.trans hrun)
      rw [own] at hr'
      cases hr'
    refine { flows := h.flows, runs := h.runs.create hr, pauses := ?_, record := ?_, others := hne }
    · intro other p hp
      obtain ⟨hc, hres⟩ := h.pauses other p hp
      refine ⟨hc, hres.of_find? fun i hi => ?_⟩
      refine (Runs.find?_create hr i).trans (if_neg ?_)
      rintro rfl
      exact hne other p hp hi
    · refine ⟨record, (Runs.find?_create hr _).trans (if_pos rfl), ?_⟩
      rw [Runs.create_eq_start hr]
      exact ⟨rfl, rfl, rfl⟩

/-- In a consistent state a run is resumed by opening the record of its pause again. -/
theorem Consistent.reopens (h : s.Consistent)
    (hs : Resumes service s conversation flow vars (.resumes d) t) :
    ∃ p r, s.pauses.lookup conversation = some p ∧ p.run = some r.id ∧
      s.runs.find? r.id = some r ∧ r.Awaits p ∧ d.journey.run = r.id ∧ d.journey.flow = p.flow ∧
      d.journey.conversation = p.conversation ∧
      t = (s.unpause conversation).updateRun r.id RunRecord.resumed := by
  cases hs with
  | reopens hp hpf hf hd hr =>
    obtain ⟨hpc, i, r, hi, hri, rfl, ha⟩ := h.pauses _ _ hp
    rw [hi, Option.getD_some, hri] at hr
    obtain rfl := Option.some.inj hr
    exact ⟨_, r, hp, hi, hri, ha, rfl, (h.flows _ _ hf).trans hpf.symm, hpc.symm, rfl⟩
  | renews hp hpf hf hd hn hr =>
    obtain ⟨-, i, r, hi, hri, -⟩ := h.pauses _ _ hp
    rw [hi, Option.getD_some, hri] at hn
    cases hn

/-- A paused run sets out again under its id. -/
theorem SetOut.of_resumes (h : s.Consistent)
    (hs : Resumes service s conversation flow vars (.resumes d) t) : t.SetOut d.journey := by
  obtain ⟨p, r, hp, hrun, hr, ha, hj, hflow, hconversation, rfl⟩ := h.reopens hs
  have hu : (s.unpause conversation).Consistent := h.unpause conversation
  have hne : ∀ other p', (s.unpause conversation).pauses.lookup other = some p' →
      p'.run ≠ some r.id := by
    intro other p' hp'
    rw [unpause_lookup] at hp'
    split at hp'
    · cases hp'
    · rename_i hc
      exact h.run_ne hp hp' hc hrun
  refine { flows := h.flows, runs := ?_, pauses := ?_, record := ?_, others := ?_ }
  · exact h.runs.update r.id fun _ => rfl
  · intro other p' hp'
    obtain ⟨hc, hres⟩ := hu.pauses other p' hp'
    refine ⟨hc, hres.of_find? fun k hk => ?_⟩
    refine s.runs.find?_update_ne (fun he => hne other p' hp' ?_) _
    rw [hk, he]
  · have hfind : (s.runs.update r.id RunRecord.resumed).find? r.id = some r.resumed := by
      rw [Runs.find?_update_self, hr, Option.map_some]
    rw [hj, hflow, hconversation]
    exact ⟨r.resumed, hfind, ha.flow, ha.conversation, rfl⟩
  · rw [hj]
    exact hne

theorem Consistent.of_opens {call : Call} {o : Opening} (h : s.Consistent)
    (ho : call.Opens service s o t) (hd : o.departure? = none) : t.Consistent := by
  rcases ho.eq_or_unpause hd with rfl | rfl
  · exact h
  · exact h.unpause call.conversation

theorem Consistent.setOut {call : Call} {o : Opening} (h : s.Consistent)
    (ho : call.Opens service s o t) (hd : o.departure? = some d)
    (own : o = .starts d → s.runs.find? d.journey.run = none) : t.SetOut d.journey := by
  rcases Opening.eq_of_departure hd with rfl | rfl
  · obtain ⟨flow, vars, start, id, hs⟩ := ho.starts
    exact .of_starts h hs (own rfl)
  · obtain ⟨flow, further, hs⟩ := ho.resumes
    exact .of_resumes h hs

/-! ### Walking -/

variable {j : Journey} {world : World} {left : Nat} {a q : Journey.Point}
  {visits : List Journey.Visit} {ending : Journey.Ending} {database : Database.Address}

/-- What is written into the record of a run that has set out does not touch the pauses. -/
theorem SetOut.resumable (h : s.SetOut j) {f : RunRecord → RunRecord}
    (ht : t.runs = s.runs.update j.run f) (hp : s.pauses.lookup conversation = some p) :
    t.Resumable p := by
  refine (h.pauses conversation p hp).2.of_find? fun id hid => ?_
  rw [ht]
  refine s.runs.find?_update_ne (fun he => h.others conversation p hp ?_) f
  rw [hid, he]

theorem SetOut.underway (h : s.SetOut j) : (j.underway s visits database).Consistent where
  flows := h.flows
  runs := h.runs.update j.run fun r => r.loggedAll_id _
  pauses other p hp := ⟨(h.pauses other p hp).1, h.resumable rfl hp⟩

/-- The record of a run whose walk has paused says so. -/
theorem SetOut.awaits (h : s.SetOut j) (hx : service.executor.WaitsOnSuccess) {n : Node}
    {awaited : Awaited} (hw : j.Walks service world left a visits (.paused n awaited) q) :
    (j.ended service s visits (.paused n awaited) q).Resumable
      (j.pauseAt service n.id awaited q.vars) := by
  obtain ⟨r, hr, hflow, hconversation, hcompleted⟩ := h.record
  obtain ⟨before, result, p', vars, database, asked, rfl, ha, he⟩ := hw.exists_paused
  have hfind := j.ended_find? service s (before ++ [⟨n, result⟩]) (.paused n awaited) q
  rw [hr, Option.map_some, RunRecord.loggedAll_eq] at hfind
  refine ⟨j.run, _, rfl, hfind, h.runs j.run r hr, hflow, hconversation, rfl, hcompleted, ?_, ?_⟩
  · simp [RunRecord.finished, Journey.pauseAt, Journey.Visit.entry, Journey.logEntry]
  · refine ⟨Journey.logEntry n result, ?_, rfl, he.success hx ha, ?_⟩
    · simp [RunRecord.finished, Journey.Visit.entry]
    · simp [Journey.logEntry, ha, Journey.pauseAt]

theorem SetOut.ended (h : s.SetOut j) (hx : service.executor.WaitsOnSuccess)
    (hw : j.Walks service world left a visits ending q) :
    (j.ended service s visits ending q).Consistent where
  flows := h.flows
  runs := by
    rw [j.ended_runs]
    exact h.runs.update j.run fun r => r.loggedAll_id _
  pauses other p hp := by
    rw [j.ended_pauses] at hp
    cases ending with
    | paused n awaited =>
      replace hp := (s.pauses.lookup_pause _ other).symm.trans hp
      split at hp
      · rename_i hc
        obtain rfl := Option.some.inj hp
        exact ⟨hc.symm, h.awaits hx hw⟩
      · exact ⟨(h.pauses other p hp).1, h.resumable (j.ended_runs ..) hp⟩
    | _ => exact ⟨(h.pauses other p hp).1, h.resumable (j.ended_runs ..) hp⟩

end EngineState

/-! ### Whole histories -/

variable {executor : Executor} {events : List Event} {s : EngineState}

/-- Whatever happens, the state stays consistent. -/
theorem History.consistent (hx : executor.WaitsOnSuccess) (h : History executor events s) :
    s.Consistent := by
  induction h with
  | start database => exact EngineState.consistent_start database
  | saved h flow ih => exact ih.save flow
  | @called events s h call service he world asked own ih =>
    cases call.comes service s world asked with
    | failed opens hp =>
      rw [hp]
      exact ih.of_opens opens rfl
    | answered opens hp =>
      rw [hp]
      exact ih.of_opens opens rfl
    | walked opens departs walks state answer =>
      rw [state]
      refine (ih.setOut opens departs fun ho => ?_).ended (he ▸ hx) walks
      exact own _ _ (ho ▸ opens)
    | waiting opens departs state outcome =>
      rw [state]
      refine (ih.setOut opens departs fun ho => ?_).underway
      exact own _ _ (ho ▸ opens)

/-- After every history of an engine whose handlers wait only on success, every pause can be resumed:
its run has a record that says the same. -/
theorem pauses_resumable {registered : Registered}
    (hr : ∀ type handler, registered.find? type = some handler → handler.WaitsOnSuccess)
    (h : History (execute registered) events s) {conversation : String} {p : Pause}
    (hp : s.pauses.lookup conversation = some p) :
    p.conversation = conversation ∧ s.Resumable p :=
  (h.consistent (execute_waitsOnSuccess hr)).pauses conversation p hp

/-- A history in which a flow is saved and a run of it pauses. -/
theorem history_waiting :
    History (execute []) [.saved .waiting, .called (.run "f" "c" [] none (some "e")) Call.waiting.value?]
      Call.waiting.state :=
  ((History.start none).saved .waiting).called _ .alone rfl .silent []
    fun d _ _ => Runs.find?_empty d.journey.run

theorem pause_resumable_after_waiting :
    ∃ p, Call.waiting.state.pauses.lookup "c" = some p ∧ Call.waiting.state.Resumable p := by
  have hp : (Call.waiting.state.pauses.lookup "c").isSome = true := by decide +kernel
  obtain ⟨p, hp⟩ := Option.isSome_iff_exists.mp hp
  exact ⟨p, hp, (pauses_resumable (fun _ _ hf => by cases hf) history_waiting hp).2⟩

end ChatFlow
