import ChatFlow.Proofs.Engine.Course
import ChatFlow.Proofs.Engine.Frame

/-!
# Reachable states

The states that saving flows and making calls lead to, whatever becomes of the calls
and whichever ids they give to runs.  In all of them flows and records are kept under
their ids, and a pause is that of a run with an id, in its own conversation and of a
flow that is stored (`EngineState.Reachable.sound`): flows are never taken out, so a
flow that a run has gone through is still there when the run goes on.
-/

namespace ChatFlow

theorem Call.find?_of_flow? {s : EngineState} {call : Call} {stored : FlowRecord}
    (h : call.flow? s = some stored) : ∃ id, s.flows.find? id = some stored := by
  cases call with
  | run flow conversation vars start id => exact ⟨flow, h⟩
  | webhook flow node vars conversation id => exact ⟨flow, h⟩
  | resume conversation flow further => exact ⟨flow, h⟩
  | receive m =>
    simp only [flow?] at h
    split at h
    · exact ⟨_, h⟩
    · split at h
      · exact ⟨_, h⟩
      · cases h

namespace EngineState

/-- The states that saving flows and making calls lead to from empty stores. -/
inductive Reachable : EngineState → Prop
  | start (database : Database.Address) : Reachable (.start [] database)
  | saved {s : EngineState} (h : Reachable s) (flow : FlowRecord) :
      Reachable { s with flows := s.flows.save flow }
  | called {s : EngineState} (h : Reachable s) (call : Call) (service : Service) (world : World)
      (asked : List Query) : Reachable ((call.task service).run.run world s asked).state

/-- A pause is one of a run with an id, in this conversation, of a flow that is stored. -/
structure Holds (s : EngineState) (conversation : String) (p : Pause) : Prop where
  conversation : p.conversation = conversation
  flow : (s.flows.find? p.flow).isSome
  run : ∃ id, p.run = some id ∧ id ≠ ""

/-- Flows and records are kept under their ids, and pauses are of flows that are stored. -/
structure Sound (s : EngineState) : Prop where
  flows : s.flows.Keyed
  runs : s.runs.Keyed
  pauses : ∀ conversation p, s.pauses.lookup conversation = some p → s.Holds conversation p

variable {s t : EngineState} {conversation : String} {p : Pause}

theorem Holds.of_flows (h : s.Holds conversation p) (ht : t.flows = s.flows) :
    t.Holds conversation p :=
  ⟨h.conversation, ht ▸ h.flow, h.run⟩

theorem sound_start (database : Database.Address) : (start [] database).Sound where
  flows id flow h := by cases h
  runs id r h := by
    rw [start, Runs.find?_empty] at h
    cases h
  pauses conversation p h := by cases h

theorem Sound.save (h : s.Sound) (flow : FlowRecord) :
    { s with flows := s.flows.save flow }.Sound where
  flows := h.flows.save flow
  runs := h.runs
  pauses conversation p hp := by
    obtain ⟨hc, hf, hrun⟩ := h.pauses conversation p hp
    refine ⟨hc, ?_, hrun⟩
    -- a flow that is saved takes the place of one, and no flow goes
    rw [Flows.find?_save]
    split
    · rfl
    · exact hf

/-! ### Calls -/

section

variable {service : Service} {call : Call} {o : Opening} {d : Departure}

/-- An opening makes no pauses. -/
theorem lookup_of_opens (ho : call.Opens service s o t) {other : String}
    (hp : t.pauses.lookup other = some p) : s.pauses.lookup other = some p := by
  by_cases hc : other = call.conversation
  · have herase : (Pauses.lookup (Entries.erase s.pauses other) other) = none := by
      rw [Pauses.lookup_erase, if_pos rfl]
    subst hc
    cases hd : o.departure? with
    | none =>
      rcases ho.eq_or_unpause hd with rfl | rfl
      · exact hp
      · exact absurd (hp.symm.trans herase) (Option.some_ne_none p)
    | some d =>
      rw [ho.pauses_eq hd] at hp
      split at hp
      · exact absurd (hp.symm.trans herase) (Option.some_ne_none p)
      · exact hp
  · rw [← ho.lookup_ne hc]
    exact hp

theorem Sound.of_opens (h : s.Sound) (ho : call.Opens service s o t) : t.Sound where
  flows := by
    rw [ho.frame.flows]
    exact h.flows
  runs := ho.frame.keyed h.runs
  pauses other _ hp := (h.pauses other _ (lookup_of_opens ho hp)).of_flows ho.frame.flows

/-- The flow of a run that sets out is stored, and the run has an id. -/
theorem Sound.departs (h : s.Sound) (ho : call.Opens service s o t) (hd : o.departure? = some d) :
    (t.flows.find? d.journey.flow).isSome ∧ d.journey.run ≠ "" := by
  obtain ⟨stored, hf, through⟩ := ho.through hd
  obtain ⟨id, hf⟩ := Call.find?_of_flow? hf
  obtain rfl := h.flows id stored hf
  constructor
  · rw [ho.frame.flows, through.flow, hf]
    rfl
  · rw [ho.frame.id h.runs d hd]
    exact Runs.idFor_ne_empty _ _

variable {j : Journey} {visits : List Journey.Visit} {ending : Journey.Ending} {q : Journey.Point}
  {database : Database.Address}

theorem Sound.underway (h : s.Sound) : (j.underway s visits database).Sound where
  flows := h.flows
  runs := h.runs.update j.run fun r => r.loggedAll_id _
  pauses other p hp := (h.pauses other p hp).of_flows rfl

theorem Sound.ended (h : s.Sound) (hf : (s.flows.find? j.flow).isSome) (hrun : j.run ≠ "") :
    (j.ended service s visits ending q).Sound where
  flows := h.flows
  runs := by
    rw [j.ended_runs]
    exact h.runs.update j.run fun r => r.loggedAll_id _
  pauses other p hp := by
    rw [j.ended_pauses] at hp
    cases ending with
    | paused n awaited =>
      replace hp := (s.pauses.lookup_pause _ other).symm.trans hp
      split at hp
      · rename_i hc
        obtain rfl := Option.some.inj hp
        exact ⟨hc.symm, hf, j.run, rfl, hrun⟩
      · exact (h.pauses other p hp).of_flows rfl
    | _ => exact (h.pauses other p hp).of_flows rfl

end

theorem Reachable.sound (h : s.Reachable) : s.Sound := by
  induction h with
  | start database => exact sound_start database
  | saved h flow ih => exact ih.save flow
  | @called s h call service world asked ih =>
    cases call.comes service s world asked with
    | failed opens hp =>
      rw [hp]
      exact ih.of_opens opens
    | answered opens hp =>
      rw [hp]
      exact ih.of_opens opens
    | walked opens departs walks state answer =>
      obtain ⟨hf, hrun⟩ := ih.departs opens departs
      rw [state]
      exact (ih.of_opens opens).ended hf hrun
    | waiting opens departs state outcome =>
      rw [state]
      exact (ih.of_opens opens).underway

end EngineState

end ChatFlow
