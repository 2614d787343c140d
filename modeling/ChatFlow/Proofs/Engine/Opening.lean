import ChatFlow.Engine.Calls
import ChatFlow.Proofs.Outside.Task
import ChatFlow.Proofs.Run.Stores

/-!
# How calls begin

Every call of the engine begins with some steps that ask nothing: it looks at the
pauses and the flows, and it ends at once or sets out on a walk.  `Call.Opens`
says which way it goes and in which state, `Call.exists_opens` that it goes some
way, and `Call.Opens.runsAs` that the task of the call goes that way.

The rest is what can be read off an opening.  A call of which no run sets out
changes at most the pause of its conversation (`Call.Opens.eq_or_unpause`).  A run
that sets out is a new one or the paused one of the conversation
(`Call.Opens.starts_or_resumes`), it goes through the document of the flow that
the call is about, and the pauses of other conversations and the records of other
runs stay as they were.
-/

namespace ChatFlow

open Engine

/-- The calls of the engine. -/
inductive Call where
  /-- Starts a run of a flow, perhaps at a given node and under a given id. -/
  | run (flow conversation : String) (vars : Entries Value) (start id : Option String)
  /-- Starts a run of a flow at a node. -/
  | webhook (flow node : String) (vars : Entries Value) (conversation : String)
      (id : Option String)
  /-- Resumes the paused run of a flow. -/
  | resume (conversation flow : String) (further : Entries Value)
  /-- Takes a message. -/
  | receive (m : Message)

namespace Call

/-- What a call does. -/
def task (service : Service) : Call → EngineCall (Option RunResult)
  | run flow conversation vars start id => return some (← Engine.run service flow conversation vars start id)
  | webhook flow node vars conversation id =>
    return some (← Engine.run service flow conversation vars (some node) id)
  | resume conversation flow further => Engine.resume service conversation flow further
  | receive m => Engine.receive service m

/-- The conversation that a call is about. -/
def conversation : Call → String
  | run _ conversation _ _ _ => conversation
  | webhook _ _ _ conversation _ => conversation
  | resume conversation _ _ => conversation
  | receive m => m.phone

/-- Whether what a call answers is about the paused run of its conversation. -/
def resumes (s : EngineState) : Call → Bool
  | run .. | webhook .. => false
  | resume .. => true
  | receive m => (s.pauses.lookup m.phone).isSome

/-- The flow that a call is about, if it is stored. -/
def flow? (s : EngineState) : Call → Option FlowRecord
  | run flow _ _ _ _ => s.flows.find? flow
  | webhook flow _ _ _ _ => s.flows.find? flow
  | resume _ flow _ => s.flows.find? flow
  | receive m =>
    match s.pauses.lookup m.phone with
    | some p => s.flows.find? p.flow
    | none =>
      match s.flows.forMessage m.body with
      | .ok (some flow) => s.flows.find? flow.id
      | _ => none

/-- The flow that a call is about is stored with this document. -/
def Reads (s : EngineState) (call : Call) (document : Document) : Prop :=
  ∃ stored, call.flow? s = some stored ∧ Document.ofStored stored.config = .ok document

end Call

/-- A run that sets out on a walk. -/
structure Departure where
  journey : Journey
  place : Option String
  vars : Entries Value

/-- Which way a call goes. -/
inductive Opening where
  /-- The call fails. -/
  | failed (e : Failure)
  /-- The call has its answer without a walk. -/
  | answered (answer : Option RunResult)
  /-- A new run sets out. -/
  | starts (d : Departure)
  /-- A paused run sets out. -/
  | resumes (d : Departure)

/-- The run that sets out, if one does. -/
def Opening.departure? : Opening → Option Departure
  | failed _ | answered _ => none
  | starts d | resumes d => some d

/-- What is left to do after an opening. -/
def Opening.task (service : Service) : Opening → EngineCall (Option RunResult)
  | failed e => throw e
  | answered answer => return answer
  | starts d | resumes d => return some (← walkFrom service d.journey d.place d.vars)

/-- The state after the pause of a conversation has been taken out. -/
def EngineState.unpause (s : EngineState) (conversation : String) : EngineState :=
  { s with pauses := Entries.erase s.pauses conversation }

/-! ### Openings -/

section

variable (service : Service) (s : EngineState)

/-- How the start of a run begins. -/
inductive Starts (flow conversation : String) (vars : Entries Value) (start id : Option String) :
    Opening → EngineState → Prop
  | unknown (hf : s.flows.find? flow = none) :
      Starts flow conversation vars start id (.answered (some (unknownFlow flow conversation))) s
  | unreadable {stored : FlowRecord} {e : Failure} (hf : s.flows.find? flow = some stored)
      (hd : Document.ofStored stored.config = .error e) :
      Starts flow conversation vars start id (.failed e) s
  | starts {stored : FlowRecord} {document : Document} {record : RunRecord} {runs : Runs}
      (hf : s.flows.find? flow = some stored) (hd : Document.ofStored stored.config = .ok document)
      (hr : s.runs.create stored.id conversation id service.now.unix = (record, runs)) :
      Starts flow conversation vars start id
        (.starts ⟨⟨stored.id, conversation, record.id, document⟩, document.startNode start, vars⟩)
        { s with runs := runs }

/-- How a resumption begins. -/
inductive Resumes (conversation flow : String) (further : Entries Value) :
    Opening → EngineState → Prop
  | idle (hp : ∀ p, s.pauses.lookup conversation = some p → p.flow ≠ flow) :
      Resumes conversation flow further (.answered none) s
  | unknown {p : Pause} (hp : s.pauses.lookup conversation = some p) (hpf : p.flow = flow)
      (hf : s.flows.find? flow = none) :
      Resumes conversation flow further (.answered (some (unknownFlow flow conversation)))
        (s.unpause conversation)
  | unreadable {p : Pause} {stored : FlowRecord} {e : Failure}
      (hp : s.pauses.lookup conversation = some p) (hpf : p.flow = flow)
      (hf : s.flows.find? flow = some stored) (hd : Document.ofStored stored.config = .error e) :
      Resumes conversation flow further (.failed e) (s.unpause conversation)
  | reopens {p : Pause} {stored : FlowRecord} {document : Document} {record : RunRecord}
      (hp : s.pauses.lookup conversation = some p) (hpf : p.flow = flow)
      (hf : s.flows.find? flow = some stored) (hd : Document.ofStored stored.config = .ok document)
      (hr : s.runs.find? (p.run.getD "") = some record) :
      Resumes conversation flow further
        (.resumes ⟨⟨stored.id, conversation, record.id, document⟩, document.next p.node,
          Entries.merge p.vars further⟩)
        ((s.unpause conversation).updateRun record.id RunRecord.resumed)
  | renews {p : Pause} {stored : FlowRecord} {document : Document} {record : RunRecord}
      {runs : Runs} (hp : s.pauses.lookup conversation = some p) (hpf : p.flow = flow)
      (hf : s.flows.find? flow = some stored) (hd : Document.ofStored stored.config = .ok document)
      (hn : s.runs.find? (p.run.getD "") = none)
      (hr : s.runs.create stored.id conversation p.run service.now.unix = (record, runs)) :
      Resumes conversation flow further
        (.resumes ⟨⟨stored.id, conversation, record.id, document⟩, document.next p.node,
          Entries.merge p.vars further⟩)
        { s.unpause conversation with runs := runs }

/-- How a call begins: which way it goes, and in which state. -/
inductive Call.Opens : Call → Opening → EngineState → Prop
  | run {flow conversation : String} {vars : Entries Value} {start id : Option String} {o : Opening}
      {s₁ : EngineState} (h : Starts service s flow conversation vars start id o s₁) :
      Opens (.run flow conversation vars start id) o s₁
  | webhook {flow node conversation : String} {vars : Entries Value} {id : Option String}
      {o : Opening} {s₁ : EngineState}
      (h : Starts service s flow conversation vars (some node) id o s₁) :
      Opens (.webhook flow node vars conversation id) o s₁
  | resume {conversation flow : String} {further : Entries Value} {o : Opening} {s₁ : EngineState}
      (h : Resumes service s conversation flow further o s₁) :
      Opens (.resume conversation flow further) o s₁
  | unread {m : Message} {p : Pause} {e : Failure} (hp : s.pauses.lookup m.phone = some p)
      (he : replyTo s.flows p m = .error e) : Opens (.receive m) (.failed e) s
  | reply {m : Message} {p : Pause} {further : Entries Value} {o : Opening} {s₁ : EngineState}
      (hp : s.pauses.lookup m.phone = some p) (hv : replyTo s.flows p m = .ok further)
      (h : Resumes service s m.phone p.flow further o s₁) : Opens (.receive m) o s₁
  | unmatched {m : Message} (hp : s.pauses.lookup m.phone = none)
      (hm : s.flows.forMessage m.body = .ok none) : Opens (.receive m) (.answered none) s
  | unmatchable {m : Message} {e : Failure} (hp : s.pauses.lookup m.phone = none)
      (hm : s.flows.forMessage m.body = .error e) : Opens (.receive m) (.failed e) s
  | keyword {m : Message} {flow : FlowRecord} {o : Opening} {s₁ : EngineState}
      (hp : s.pauses.lookup m.phone = none) (hm : s.flows.forMessage m.body = .ok (some flow))
      (h : Starts service s flow.id m.phone m.vars none none o s₁) : Opens (.receive m) o s₁

end

/-! ### Tasks -/

section

variable {α β : Type} (world : World) (s : EngineState) (asked : List Query)

theorem run_state_bind (f : EngineState → EngineCall α) :
    (Engine.state >>= f).run.run world s asked = (f s).run.run world s asked := rfl

theorem run_change_bind (g : EngineState → EngineState) (f : Unit → EngineCall α) :
    (Engine.change g >>= f).run.run world s asked = (f ()).run.run world (g s) asked := rfl

theorem run_attempt_ok (a : β) (f : β → EngineCall α) :
    (Task.attempt (.ok a) >>= f).run.run world s asked = (f a).run.run world s asked := rfl

theorem run_attempt_error (e : Failure) (f : β → EngineCall α) :
    (Task.attempt (.error e) >>= f).run.run world s asked =
      (throw e : EngineCall α).run.run world s asked := rfl

end

variable (service : Service) (s : EngineState)

/-- From one state one call runs as another one does from another state. -/
def RunsAs {α : Type} (x y : EngineCall α) (s₁ : EngineState) : Prop :=
  ∀ world asked, x.run.run world s asked = y.run.run world s₁ asked

theorem RunsAs.bind {α β : Type} {s s₁ : EngineState} {x y : EngineCall α}
    (h : RunsAs s x y s₁) (f : α → EngineCall β) : RunsAs s (x >>= f) (y >>= f) s₁ := by
  intro world asked
  rw [ExceptT.run_bind, ExceptT.run_bind, Task.run_andThen, Task.run_andThen, h world asked]

section

variable {service s} {s₁ : EngineState} {flow conversation : String} {vars further : Entries Value}
  {start id : Option String} {o : Opening} {call : Call}

/-- The start of a run runs as its opening. -/
theorem Starts.runsAs (h : Starts service s flow conversation vars start id o s₁) :
    RunsAs s (do return some (← Engine.run service flow conversation vars start id))
      (o.task service) s₁ := by
  intro world asked
  cases h with
  | unknown hf =>
    simp only [Engine.run, bind_assoc, run_state_bind, hf]
    rfl
  | unreadable hf hd =>
    simp only [Engine.run, bind_assoc, run_state_bind, hf, hd]
    rfl
  | starts hf hd hr =>
    simp only [Engine.run, bind_assoc, run_state_bind, hf, hd, run_attempt_ok, hr, run_change_bind]
    rfl

theorem exists_starts (service : Service) (s : EngineState) (flow conversation : String)
    (vars : Entries Value) (start id : Option String) :
    ∃ o s₁, Starts service s flow conversation vars start id o s₁ := by
  cases hf : s.flows.find? flow with
  | none => exact ⟨_, s, .unknown hf⟩
  | some stored =>
    cases hd : Document.ofStored stored.config with
    | error e => exact ⟨_, s, .unreadable hf hd⟩
    | ok document => exact ⟨_, _, .starts hf hd rfl⟩

/-- A resumption runs as its opening. -/
theorem Resumes.runsAs (h : Resumes service s conversation flow further o s₁) :
    RunsAs s (Engine.resume service conversation flow further) (o.task service) s₁ := by
  intro world asked
  cases h with
  | idle hp =>
    have ht := s.pauses.take_of_ne hp
    simp only [Engine.resume, takePause, bind_assoc, run_state_bind, run_change_bind, ht, pure_bind]
    rfl
  | unknown hp hpf hf =>
    subst hpf
    have ht := s.pauses.take_of_lookup hp
    simp only [Engine.resume, takePause, bind_assoc, run_state_bind, run_change_bind, ht,
      pure_bind, hf]
    rfl
  | unreadable hp hpf hf hd =>
    subst hpf
    have ht := s.pauses.take_of_lookup hp
    simp only [Engine.resume, takePause, bind_assoc, run_state_bind, run_change_bind, ht,
      pure_bind, hf, hd]
    rfl
  | reopens hp hpf hf hd hr =>
    subst hpf
    have ht := s.pauses.take_of_lookup hp
    simp only [Engine.resume, takePause, bind_assoc, run_state_bind, run_change_bind, ht,
      pure_bind, hf, hd, run_attempt_ok, reopen, hr]
    rfl
  | renews hp hpf hf hd hn hr =>
    subst hpf
    have ht := s.pauses.take_of_lookup hp
    simp only [Engine.resume, takePause, bind_assoc, run_state_bind, run_change_bind, ht,
      pure_bind, hf, hd, run_attempt_ok, reopen, hn, hr]
    rfl

theorem exists_resumes (service : Service) (s : EngineState) (conversation flow : String)
    (further : Entries Value) : ∃ o s₁, Resumes service s conversation flow further o s₁ := by
  by_cases h : ∀ p, s.pauses.lookup conversation = some p → p.flow ≠ flow
  · exact ⟨_, s, .idle h⟩
  · simp only [ne_eq, Classical.not_forall, Classical.not_not] at h
    obtain ⟨p, hp, hpf⟩ := h
    cases hf : s.flows.find? flow with
    | none => exact ⟨_, _, .unknown hp hpf hf⟩
    | some stored =>
      cases hd : Document.ofStored stored.config with
      | error e => exact ⟨_, _, .unreadable hp hpf hf hd⟩
      | ok document =>
        cases hr : s.runs.find? (p.run.getD "") with
        | some record => exact ⟨_, _, .reopens hp hpf hf hd hr⟩
        | none => exact ⟨_, _, .renews hp hpf hf hd hr rfl⟩

/-- What comes after an answer changes nothing if it keeps the answer. -/
theorem Opening.task_bind (service : Service) (ho : o ≠ .answered none)
    {f : Option RunResult → EngineCall (Option RunResult)} (hf : ∀ r, f (some r) = pure (some r)) :
    o.task service >>= f = o.task service := by
  cases o with
  | failed e => rfl
  | answered answer =>
    cases answer with
    | none => exact absurd rfl ho
    | some r => exact hf r
  | starts d => simp only [Opening.task, bind_assoc, pure_bind, hf]
  | resumes d => simp only [Opening.task, bind_assoc, pure_bind, hf]

theorem Resumes.ne_none {p : Pause} (h : Resumes service s conversation p.flow further o s₁)
    (hp : s.pauses.lookup conversation = some p) : o ≠ .answered none := by
  rintro rfl
  cases h with
  | idle hi => exact hi p hp rfl

/-- A call runs as its opening. -/
theorem Call.Opens.runsAs (h : call.Opens service s o s₁) :
    RunsAs s (call.task service) (o.task service) s₁ := by
  cases h with
  | run h => exact h.runsAs
  | webhook h => exact h.runsAs
  | resume h => exact h.runsAs
  | unread hp he =>
    intro world asked
    simp only [Call.task, Engine.receive, run_state_bind, hp, he, run_attempt_error]
    rfl
  | reply hp hv h =>
    intro world asked
    simp only [Call.task, Engine.receive, run_state_bind, hp, hv, run_attempt_ok]
    rw [h.runsAs.bind _ world asked, Opening.task_bind service (h.ne_none hp)]
    exact fun r => rfl
  | unmatched hp hm =>
    intro world asked
    simp only [Call.task, Engine.receive, Engine.startByMessage, run_state_bind, hp, hm]
    rfl
  | unmatchable hp hm =>
    intro world asked
    simp only [Call.task, Engine.receive, Engine.startByMessage, run_state_bind, hp, hm]
    rfl
  | keyword hp hm h =>
    intro world asked
    rw [← h.runsAs world asked]
    simp only [Call.task, Engine.receive, Engine.startByMessage, run_state_bind, hp, hm]
    rfl

theorem Call.exists_opens (service : Service) (s : EngineState) (call : Call) :
    ∃ o s₁, call.Opens service s o s₁ := by
  cases call with
  | run flow conversation vars start id =>
    obtain ⟨o, s₁, h⟩ := exists_starts service s flow conversation vars start id
    exact ⟨o, s₁, .run h⟩
  | webhook flow node vars conversation id =>
    obtain ⟨o, s₁, h⟩ := exists_starts service s flow conversation vars (some node) id
    exact ⟨o, s₁, .webhook h⟩
  | resume conversation flow further =>
    obtain ⟨o, s₁, h⟩ := exists_resumes service s conversation flow further
    exact ⟨o, s₁, .resume h⟩
  | receive m =>
    cases hp : s.pauses.lookup m.phone with
    | some p =>
      cases hv : replyTo s.flows p m with
      | error e => exact ⟨_, s, .unread hp hv⟩
      | ok further =>
        obtain ⟨o, s₁, h⟩ := exists_resumes service s m.phone p.flow further
        exact ⟨o, s₁, .reply hp hv h⟩
    | none =>
      cases hm : s.flows.forMessage m.body with
      | error e => exact ⟨_, s, .unmatchable hp hm⟩
      | ok found =>
        cases found with
        | none => exact ⟨_, s, .unmatched hp hm⟩
        | some flow =>
          obtain ⟨o, s₁, h⟩ := exists_starts service s flow.id m.phone m.vars none none
          exact ⟨o, s₁, .keyword hp hm h⟩

end

/-! ### What an opening depends on -/

section

variable {service s} {service' : Service} {s₁ : EngineState} {flow conversation : String}
  {vars further : Entries Value} {start id : Option String} {o : Opening} {call : Call}

theorem Starts.of_now (h : Starts service s flow conversation vars start id o s₁)
    (hnow : service'.now = service.now) :
    Starts service' s flow conversation vars start id o s₁ := by
  cases h with
  | unknown hf => exact .unknown hf
  | unreadable hf hd => exact .unreadable hf hd
  | starts hf hd hr => exact .starts hf hd (hnow ▸ hr)

theorem Resumes.of_now (h : Resumes service s conversation flow further o s₁)
    (hnow : service'.now = service.now) : Resumes service' s conversation flow further o s₁ := by
  cases h with
  | idle hp => exact .idle hp
  | unknown hp hpf hf => exact .unknown hp hpf hf
  | unreadable hp hpf hf hd => exact .unreadable hp hpf hf hd
  | reopens hp hpf hf hd hr => exact .reopens hp hpf hf hd hr
  | renews hp hpf hf hd hn hr => exact .renews hp hpf hf hd hn (hnow ▸ hr)

/-- Of the service only the time has a part in how a call begins. -/
theorem Call.Opens.of_now (h : call.Opens service s o s₁) (hnow : service'.now = service.now) :
    call.Opens service' s o s₁ := by
  cases h with
  | run h => exact .run (h.of_now hnow)
  | webhook h => exact .webhook (h.of_now hnow)
  | resume h => exact .resume (h.of_now hnow)
  | unread hp he => exact .unread hp he
  | reply hp hv h => exact .reply hp hv (h.of_now hnow)
  | unmatched hp hm => exact .unmatched hp hm
  | unmatchable hp hm => exact .unmatchable hp hm
  | keyword hp hm h => exact .keyword hp hm (h.of_now hnow)

end

/-! ### Openings without a walk -/

section

variable {service s} {s₁ : EngineState} {o : Opening} {call : Call}

@[simp] theorem EngineState.unpause_lookup (s : EngineState) (conversation other : String) :
    (s.unpause conversation).pauses.lookup other =
      if other = conversation then none else s.pauses.lookup other :=
  s.pauses.lookup_erase conversation other

theorem EngineState.unpause_lookup_self (s : EngineState) (conversation : String) :
    (s.unpause conversation).pauses.lookup conversation = none :=
  (s.unpause_lookup conversation conversation).trans (if_pos rfl)

/-- A call of which no run sets out does nothing but take out the pause of its conversation. -/
theorem Call.Opens.eq_or_unpause (h : call.Opens service s o s₁) (ho : o.departure? = none) :
    s₁ = s ∨ s₁ = s.unpause call.conversation := by
  have hs {flow conversation vars start id}
      (h : Starts service s flow conversation vars start id o s₁) : s₁ = s := by
    cases h with
    | starts _ _ _ => cases ho
    | _ => rfl
  have hr {conversation flow further}
      (h : Resumes service s conversation flow further o s₁) :
      s₁ = s ∨ s₁ = s.unpause conversation := by
    cases h with
    | idle _ => exact Or.inl rfl
    | reopens _ _ _ _ _ => cases ho
    | renews _ _ _ _ _ _ => cases ho
    | _ => exact Or.inr rfl
  cases h with
  | run h => exact Or.inl (hs h)
  | webhook h => exact Or.inl (hs h)
  | resume h => exact hr h
  | reply _ _ h => exact hr h
  | keyword _ _ h => exact Or.inl (hs h)
  | _ => exact Or.inl rfl

theorem Call.Opens.runs_eq (h : call.Opens service s o s₁) (ho : o.departure? = none) :
    s₁.runs = s.runs := by
  rcases h.eq_or_unpause ho with rfl | rfl <;> rfl

/-- A call that answers none has done nothing. -/
theorem Call.Opens.eq_of_none (h : call.Opens service s (.answered none) s₁) : s₁ = s := by
  cases h with
  | run h => cases h
  | webhook h => cases h
  | resume h => cases h; rfl
  | reply _ _ h => cases h; rfl
  | unmatched _ _ => rfl
  | keyword _ _ h => cases h

/-- The only answer without a walk is that there is no such flow. -/
theorem Call.Opens.eq_unknownFlow {r : RunResult}
    (h : call.Opens service s (.answered (some r)) s₁) :
    ∃ flow, r = unknownFlow flow call.conversation := by
  cases h with
  | run h => cases h; exact ⟨_, rfl⟩
  | webhook h => cases h; exact ⟨_, rfl⟩
  | resume h => cases h; exact ⟨_, rfl⟩
  | reply _ _ h => cases h; exact ⟨_, rfl⟩
  | keyword _ _ h => cases h; exact ⟨_, rfl⟩

end

/-! ### Departures -/

section

variable {service s} {s₁ : EngineState} {flow conversation : String} {vars : Entries Value}
  {start id : Option String} {o : Opening} {call : Call} {d : Departure}

theorem Opening.eq_of_departure (h : o.departure? = some d) : o = .starts d ∨ o = .resumes d := by
  cases o with
  | failed e => cases h
  | answered answer => cases h
  | starts d' => exact Or.inl (congrArg _ (Option.some.inj h))
  | resumes d' => exact Or.inr (congrArg _ (Option.some.inj h))

/-- A run that sets out is a new one, or it is the paused one of its conversation. -/
theorem Call.Opens.starts_or_resumes (h : call.Opens service s o s₁)
    (hd : o.departure? = some d) :
    (∃ flow vars start id, call.resumes s = false ∧ call.flow? s = s.flows.find? flow ∧
        Starts service s flow call.conversation vars start id o s₁) ∨
      ∃ flow further, call.resumes s = true ∧ call.flow? s = s.flows.find? flow ∧
        Resumes service s call.conversation flow further o s₁ := by
  cases h with
  | run h => exact Or.inl ⟨_, _, _, _, rfl, rfl, h⟩
  | webhook h => exact Or.inl ⟨_, _, _, _, rfl, rfl, h⟩
  | resume h => exact Or.inr ⟨_, _, rfl, rfl, h⟩
  | unread _ _ => cases hd
  | reply hp _ h =>
    exact Or.inr ⟨_, _, by simp only [Call.resumes, hp, Option.isSome_some],
      by simp only [Call.flow?, hp], h⟩
  | unmatched _ _ => cases hd
  | unmatchable _ _ => cases hd
  | keyword hp hm h =>
    exact Or.inl ⟨_, _, _, _, by simp only [Call.resumes, hp, Option.isSome_none],
      by simp only [Call.flow?, hp, hm], h⟩

theorem Call.Opens.starts (h : call.Opens service s (.starts d) s₁) :
    ∃ flow vars start id, Starts service s flow call.conversation vars start id (.starts d) s₁ := by
  rcases h.starts_or_resumes rfl with ⟨flow, vars, start, id, -, -, h⟩ | ⟨flow, further, -, -, h⟩
  · exact ⟨flow, vars, start, id, h⟩
  · cases h

theorem Call.Opens.resumes (h : call.Opens service s (.resumes d) s₁) :
    ∃ flow further, Resumes service s call.conversation flow further (.resumes d) s₁ := by
  rcases h.starts_or_resumes rfl with ⟨flow, vars, start, id, -, -, h⟩ | ⟨flow, further, -, -, h⟩
  · cases h
  · exact ⟨flow, further, h⟩

/-- A run sets out through the document of a stored flow. -/
structure Departure.Through (d : Departure) (stored : FlowRecord) (conversation : String) : Prop where
  document : Document.ofStored stored.config = .ok d.journey.document
  flow : d.journey.flow = stored.id
  conversation : d.journey.conversation = conversation

/-- All that is known of a new run that sets out. -/
theorem Starts.departs (h : Starts service s flow conversation vars start id o s₁)
    (hd : o.departure? = some d) :
    (∃ stored, s.flows.find? flow = some stored ∧ d.Through stored conversation) ∧
      d.place = d.journey.document.startNode start ∧ s₁.pauses = s.pauses ∧
      ∀ other, other ≠ d.journey.run → s₁.runs.find? other = s.runs.find? other := by
  cases h with
  | unknown _ => cases hd
  | unreadable _ _ => cases hd
  | starts hf hdoc hr =>
    obtain rfl := Option.some.inj hd
    refine ⟨⟨_, hf, hdoc, rfl, rfl⟩, rfl, rfl, fun other hne => ?_⟩
    exact (Runs.find?_create hr other).trans (if_neg hne)

/-- All that is known of a paused run that sets out. -/
theorem Resumes.departs (h : Resumes service s conversation flow vars o s₁)
    (hd : o.departure? = some d) :
    (∃ stored, s.flows.find? flow = some stored ∧ d.Through stored conversation) ∧
      (∃ p, s.pauses.lookup conversation = some p ∧ p.flow = flow ∧
        d.place = d.journey.document.next p.node) ∧
      s₁.pauses = Entries.erase s.pauses conversation ∧
      ∀ other, other ≠ d.journey.run → s₁.runs.find? other = s.runs.find? other := by
  cases h with
  | idle _ => cases hd
  | unknown _ _ _ => cases hd
  | unreadable _ _ _ _ => cases hd
  | reopens hp hpf hf hdoc hr =>
    obtain rfl := Option.some.inj hd
    refine ⟨⟨_, hf, hdoc, rfl, rfl⟩, ⟨_, hp, hpf, rfl⟩, rfl, fun other hne => ?_⟩
    exact s.runs.find?_update_ne hne RunRecord.resumed
  | renews hp hpf hf hdoc hn hr =>
    obtain rfl := Option.some.inj hd
    refine ⟨⟨_, hf, hdoc, rfl, rfl⟩, ⟨_, hp, hpf, rfl⟩, rfl, fun other hne => ?_⟩
    exact (Runs.find?_create hr other).trans (if_neg hne)

/-- What sets out goes through the flow that the call is about. -/
theorem Call.Opens.through (h : call.Opens service s o s₁) (hd : o.departure? = some d) :
    ∃ stored, call.flow? s = some stored ∧ d.Through stored call.conversation := by
  rcases h.starts_or_resumes hd with ⟨flow, vars, start, id, -, hf, h⟩ | ⟨flow, further, -, hf, h⟩
  · rw [hf]
    exact (h.departs hd).1
  · rw [hf]
    exact (h.departs hd).1

theorem Call.Opens.reads (h : call.Opens service s o s₁) (hd : o.departure? = some d) :
    call.Reads s d.journey.document := by
  obtain ⟨stored, hf, ht⟩ := h.through hd
  exact ⟨stored, hf, ht.document⟩

/-- A run that sets out has left its pause if it was paused, and no other one. -/
theorem Call.Opens.pauses_eq (h : call.Opens service s o s₁) (hd : o.departure? = some d) :
    s₁.pauses = if call.resumes s then Entries.erase s.pauses call.conversation else s.pauses := by
  rcases h.starts_or_resumes hd with ⟨flow, vars, start, id, hr, -, h⟩ | ⟨flow, further, hr, -, h⟩
  · rw [hr, (h.departs hd).2.2.1]
    rfl
  · rw [hr, (h.departs hd).2.2.1]
    rfl

/-- The records of other runs stay. -/
theorem Call.Opens.find?_ne (h : call.Opens service s o s₁) (hd : o.departure? = some d)
    {other : String} (hne : other ≠ d.journey.run) :
    s₁.runs.find? other = s.runs.find? other := by
  rcases h.starts_or_resumes hd with ⟨flow, vars, start, id, -, -, h⟩ | ⟨flow, further, -, -, h⟩
  · exact (h.departs hd).2.2.2 other hne
  · exact (h.departs hd).2.2.2 other hne

/-- The pauses of other conversations stay, whichever way the call goes. -/
theorem Call.Opens.lookup_ne (h : call.Opens service s o s₁) {other : String}
    (hne : other ≠ call.conversation) : s₁.pauses.lookup other = s.pauses.lookup other := by
  have herase : Pauses.lookup (Entries.erase s.pauses call.conversation) other =
      s.pauses.lookup other := (s.pauses.lookup_erase _ other).trans (if_neg hne)
  cases hd : o.departure? with
  | none =>
    rcases h.eq_or_unpause hd with rfl | rfl
    · rfl
    · exact herase
  | some d =>
    rw [h.pauses_eq hd]
    split
    · exact herase
    · rfl

end

/-! ### Calls that lead to a walk -/

/-- Where the walk of a call through a document begins. -/
def Call.place (s : EngineState) (document : Document) : Call → Option String
  | run _ _ _ start _ => document.startNode start
  | webhook _ node _ _ _ => document.startNode (some node)
  | resume conversation _ _ =>
    (s.pauses.lookup conversation).bind fun p => document.next p.node
  | receive m =>
    match s.pauses.lookup m.phone with
    | some p => document.next p.node
    | none => document.startNode none

/-- A call that resumes finds a pause of its flow, and a message can be read as the reply that the
pause waits for. -/
def Call.Ready (s : EngineState) : Call → Prop
  | run .. | webhook .. => True
  | resume conversation flow _ => ∃ p, s.pauses.lookup conversation = some p ∧ p.flow = flow
  | receive m =>
    ∀ p, s.pauses.lookup m.phone = some p → ∃ further, replyTo s.flows p m = .ok further

theorem exists_resumption {service : Service} {s : EngineState} {conversation flow : String}
    {p : Pause} {stored : FlowRecord} {document : Document}
    (hp : s.pauses.lookup conversation = some p) (hpf : p.flow = flow)
    (hf : s.flows.find? flow = some stored) (hd : Document.ofStored stored.config = .ok document)
    (further : Entries Value) :
    ∃ o s₁ d, Resumes service s conversation flow further o s₁ ∧ o.departure? = some d ∧
      d.journey.document = document ∧ d.place = document.next p.node := by
  cases hr : s.runs.find? (p.run.getD "") with
  | some record => exact ⟨_, _, _, .reopens hp hpf hf hd hr, rfl, rfl, rfl⟩
  | none => exact ⟨_, _, _, .renews hp hpf hf hd hr rfl, rfl, rfl, rfl⟩

/-- From a call that is ready a run sets out. -/
theorem Call.exists_departure (service : Service) {s : EngineState} {call : Call}
    {document : Document} (hr : call.Reads s document) (hready : call.Ready s) :
    ∃ o s₁ d, call.Opens service s o s₁ ∧ o.departure? = some d ∧
      d.journey.document = document ∧ d.place = call.place s document := by
  obtain ⟨stored, hf, hd⟩ := hr
  cases call with
  | run flow conversation vars start id => exact ⟨_, _, _, .run (.starts hf hd rfl), rfl, rfl, rfl⟩
  | webhook flow node vars conversation id =>
    exact ⟨_, _, _, .webhook (.starts hf hd rfl), rfl, rfl, rfl⟩
  | resume conversation flow further =>
    obtain ⟨p, hp, hpf⟩ := hready
    obtain ⟨o, s₁, d, ho, hdep, hdoc, hplace⟩ := exists_resumption hp hpf hf hd further
    refine ⟨o, s₁, d, .resume ho, hdep, hdoc, ?_⟩
    rw [hplace, Call.place, hp, Option.bind_some]
  | receive m =>
    simp only [Call.place]
    cases hp : s.pauses.lookup m.phone with
    | some p =>
      obtain ⟨further, hv⟩ := hready p hp
      simp only [Call.flow?, hp] at hf
      obtain ⟨o, s₁, d, ho, hdep, hdoc, hplace⟩ := exists_resumption hp rfl hf hd further
      exact ⟨o, s₁, d, .reply hp hv ho, hdep, hdoc, hplace⟩
    | none =>
      simp only [Call.flow?, hp] at hf
      split at hf
      · rename_i flow hm
        exact ⟨_, _, _, .keyword hp hm (.starts hf hd rfl), rfl, rfl, rfl⟩
      · cases hf

end ChatFlow
