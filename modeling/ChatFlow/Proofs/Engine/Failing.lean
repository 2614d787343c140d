import ChatFlow.Proofs.Document.Reading
import ChatFlow.Proofs.Engine.History

/-!
# What a call that fails has done

A call fails before its walk begins or not at all, and it leaves the state as it was
(`failing_calls_keep_state`), with one exception.  A pause is taken out before the
document of its flow is read.  If that cannot be read, the pause is lost
(`Call.LosesPause`), and even when the flow has been put right the run that waited
there cannot be resumed (`resumption_loses_pause`).
-/

namespace ChatFlow

open Engine

/-- A flow is stored with a document that cannot be read. -/
def Flows.Unreadable (flows : Flows) (flow : String) : Prop :=
  ∃ stored e, flows.find? flow = some stored ∧ Document.ofStored stored.config = .error e

/-- A call takes out a pause of a flow that cannot be read. -/
def Call.LosesPause (s : EngineState) : Call → Prop
  | run .. | webhook .. => False
  | resume conversation flow _ =>
    (∃ p, s.pauses.lookup conversation = some p ∧ p.flow = flow) ∧ s.flows.Unreadable flow
  | receive m =>
    ∃ p further, s.pauses.lookup m.phone = some p ∧ replyTo s.flows p m = .ok further ∧
      s.flows.Unreadable p.flow

section

variable {service : Service} {s s₁ : EngineState} {call : Call} {e : Failure}
  {flow conversation : String} {vars further : Entries Value} {start id : Option String}

theorem Starts.eq_of_failed
    (h : Starts service s flow conversation vars start id (.failed e) s₁) : s₁ = s := by
  cases h
  rfl

theorem Resumes.of_failed (h : Resumes service s conversation flow further (.failed e) s₁) :
    s₁ = s.unpause conversation ∧ (∃ p, s.pauses.lookup conversation = some p ∧ p.flow = flow) ∧
      s.flows.Unreadable flow := by
  cases h with
  | unreadable hp hpf hf hd => exact ⟨rfl, ⟨_, hp, hpf⟩, _, _, hf, hd⟩

/-- A call that fails has done nothing, or has lost the pause of its conversation. -/
theorem Call.Opens.of_failed (h : call.Opens service s (.failed e) s₁) :
    s₁ = s ∧ ¬ call.LosesPause s ∨ s₁ = s.unpause call.conversation ∧ call.LosesPause s := by
  cases h with
  | run h => exact Or.inl ⟨h.eq_of_failed, fun hl => hl⟩
  | webhook h => exact Or.inl ⟨h.eq_of_failed, fun hl => hl⟩
  | resume h => exact Or.inr h.of_failed
  | unread hp he =>
    refine Or.inl ⟨rfl, ?_⟩
    rintro ⟨p, further, hp', hv, -⟩
    obtain rfl := Option.some.inj (hp.symm.trans hp')
    rw [he] at hv
    cases hv
  | reply hp hv h =>
    obtain ⟨hs, -, hf⟩ := h.of_failed
    exact Or.inr ⟨hs, _, _, hp, hv, hf⟩
  | unmatchable hp hm =>
    refine Or.inl ⟨rfl, ?_⟩
    rintro ⟨p, further, hp', -⟩
    rw [hp] at hp'
    cases hp'
  | keyword hp hm h =>
    refine Or.inl ⟨h.eq_of_failed, ?_⟩
    rintro ⟨p, further, hp', -⟩
    rw [hp] at hp'
    cases hp'

/-- A call that loses a pause fails, and with no fault of a document. -/
theorem Call.LosesPause.opens (h : call.LosesPause s) (service : Service) :
    ∃ reason, call.Opens service s (.failed (.wrongKind reason)) (s.unpause call.conversation) := by
  cases call with
  | run flow conversation vars start id => exact h.elim
  | webhook flow node vars conversation id => exact h.elim
  | resume conversation flow further =>
    obtain ⟨⟨p, hp, hpf⟩, stored, e, hf, hd⟩ := h
    obtain ⟨reason, rfl⟩ := Document.ofStored_error hd
    exact ⟨reason, .resume (.unreadable hp hpf hf hd)⟩
  | receive m =>
    obtain ⟨p, further, hp, hv, stored, e, hf, hd⟩ := h
    obtain ⟨reason, rfl⟩ := Document.ofStored_error hd
    exact ⟨reason, .reply hp hv (.unreadable hp rfl hf hd)⟩

end

/-- A call that fails leaves the state as it was, unless it has taken out a pause and cannot read the
document of its flow; then it fails in every world, and the pause is lost but nothing else. -/
theorem failing_calls_keep_state (service : Service) (call : Call) (s : EngineState) (world : World)
    (asked : List Query) :
    (call.LosesPause s → ∃ reason, (call.task service).run.run world s asked =
      ⟨s.unpause call.conversation, asked, .inr (.error (.wrongKind reason))⟩) ∧
    (¬ call.LosesPause s → ∀ s' asked' e, (call.task service).run.run world s asked =
      ⟨s', asked', .inr (.error e)⟩ → s' = s ∧ asked' = asked) := by
  refine ⟨fun hl => ?_, fun hl s' asked' e h => ?_⟩
  · obtain ⟨reason, ho⟩ := hl.opens service
    exact ⟨reason, ho.runsAs world asked⟩
  · have hc := call.comes service s world asked
    rw [h] at hc
    cases hc with
    | failed opens hp =>
      obtain ⟨rfl, rfl, -⟩ := Task.Progress.mk.inj hp
      rcases opens.of_failed with ⟨rfl, -⟩ | ⟨-, hl'⟩
      · exact ⟨rfl, rfl⟩
      · exact absurd hl' hl
    | answered opens hp => cases hp
    | walked opens departs walks state answer => cases answer _ rfl
    | waiting opens departs state outcome => cases outcome

/-- The flow that waits, stored again with a number in the place of its edges. -/
def FlowRecord.misread : FlowRecord :=
  { FlowRecord.waiting with
    config := .object [
      ("nodes", .list [.object [("id", .str "ask"), ("type", .str "wait_for_reply")]]),
      ("edges", .int 5)] }

/-- The state in which a run of the flow has paused before it was stored again. -/
def EngineState.misread : EngineState :=
  { Call.waiting.state with flows := Call.waiting.state.flows.save .misread }

theorem history_misread :
    History (execute [])
      [.saved .waiting, .called (.run "f" "c" [] none (some "e")) Call.waiting.value?,
        .saved .misread] .misread :=
  history_waiting.saved .misread

theorem losesPause_misread : (Call.resume "c" "f" []).LosesPause .misread := by
  have hp : (EngineState.misread.pauses.lookup "c").map Pause.flow = some "f" := by decide +kernel
  obtain ⟨p, hp, hpf⟩ := Option.map_eq_some_iff.mp hp
  have hf : Entries.find? EngineState.misread.flows "f" = some .misread :=
    Entries.find?_put_self ..
  exact ⟨⟨p, hp, hpf⟩, .misread, _, hf, rfl⟩

theorem failing_calls_keep_state_misread :
    ∃ reason, ((Call.resume "c" "f" []).task .alone).run.run .silent .misread [] =
      ⟨EngineState.misread.unpause "c", [], .inr (.error (.wrongKind reason))⟩ :=
  (failing_calls_keep_state .alone (.resume "c" "f" []) .misread .silent []).1 losesPause_misread

/-- A resumption that fails, after which there is nothing left to resume. -/
theorem resumption_loses_pause :
    ∃ events reason s, History (execute []) events .misread ∧
      (EngineState.misread.pauses.lookup "c").isSome = true ∧
      ((Call.resume "c" "f" []).task .alone).run.run .silent .misread [] =
        ⟨s, [], .inr (.error (.wrongKind reason))⟩ ∧
      s.pauses.lookup "c" = none := by
  obtain ⟨reason, ho⟩ := losesPause_misread.opens .alone
  obtain ⟨⟨p, hp, -⟩, -⟩ := losesPause_misread
  refine ⟨_, reason, _, history_misread, ?_, ho.runsAs _ _, ?_⟩
  · rw [hp]
    rfl
  · exact EngineState.unpause_lookup_self ..

end ChatFlow
