import ChatFlow.Proofs.Engine.Course
import ChatFlow.Proofs.Engine.Handling

/-!
# What a call leaves in the pauses

A call writes only the pause of its own conversation.  If its run pauses, that
pause says where and for what; if its run ends, the pause is the one from before,
or there is none if the run was resumed from it.  A call that answers nothing has
changed nothing and asked nothing.
-/

namespace ChatFlow

namespace Journey

variable (j : Journey) (service : Service) (ending : Ending)

theorem pausesAfter_lookup_ne (pauses : Pauses) (vars : Entries Value) {other : String}
    (h : other ≠ j.conversation) :
    (j.pausesAfter service pauses ending vars).lookup other = pauses.lookup other := by
  cases ending with
  | paused n a => exact (pauses.lookup_pause _ other).trans (if_neg h)
  | _ => rfl

theorem pausesAfter_of_ne_paused (pauses : Pauses) (vars : Entries Value)
    (h : ending.outcome ≠ .paused) : j.pausesAfter service pauses ending vars = pauses := by
  cases ending with
  | paused n a => exact absurd rfl h
  | _ => rfl

theorem pausesAfter_paused (pauses : Pauses) (n : Node) (a : Awaited) (vars : Entries Value) :
    (j.pausesAfter service pauses (.paused n a) vars).lookup j.conversation =
      some (j.pauseAt service n.id a vars) :=
  (pauses.lookup_pause _ _).trans (if_pos rfl)

theorem Ending.eq_paused {ending : Ending} (h : ending.outcome = .paused) :
    ∃ n a, ending = .paused n a := by
  cases ending with
  | paused n a => exact ⟨n, a, rfl⟩
  | _ => cases h

variable {j service ending} {world : World} {left : Nat} {p q : Point} {visits : List Visit}
  {n : Node} {a : Awaited}

/-- The node at which a walk pauses is the last one that it visits, and of a type that waits for
what the walk waits for. -/
theorem Walks.paused_last (hx : service.executor = execute [])
    (h : j.Walks service world left p visits (.paused n a) q) :
    j.document.node n.id = some n ∧ (visitedBy visits (.paused n a)).getLast? = some n.id ∧
      n.awaited? = some a := by
  obtain ⟨before, r, p', vars, database, asked, rfl, ha, he⟩ := h.exists_paused
  obtain ⟨id, -, hn⟩ := Option.bind_eq_some_iff.mp he.node
  refine ⟨Document.node_id hn, ?_, he.awaited hx ha⟩
  simp [visitedBy, Ending.broken]

end Journey

/-- The pauses after a call that has its answer. -/
theorem pauses_after_call {service : Service} (hx : service.executor = execute []) {call : Call}
    {s s' : EngineState} {world : World} {asked asked' : List Query} {answer : Option RunResult}
    (h : (call.task service).run.run world s asked = ⟨s', asked', .inr (.ok answer)⟩) :
    (∀ other, other ≠ call.conversation → s'.pauses.lookup other = s.pauses.lookup other) ∧
      (answer = none → s'.pauses = s.pauses ∧ s'.runs = s.runs ∧ asked' = asked) ∧
      (∀ r, answer = some r → r.outcome = .paused →
        ∃ document n a, call.Reads s document ∧ document.node n.id = some n ∧
          r.visited.getLast? = some n.id ∧ n.awaited? = some a ∧
          s'.pauses.lookup call.conversation =
            some { flow := r.flow, node := n.id, conversation := call.conversation, vars := r.vars,
                   awaited := a, run := r.run, since := service.now.unix }) ∧
      ∀ r, answer = some r → r.outcome ≠ .paused → r.outcome ≠ .unknownFlow →
        s'.pauses.lookup call.conversation =
          if call.resumes s then none else s.pauses.lookup call.conversation := by
  have hc := call.comes service s world asked
  rw [h] at hc
  cases hc with
  | failed opens hp => cases hp
  | answered opens hp =>
    obtain ⟨rfl, rfl, ho⟩ := Task.Progress.mk.inj hp
    obtain rfl := Except.ok.inj (Sum.inr.inj ho)
    refine ⟨fun other hne => opens.lookup_ne hne, ?_, ?_, ?_⟩
    · rintro rfl
      obtain rfl := opens.eq_of_none
      exact ⟨rfl, rfl, rfl⟩
    · rintro r rfl hpaused
      obtain ⟨flow, rfl⟩ := opens.eq_unknownFlow
      cases hpaused
    · rintro r rfl - hknown
      obtain ⟨flow, rfl⟩ := opens.eq_unknownFlow
      exact absurd rfl hknown
  | walked opens departs walks state answered =>
    rename_i o d s₁ visits ending q
    obtain rfl := Except.ok.inj (answered _ rfl)
    obtain ⟨stored, -, through⟩ := opens.through departs
    have hs : s'.pauses = d.journey.pausesAfter service s₁.pauses ending q.vars :=
      congrArg EngineState.pauses state
    rw [hs]
    refine ⟨fun other hne => ?_, fun hnone => (nomatch hnone), ?_, ?_⟩
    · rw [Journey.pausesAfter_lookup_ne _ _ _ _ _ (through.conversation ▸ hne)]
      exact opens.lookup_ne hne
    · rintro r hr hpaused
      obtain rfl := Option.some.inj hr
      obtain ⟨n, a, rfl⟩ := Journey.Ending.eq_paused hpaused
      obtain ⟨hn, hlast, ha⟩ := walks.paused_last hx
      refine ⟨d.journey.document, n, a, opens.reads departs, hn, hlast, ha, ?_⟩
      rw [← through.conversation, Journey.pausesAfter_paused]
      rfl
    · rintro r hr hpaused -
      obtain rfl := Option.some.inj hr
      rw [Journey.pausesAfter_of_ne_paused _ _ _ _ _ hpaused, opens.pauses_eq departs]
      split
      · exact (s.pauses.lookup_erase _ _).trans (if_pos rfl)
      · rfl
  | waiting opens departs state outcome => cases outcome

theorem pauses_after_call_waiting :
    Call.waiting.outcome = .inr (.ok (some .waiting)) ∧
      ∃ n a, Call.waiting.state.pauses.lookup "c" =
        some { flow := "f", node := n, conversation := "c", vars := RunResult.waiting.vars,
               awaited := a, run := some "e", since := Service.alone.now.unix } := by
  have h : Call.waiting =
      ⟨Call.waiting.state, Call.waiting.asked, .inr (.ok (some .waiting))⟩ := by
    rw [← Call.waiting_outcome]
  obtain ⟨document, n, a, -, -, -, -, hp⟩ := (pauses_after_call rfl h).2.2.1 _ rfl rfl
  exact ⟨Call.waiting_outcome, n.id, a, hp⟩

end ChatFlow
