import ChatFlow.Proofs.Document.Reading
import ChatFlow.Proofs.Engine.Ledger
import ChatFlow.Proofs.Engine.Pausing
import ChatFlow.Proofs.Engine.Reaching

/-!
# Pauses that are replaced

A conversation has one pause.  When a second run of it pauses, its pause takes the
place of the first one, and nothing more happens to the first run: its record goes on
saying that it is paused, though it cannot be resumed any more.

Over every history of calls that have ended, no record says that its run is running,
and a run that is paused is the one that the pause of its conversation names exactly
if it was the last of the conversation to pause (`paused_run_named_iff`).  Only a call
that breaks off because a flow has a shape that cannot be put right may take a pause
away from its run.
-/

namespace ChatFlow

open Engine

/-! ### What the events tell -/

/-- Whether a call takes up the pause of its conversation, if there is one. -/
def Call.takesUp : Call → Bool
  | run .. | webhook .. => false
  | resume .. | receive .. => true

/-- A run of a conversation has paused. -/
def Event.PausesIn (conversation : String) (e : Event) : Prop :=
  ∃ r, e.result? = some r ∧ r.outcome = .paused ∧ r.conversation = conversation

/-- Since the last run of a conversation has paused, a call that takes up its pause has broken off. -/
def BrokenOff (conversation : String) (events : List Event) : Prop :=
  ∃ before call reason after,
    events = before ++ Event.called call (some (.error (.wrongKind reason))) :: after ∧
      call.takesUp = true ∧ call.conversation = conversation ∧
      ∀ e ∈ after, ¬ e.PausesIn conversation

/-- The run of a conversation that was the last to pause. -/
def lastPaused (conversation : String) (events : List Event) : Option String :=
  ((events.filterMap Event.result?).filter fun r =>
    r.outcome = .paused ∧ r.conversation = conversation).getLast?.bind RunResult.run

section

variable {events : List Event} {e : Event} {conversation : String} {r : RunResult}

theorem BrokenOff.append (h : BrokenOff conversation events) (he : ¬ e.PausesIn conversation) :
    BrokenOff conversation (events ++ [e]) := by
  obtain ⟨before, call, reason, after, rfl, htakes, hc, hafter⟩ := h
  refine ⟨before, call, reason, after ++ [e], by simp, htakes, hc, fun e' he' => ?_⟩
  rcases List.mem_append.mp he' with he' | he'
  · exact hafter e' he'
  · rw [List.mem_singleton.mp he']
    exact he

theorem lastPaused_append_of_not (h : ¬ e.PausesIn conversation) :
    lastPaused conversation (events ++ [e]) = lastPaused conversation events := by
  cases he : e.result? with
  | none => simp [lastPaused, List.filterMap_append, he]
  | some r =>
    have hr : ¬ (r.outcome = .paused ∧ r.conversation = conversation) := fun ho => h ⟨r, he, ho⟩
    simp [lastPaused, List.filterMap_append, he, hr]

theorem lastPaused_append_of_eq (he : e.result? = some r) (hr : r.outcome = .paused) :
    lastPaused r.conversation (events ++ [e]) = r.run := by
  simp [lastPaused, List.filterMap_append, he, hr]

end

/-! ### What a call does to its run -/

/-- The state after a call that has returned a result about a run: the record of the run says what
has come of it, and the pause of its conversation is its own if it has paused, and otherwise is
what it was, unless that was its own. -/
structure RunResult.Settles (r : RunResult) (s t : EngineState) : Prop where
  record : ∃ id record, r.run = some id ∧ t.runs.find? id = some record ∧
    record.conversation = r.conversation ∧ record.status = r.outcome.status
  records : ∀ id, r.run ≠ some id → t.runs.find? id = s.runs.find? id
  apart : ∀ other p, other ≠ r.conversation → s.pauses.lookup other = some p → p.run ≠ r.run
  pauses : ∀ other, other ≠ r.conversation → t.pauses.lookup other = s.pauses.lookup other
  paused : r.outcome = .paused → ∃ p, t.pauses.lookup r.conversation = some p ∧ p.run = r.run
  stopped : r.outcome ≠ .paused → ∀ p, t.pauses.lookup r.conversation = some p ↔
    s.pauses.lookup r.conversation = some p ∧ p.run ≠ r.run

/-- What is left after some events: no run is under way, every pause names the last run of its
conversation that has paused, and unless a call has broken off since, a paused run that was the last
to pause is named by the pause of its conversation. -/
structure Remains (events : List Event) (s : EngineState) : Prop where
  still : ∀ id r, s.runs.find? id = some r → r.status ≠ .running
  named : ∀ conversation p, s.pauses.lookup conversation = some p →
    ∃ id r, p.run = some id ∧ lastPaused conversation events = some id ∧
      s.runs.find? id = some r ∧ r.status = .paused ∧ r.conversation = conversation
  kept : ∀ id r, s.runs.find? id = some r → r.status = .paused →
    ¬ BrokenOff r.conversation events → lastPaused r.conversation events = some id →
      ∃ p, s.pauses.lookup r.conversation = some p ∧ p.run = some id

theorem RunOutcome.status_ne_running (o : RunOutcome) : o.status ≠ .running := by
  cases o <;> decide

theorem RunOutcome.status_eq_paused_iff {o : RunOutcome} : o.status = .paused ↔ o = .paused := by
  cases o <;> decide

section

variable {events : List Event} {s t : EngineState} {e : Event} {r : RunResult}

/-- An event without a paused run that leaves records and pauses as they are. -/
theorem Remains.keep (h : Remains events s) (hruns : t.runs = s.runs) (hpauses : t.pauses = s.pauses)
    (he : ∀ r, e.result? = some r → r.outcome ≠ .paused) : Remains (events ++ [e]) t := by
  have hnone : ∀ conversation, ¬ e.PausesIn conversation := by
    rintro conversation ⟨r, hr, ho, -⟩
    exact he r hr ho
  have hlast : ∀ conversation, lastPaused conversation (events ++ [e]) =
      lastPaused conversation events := fun conversation => lastPaused_append_of_not (hnone conversation)
  constructor
  · rw [hruns]
    exact h.still
  · rw [hruns, hpauses]
    simpa only [hlast] using h.named
  · rw [hruns, hpauses]
    intro id r hr hp hb
    rw [hlast]
    exact h.kept id r hr hp fun hb' => hb (hb'.append (hnone _))

/-- A call that has broken off and taken a pause away. -/
theorem Remains.brokenOff (h : Remains events s) {call : Call} {reason : String}
    (htakes : call.takesUp = true) :
    Remains (events ++ [.called call (some (.error (.wrongKind reason)))])
      (s.unpause call.conversation) := by
  have hnone : ∀ conversation,
      ¬ (Event.called call (some (.error (.wrongKind reason)))).PausesIn conversation := by
    rintro conversation ⟨r, hr, -⟩
    cases hr
  constructor
  · exact h.still
  · intro conversation p hp
    rw [EngineState.unpause_lookup] at hp
    split at hp
    · cases hp
    · rw [lastPaused_append_of_not (hnone _)]
      exact h.named conversation p hp
  · intro id r hr hp hb
    rw [lastPaused_append_of_not (hnone _)]
    intro hl
    have hc : r.conversation ≠ call.conversation := by
      intro hc
      exact hb ⟨events, call, reason, [], rfl, htakes, hc.symm, fun _ h => by cases h⟩
    rw [EngineState.unpause_lookup, if_neg hc]
    exact h.kept id r hr hp (fun hb' => hb (hb'.append (hnone _))) hl

theorem Event.PausesIn.of_result {conversation : String} (h : e.PausesIn conversation)
    (he : e.result? = some r) : r.outcome = .paused ∧ r.conversation = conversation := by
  obtain ⟨r', hr', ho⟩ := h
  obtain rfl := Option.some.inj (he.symm.trans hr')
  exact ho

/-- After a result about a run the pauses name the runs that have paused last. -/
theorem Remains.named_of_settles (h : Remains events s) (hr : r.Settles s t)
    (he : e.result? = some r) {conversation : String} {p : Pause}
    (hp : t.pauses.lookup conversation = some p) :
    ∃ id r', p.run = some id ∧ lastPaused conversation (events ++ [e]) = some id ∧
      t.runs.find? id = some r' ∧ r'.status = .paused ∧ r'.conversation = conversation := by
  -- a pause that was there before is about another run, whose record has stayed
  have hstays : s.pauses.lookup conversation = some p → p.run ≠ r.run →
      ¬ e.PausesIn conversation → ∃ id r', p.run = some id ∧
        lastPaused conversation (events ++ [e]) = some id ∧ t.runs.find? id = some r' ∧
        r'.status = .paused ∧ r'.conversation = conversation := by
    intro hps hne hnone
    obtain ⟨id, r', hid, hl, hf, hpaused, hcr⟩ := h.named conversation p hps
    refine ⟨id, r', hid, (lastPaused_append_of_not hnone).trans hl, ?_, hpaused, hcr⟩
    exact (hr.records id fun hrun => hne (hid.trans hrun.symm)).trans hf
  by_cases hc : conversation = r.conversation
  · subst hc
    by_cases ho : r.outcome = .paused
    · obtain ⟨run, record, hrun, hfind, hconversation, hstatus⟩ := hr.record
      obtain ⟨p', hp', hprun⟩ := hr.paused ho
      obtain rfl := Option.some.inj (hp'.symm.trans hp)
      refine ⟨run, record, hprun.trans hrun, ?_, hfind, ?_, hconversation⟩
      · exact (lastPaused_append_of_eq he ho).trans hrun
      · exact hstatus.trans (RunOutcome.status_eq_paused_iff.mpr ho)
    · obtain ⟨hps, hne⟩ := (hr.stopped ho p).mp hp
      exact hstays hps hne fun hp => ho (hp.of_result he).1
  · rw [hr.pauses conversation hc] at hp
    exact hstays hp (hr.apart conversation p hc hp) fun hp => hc (hp.of_result he).2.symm

/-- After a result about a run the runs that have paused last are named by their pauses. -/
theorem Remains.kept_of_settles (h : Remains events s) (hr : r.Settles s t)
    (he : e.result? = some r) {id : String} {r' : RunRecord} (hr' : t.runs.find? id = some r')
    (hpaused : r'.status = .paused) (hb : ¬ BrokenOff r'.conversation (events ++ [e]))
    (hl : lastPaused r'.conversation (events ++ [e]) = some id) :
    ∃ p, t.pauses.lookup r'.conversation = some p ∧ p.run = some id := by
  obtain ⟨run, record, hrun, hfind, hconversation, hstatus⟩ := hr.record
  by_cases hid : r.run = some id
  · obtain rfl := Option.some.inj (hrun.symm.trans hid)
    obtain rfl := Option.some.inj (hfind.symm.trans hr')
    obtain ⟨p, hp, hprun⟩ := hr.paused (RunOutcome.status_eq_paused_iff.mp (hstatus ▸ hpaused))
    exact ⟨p, hconversation ▸ hp, hprun.trans hrun⟩
  · rw [hr.records id hid] at hr'
    have hkept : ¬ e.PausesIn r'.conversation →
        ∃ p, s.pauses.lookup r'.conversation = some p ∧ p.run = some id := fun hnone =>
      h.kept id r' hr' hpaused (fun hb' => hb (hb'.append hnone))
        ((lastPaused_append_of_not hnone).symm.trans hl)
    by_cases hc : r'.conversation = r.conversation
    · by_cases ho : r.outcome = .paused
      · rw [hc, lastPaused_append_of_eq he ho] at hl
        exact absurd hl hid
      · obtain ⟨p, hp, hprun⟩ := hkept fun hp => ho (hp.of_result he).1
        rw [hc] at hp ⊢
        exact ⟨p, (hr.stopped ho p).mpr ⟨hp, fun h => hid (h.symm.trans hprun)⟩, hprun⟩
    · rw [hr.pauses _ hc]
      exact hkept fun hp => hc (hp.of_result he).2.symm

/-- A call that has returned a result about a run. -/
theorem Remains.settles (h : Remains events s) (hr : r.Settles s t) (he : e.result? = some r) :
    Remains (events ++ [e]) t where
  still id r' hr' := by
    obtain ⟨run, record, hrun, hfind, -, hstatus⟩ := hr.record
    by_cases hid : r.run = some id
    · obtain rfl := Option.some.inj (hrun.symm.trans hid)
      obtain rfl := Option.some.inj (hfind.symm.trans hr')
      exact hstatus ▸ r.outcome.status_ne_running
    · exact h.still id r' ((hr.records id hid).symm.trans hr')
  named _ _ hp := h.named_of_settles hr he hp
  kept _ _ hr' hpaused hb hl := h.kept_of_settles hr he hr' hpaused hb hl

end

/-! ### Calls -/

section

variable {events : List Event} {s t : EngineState} {service : Service} {call : Call} {o : Opening}
  {d : Departure} {e : Failure} {answer : Option RunResult}

/-- A call that fails has left everything as it was, or has broken off after it took up a pause. -/
theorem Call.Opens.brokenOff (h : call.Opens service s (.failed e) t) :
    t = s ∨ t = s.unpause call.conversation ∧ call.takesUp = true ∧ ∃ reason, e = .wrongKind reason := by
  have hr {conversation flow further}
      (h : Resumes service s conversation flow further (.failed e) t) :
      t = s.unpause conversation ∧ ∃ reason, e = .wrongKind reason := by
    cases h with
    | unreadable hp hpf hf hd => exact ⟨rfl, Document.ofStored_error hd⟩
  cases h with
  | run h => cases h; exact Or.inl rfl
  | webhook h => cases h; exact Or.inl rfl
  | resume h =>
    obtain ⟨ht, he⟩ := hr h
    exact Or.inr ⟨ht, rfl, he⟩
  | reply hp hv h =>
    obtain ⟨ht, he⟩ := hr h
    exact Or.inr ⟨ht, rfl, he⟩
  | keyword hp hm h => cases h; exact Or.inl rfl
  | unread hp he => exact Or.inl rfl
  | unmatchable hp hm => exact Or.inl rfl

/-- Where pauses are of stored flows, a call that answers at once has done nothing. -/
theorem EngineState.Sound.eq_of_answered (h : s.Sound)
    (ho : call.Opens service s (.answered answer) t) : t = s := by
  have hr {conversation flow further}
      (ho : Resumes service s conversation flow further (.answered answer) t) : t = s := by
    cases ho with
    | idle hp => rfl
    | unknown hp hpf hf =>
      have hstored := (h.pauses _ _ hp).flow
      rw [hpf, hf] at hstored
      cases hstored
  cases ho with
  | run h => cases h; rfl
  | webhook h => cases h; rfl
  | resume h => exact hr h
  | reply hp hv h => exact hr h
  | unmatched hp hm => rfl
  | keyword hp hm h => cases h; rfl

/-- A run that sets out has a record of its conversation, and a pause is about it exactly if the call
resumes it. -/
theorem Remains.departs (h : Remains events s) (hs : s.Sound) (ho : call.Opens service s o t)
    (hd : o.departure? = some d) (own : o = .starts d → s.runs.find? d.journey.run = none) :
    (∃ r, t.runs.find? d.journey.run = some r ∧ r.conversation = call.conversation) ∧
      ∀ conversation p, s.pauses.lookup conversation = some p →
        (p.run = some d.journey.run ↔ call.resumes s = true ∧ conversation = call.conversation) := by
  rcases ho.starts_or_resumes hd with ⟨flow, vars, start, id, hres, -, hst⟩ | ⟨flow, further, hres, -, hst⟩
  · cases hst with
    | unknown hf => cases hd
    | unreadable hf hdoc => cases hd
    | starts hf hdoc hr =>
      obtain rfl := Option.some.inj hd
      refine ⟨⟨_, (Runs.find?_create hr _).trans (if_pos rfl), ?_⟩, fun conversation p hp => ?_⟩
      · rw [Runs.create_eq_start hr]
        rfl
      · rw [hres]
        refine iff_of_false (fun hrun => ?_) fun h => by cases h.1
        obtain ⟨id, r, hid, -, hf, -⟩ := h.named conversation p hp
        obtain rfl := Option.some.inj (hid.symm.trans hrun)
        rw [own rfl] at hf
        cases hf
  · cases hst with
    | idle hp => cases hd
    | unknown hp hpf hf => cases hd
    | unreadable hp hpf hf hdoc => cases hd
    | renews hp hpf hf hdoc hn hr =>
      obtain ⟨id, r, hid, -, hf, -⟩ := h.named _ _ hp
      rw [hid, Option.getD_some, hf] at hn
      cases hn
    | @reopens p stored document record hp hpf hf hdoc hr =>
      obtain rfl := Option.some.inj hd
      obtain ⟨id, r, hid, -, hf, -, hc⟩ := h.named _ _ hp
      rw [hid, Option.getD_some, hf] at hr
      obtain rfl := Option.some.inj hr
      obtain rfl := hs.runs _ _ hf
      refine ⟨⟨r.resumed, ?_, hc⟩, fun conversation p' hp' => ?_⟩
      · exact (s.runs.find?_update_self _ _).trans (by rw [hf, Option.map_some])
      · constructor
        · intro hrun
          obtain ⟨id', r', hid', -, hf', -, hc'⟩ := h.named conversation p' hp'
          obtain rfl := Option.some.inj (hid'.symm.trans hrun)
          obtain rfl := Option.some.inj (hf'.symm.trans hf)
          exact ⟨hres, hc'.symm.trans hc⟩
        · rintro ⟨-, rfl⟩
          obtain rfl := Option.some.inj (hp'.symm.trans hp)
          exact hid

/-- A walk settles its result. -/
theorem Remains.walked (h : Remains events s) (hs : s.Sound) (ho : call.Opens service s o t)
    (hd : o.departure? = some d) (own : o = .starts d → s.runs.find? d.journey.run = none)
    (visits : List Journey.Visit) (ending : Journey.Ending) (q : Journey.Point) :
    (d.journey.resultOf ending.outcome ⟨Journey.visitedBy visits ending, q.vars⟩
      ending.error).Settles s (d.journey.ended service t visits ending q) := by
  obtain ⟨stored, -, through⟩ := ho.through hd
  obtain ⟨⟨r, hr, hconversation⟩, habout⟩ := h.departs hs ho hd own
  have hc := through.conversation
  constructor
  · have hfind := d.journey.ended_find? service t visits ending q
    rw [hr, Option.map_some, RunRecord.loggedAll_eq] at hfind
    exact ⟨d.journey.run, _, rfl, hfind, hconversation.trans hc.symm, rfl⟩
  · intro id hid
    have hne : id ≠ d.journey.run := fun he => hid (congrArg some he.symm)
    rw [d.journey.ended_runs, Runs.find?_update_ne _ hne]
    exact ho.find?_ne hd hne
  · intro other p hother hp hrun
    exact hother (((habout other p hp).mp hrun).2.trans hc.symm)
  · intro other hother
    rw [d.journey.ended_pauses, Journey.pausesAfter_lookup_ne _ _ _ _ _ hother]
    exact ho.lookup_ne (hc ▸ hother)
  · intro hpaused
    obtain ⟨n, a, rfl⟩ := Journey.Ending.eq_paused hpaused
    exact ⟨_, Journey.pausesAfter_paused .., rfl⟩
  · intro hpaused p
    rw [d.journey.ended_pauses, Journey.pausesAfter_of_ne_paused _ _ _ _ _ hpaused,
      ho.pauses_eq hd]
    change _ ↔ s.pauses.lookup d.journey.conversation = some p ∧ p.run ≠ some d.journey.run
    rw [show (d.journey.resultOf _ _ _).conversation = d.journey.conversation from rfl, hc]
    cases hres : call.resumes s with
    | true =>
      rw [if_pos rfl, Pauses.lookup_erase, if_pos rfl]
      refine iff_of_false (fun h => by cases h) fun ⟨hp, hne⟩ => hne ?_
      exact (habout _ p hp).mpr ⟨hres, rfl⟩
    | false =>
      rw [if_neg Bool.false_ne_true]
      refine (and_iff_left_of_imp fun hp hrun => ?_).symm
      rw [((habout _ p hp).mp hrun).1] at hres
      cases hres

end

/-! ### Whole histories -/

section

variable {executor : Executor} {events : List Event} {s : EngineState}

theorem History.reachable (h : History executor events s) : s.Reachable := by
  induction h with
  | start database => exact .start database
  | saved h flow ih => exact ih.saved flow
  | called h call service hx world asked own ih => exact ih.called call service world asked

theorem Remains.start (database : Database.Address) : Remains [] (EngineState.start [] database) where
  still id r hr := by
    rw [EngineState.start, Runs.find?_empty] at hr
    cases hr
  named conversation p hp := by cases hp
  kept id r hr := by
    rw [EngineState.start, Runs.find?_empty] at hr
    cases hr

theorem History.remains (h : History executor events s)
    (hended : ∀ call, Event.called call none ∉ events) : Remains events s := by
  refine h.induction_of_ended .start ?_ ?_ ?_ ?_ hended
  · intro events s flow _ hrest
    exact hrest.keep rfl rfl fun r hr => (nomatch hr)
  · intro events s call service e t _ hrest opens
    rcases opens.brokenOff with rfl | ⟨rfl, htakes, reason, rfl⟩
    · exact hrest.keep rfl rfl fun r hr => (nomatch hr)
    · exact hrest.brokenOff htakes
  · intro events s call service answer t h hrest opens
    obtain rfl := h.reachable.sound.eq_of_answered opens
    refine hrest.keep rfl rfl fun r hr => ?_
    obtain rfl : answer = some r := hr
    obtain ⟨flow, rfl⟩ := opens.eq_unknownFlow
    exact fun ho => nomatch ho
  · intro events s call service world o d t asked visits ending q h hrest _ opens departs own _
    exact hrest.settles (hrest.walked h.reachable.sound opens departs own visits ending q) rfl

end

/-- Over every history of calls that have ended, no run is left under way, and a run that is paused is
the one that the pause of its conversation names exactly if it was the last one there to pause,
unless a call that takes up the pause has broken off since. -/
theorem paused_run_named_iff {executor : Executor} {events : List Event} {s : EngineState}
    (h : History executor events s) (hended : ∀ call, Event.called call none ∉ events)
    {id : String} {r : RunRecord} (hr : s.runs.find? id = some r) :
    r.status ≠ .running ∧
      (r.status = .paused → ¬ BrokenOff r.conversation events →
        ((∃ p, s.pauses.lookup r.conversation = some p ∧ p.run = some id) ↔
          lastPaused r.conversation events = some id)) := by
  have hrest := h.remains hended
  refine ⟨hrest.still id r hr, fun hpaused hb => ⟨?_, hrest.kept id r hr hpaused hb⟩⟩
  rintro ⟨p, hp, hrun⟩
  obtain ⟨id', r', hid', hl, -⟩ := hrest.named _ p hp
  exact hl.trans (hid'.symm.trans hrun)

/-- What comes of starting a second run of the flow that waits, in the same conversation. -/
def Call.replacing : Task.Progress EngineState (Except Failure (Option RunResult)) :=
  ((Call.run "f" "c" [] none (some "e2")).task .alone).run.run .silent Call.waiting.state []

/-- The events of a history in which two runs of one conversation pause. -/
def Event.replacing : List Event :=
  [.saved .waiting, .called (.run "f" "c" [] none (some "e")) Call.waiting.value?,
    .called (.run "f" "c" [] none (some "e2")) Call.replacing.value?]

theorem history_replacing : History (execute []) Event.replacing Call.replacing.state :=
  history_waiting.called (.run "f" "c" [] none (some "e2")) .alone rfl .silent [] fun d s₁ ho => by
    have hrun : d.journey.run = "e2" := ho.frame.id history_waiting.reachable.sound.runs d rfl
    have hnew : (Call.waiting.state.runs.find? "e2").isNone = true := by decide +kernel
    rw [hrun]
    exact Option.isNone_iff_eq_none.mp hnew

/-- Both calls of that history return a result. -/
theorem returned_of_mem_replacing {call : Call} {value : Option (Except Failure (Option RunResult))}
    (h : Event.called call value ∈ Event.replacing) : ∃ r, value = some (.ok (some r)) := by
  have hvalue : ∀ v : Option (Except Failure (Option RunResult)),
      (v.bind Except.toOption).join.isSome = true → ∃ r, v = some (.ok (some r)) := by
    rintro (_ | _ | _ | r) hv
    · cases hv
    · cases hv
    · cases hv
    · exact ⟨r, rfl⟩
  simp only [Event.replacing, List.mem_cons, reduceCtorEq, Event.called.injEq, List.not_mem_nil,
    or_false, false_or] at h
  rcases h with ⟨-, rfl⟩ | ⟨-, rfl⟩
  · exact hvalue _ (by decide +kernel)
  · exact hvalue _ (by decide +kernel)

theorem ended_replacing (call : Call) : Event.called call none ∉ Event.replacing := by
  intro h
  obtain ⟨r, hr⟩ := returned_of_mem_replacing h
  cases hr

/-- The second run can be resumed. -/
theorem paused_run_named_replacing :
    ∃ p, Call.replacing.state.pauses.lookup "c" = some p ∧ p.run = some "e2" := by
  have hfind : (Call.replacing.state.runs.find? "e2").map
      (fun r => (r.status, r.conversation)) = some (.paused, "c") := by decide +kernel
  obtain ⟨r, hr, hrc⟩ := Option.map_eq_some_iff.mp hfind
  obtain ⟨hpaused, hc⟩ := Prod.mk.inj hrc
  have hbroken : ¬ BrokenOff r.conversation Event.replacing := by
    rintro ⟨before, call, reason, after, hevents, -⟩
    have hmem : Event.called call (some (.error (.wrongKind reason))) ∈ Event.replacing := by
      rw [hevents]
      exact List.mem_append_right _ List.mem_cons_self
    obtain ⟨result, h⟩ := returned_of_mem_replacing hmem
    cases h
  have hlast : lastPaused r.conversation Event.replacing = some "e2" := by
    rw [hc]
    decide +kernel
  obtain ⟨p, hp, hrun⟩ := ((paused_run_named_iff history_replacing ended_replacing hr).2 hpaused
    hbroken).mpr hlast
  exact ⟨p, hc ▸ hp, hrun⟩

/-- The first run is still paused, and no pause names it. -/
theorem replaced_run_unnamed :
    ∃ events s r, History (execute []) events s ∧ (∀ call, Event.called call none ∉ events) ∧
      s.runs.find? "e" = some r ∧ r.status = .paused ∧
      ∀ p, s.pauses.lookup r.conversation = some p → p.run ≠ some "e" := by
  have hfind : (Call.replacing.state.runs.find? "e").map
      (fun r => (r.status, r.conversation)) = some (.paused, "c") := by decide +kernel
  obtain ⟨r, hr, hrc⟩ := Option.map_eq_some_iff.mp hfind
  obtain ⟨hpaused, hc⟩ := Prod.mk.inj hrc
  have hpause : (Call.replacing.state.pauses.lookup "c").map Pause.run = some (some "e2") := by
    decide +kernel
  refine ⟨_, _, r, history_replacing, ended_replacing, hr, hpaused, fun p hp hrun => ?_⟩
  rw [← hc, hp, Option.map_some, hrun] at hpause
  exact absurd (Option.some.inj (Option.some.inj hpause)) (by decide)

end ChatFlow
