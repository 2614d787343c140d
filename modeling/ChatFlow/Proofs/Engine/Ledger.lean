import ChatFlow.Proofs.Engine.History

/-!
# Records and results

The record of a run is written piece by piece while its walks go on, and each call
returns what its own walk has visited.  Over every history of calls that have ended
the two tell the same: the log of a record is what the results with its id visited,
one after the other, and its status, error and end are those of the last of them.
-/

namespace ChatFlow

/-- The result that a call has returned. -/
def Event.result? : Event → Option RunResult
  | called _ (some (.ok answer)) => answer
  | _ => none

/-- The results about a run, in the order of the calls that returned them. -/
def resultsOf (id : String) (events : List Event) : List RunResult :=
  (events.filterMap Event.result?).filter fun r => r.run = some id

theorem resultsOf_append_of_ne {id : String} {events : List Event} {e : Event}
    (h : ∀ r, e.result? = some r → r.run ≠ some id) :
    resultsOf id (events ++ [e]) = resultsOf id events := by
  cases he : e.result? with
  | none => simp [resultsOf, List.filterMap_append, he]
  | some r => simp [resultsOf, List.filterMap_append, he, h r he]

theorem resultsOf_append_of_eq {id : String} {events : List Event} {e : Event} {r : RunResult}
    (he : e.result? = some r) (hr : r.run = some id) :
    resultsOf id (events ++ [e]) = resultsOf id events ++ [r] := by
  simp [resultsOf, List.filterMap_append, he, hr]

/-! ### One record -/

/-- A record tells what some results tell, the last of them being the last that was returned. -/
structure RunRecord.Tells (r : RunRecord) (results : List RunResult) : Prop where
  log : r.log.map LogEntry.node = results.flatMap RunResult.visited
  currentNode : r.currentNode = (results.flatMap RunResult.visited).getLast?
  last : ∃ result, results.getLast? = some result ∧ result.outcome ≠ .unknownFlow ∧
    r.status = result.outcome.status ∧ r.error = result.error ∧
    r.completedAt.isSome = r.status.isFinal

/-- A record of a run that has set out tells what some results tell about where it has been. -/
structure RunRecord.Continues (r : RunRecord) (results : List RunResult) : Prop where
  log : r.log.map LogEntry.node = results.flatMap RunResult.visited
  currentNode : r.currentNode = (results.flatMap RunResult.visited).getLast?
  completedAt : r.completedAt = none

theorem RunRecord.Tells.resumed {r : RunRecord} {results : List RunResult} (h : r.Tells results) :
    r.resumed.Continues results :=
  ⟨h.log, h.currentNode, rfl⟩

theorem RunRecord.start_continues (id flow conversation : String) (now : Float) :
    (RunRecord.start id flow conversation now).Continues [] :=
  ⟨rfl, rfl, rfl⟩

/-- After a walk that has not broken down the record tells its result too. -/
theorem RunRecord.Continues.finished {r : RunRecord} {results : List RunResult}
    (h : r.Continues results) (j : Journey) (visits : List Journey.Visit)
    (ending : Journey.Ending) (vars : Entries Value) (now : Float) (hb : ending.broken = []) :
    ((r.loggedAll (visits.map Journey.Visit.entry)).finished ending.outcome.status ending.error
      now).Tells (results ++ [j.resultOf ending.outcome
        ⟨Journey.visitedBy visits ending, vars⟩ ending.error]) := by
  have hv : (visits.map Journey.Visit.entry).map LogEntry.node = Journey.visitedBy visits ending := by
    simp [Journey.visitedBy, hb, Journey.Visit.entry, Journey.logEntry]
  rw [RunRecord.loggedAll_eq, hv]
  refine ⟨?_, ?_, _, List.getLast?_concat, ?_, rfl, rfl, ?_⟩
  · simp [RunRecord.finished, h.log, hv, Journey.resultOf]
  · simp [RunRecord.finished, h.currentNode, Journey.resultOf, List.getLast?_append]
  · exact ending.outcome_ne_unknownFlow
  · simp only [RunRecord.finished, h.completedAt]
    split
    · rename_i hf
      exact hf.symm
    · rename_i hf
      exact ((Bool.not_eq_true _).mp hf).symm

/-! ### All records -/

/-- Every record tells what the results about its run tell, and there are results only about runs
that have a record. -/
structure Ledger (events : List Event) (s : EngineState) : Prop where
  unknown : ∀ id, s.runs.find? id = none → resultsOf id events = []
  known : ∀ id r, s.runs.find? id = some r → r.Tells (resultsOf id events)

variable {events : List Event} {s t : EngineState} {service : Service} {d : Departure}

/-- What leaves the records and the results of all runs alone keeps the ledger. -/
theorem Ledger.keep (h : Ledger events s) {e : Event} (hr : t.runs = s.runs)
    (he : ∀ r, e.result? = some r → r.run = none) : Ledger (events ++ [e]) t where
  unknown id hid := by
    rw [resultsOf_append_of_ne fun r hres => by rw [he r hres]; exact fun h => nomatch h]
    exact h.unknown id (hr ▸ hid)
  known id r hid := by
    rw [resultsOf_append_of_ne fun r hres => by rw [he r hres]; exact fun h => nomatch h]
    exact h.known id r (hr ▸ hid)

theorem Ledger.of_starts {flow conversation : String} {vars : Entries Value}
    {start id : Option String} (h : Ledger events s)
    (hs : Starts service s flow conversation vars start id (.starts d) t)
    (own : s.runs.find? d.journey.run = none) :
    ∃ r, t.runs.find? d.journey.run = some r ∧
      r.Continues (resultsOf d.journey.run events) := by
  rw [h.unknown _ own]
  cases hs with
  | starts hf hd hr =>
    refine ⟨_, (Runs.find?_create hr _).trans (if_pos rfl), ?_⟩
    rw [Runs.create_eq_start hr]
    exact RunRecord.start_continues ..

theorem Ledger.of_resumes {flow conversation : String} {further : Entries Value}
    (h : Ledger events s) (hs : s.Consistent)
    (hr : Resumes service s conversation flow further (.resumes d) t) :
    ∃ r, t.runs.find? d.journey.run = some r ∧
      r.Continues (resultsOf d.journey.run events) := by
  obtain ⟨p, r, -, -, hfind, -, hj, -, -, rfl⟩ := hs.reopens hr
  rw [hj]
  refine ⟨r.resumed, ?_, (h.known _ _ hfind).resumed⟩
  exact (s.runs.find?_update_self _ _).trans (by rw [hfind, Option.map_some])

theorem Ledger.of_opens {call : Call} {o : Opening} (h : Ledger events s) (hs : s.Consistent)
    (ho : call.Opens service s o t) (hd : o.departure? = some d)
    (own : o = .starts d → s.runs.find? d.journey.run = none) :
    ∃ r, t.runs.find? d.journey.run = some r ∧
      r.Continues (resultsOf d.journey.run events) := by
  rcases Opening.eq_of_departure hd with rfl | rfl
  · obtain ⟨flow, vars, start, id, hstarts⟩ := ho.starts
    exact h.of_starts hstarts (own rfl)
  · obtain ⟨flow, further, hresumes⟩ := ho.resumes
    exact h.of_resumes hs hresumes

/-- A walk that has come to its ending, and returned its result, keeps the ledger. -/
theorem Ledger.ended {e : Event} {visits : List Journey.Visit} {ending : Journey.Ending}
    {q : Journey.Point} (h : Ledger events s)
    (hr : ∃ r, t.runs.find? d.journey.run = some r ∧
      r.Continues (resultsOf d.journey.run events))
    (hne : ∀ id, id ≠ d.journey.run → t.runs.find? id = s.runs.find? id)
    (hb : ending.broken = [])
    (he : e.result? = some (d.journey.resultOf ending.outcome
      ⟨Journey.visitedBy visits ending, q.vars⟩ ending.error)) :
    Ledger (events ++ [e]) (d.journey.ended service t visits ending q) := by
  obtain ⟨r, hfind, hcontinues⟩ := hr
  have hself := d.journey.ended_find? service t visits ending q
  rw [hfind, Option.map_some] at hself
  have hother : ∀ id, id ≠ d.journey.run →
      (d.journey.ended service t visits ending q).runs.find? id = s.runs.find? id := by
    intro id hid
    rw [d.journey.ended_runs, Runs.find?_update_ne _ hid]
    exact hne id hid
  have hresults : ∀ id, id ≠ d.journey.run →
      resultsOf id (events ++ [e]) = resultsOf id events := by
    intro id hid
    refine resultsOf_append_of_ne fun r hres hrun => hid ?_
    rw [he] at hres
    obtain rfl := Option.some.inj hres
    exact (Option.some.inj hrun).symm
  constructor
  · intro id hid
    by_cases hj : id = d.journey.run
    · rw [hj, hself] at hid
      cases hid
    · rw [hother id hj] at hid
      rw [hresults id hj]
      exact h.unknown id hid
  · intro id record hid
    by_cases hj : id = d.journey.run
    · rw [hj, hself] at hid
      obtain rfl := Option.some.inj hid
      rw [hj, resultsOf_append_of_eq he rfl]
      exact hcontinues.finished d.journey visits ending q.vars service.now.unix hb
    · rw [hother id hj] at hid
      rw [hresults id hj]
      exact h.known id record hid

/-! ### Whole histories -/

theorem Ledger.start (database : Database.Address) : Ledger [] (EngineState.start [] database) where
  unknown _ _ := rfl
  known id r hid := by
    rw [EngineState.start, Runs.find?_empty] at hid
    cases hid

/-- What holds in the beginning, and is kept when a flow is saved and when a call ends, holds after every
history of calls that have ended. -/
theorem History.induction_of_ended {executor : Executor} {P : List Event → EngineState → Prop}
    (start : ∀ database, P [] (.start [] database))
    (saved : ∀ {events s} flow, History executor events s → P events s →
      P (events ++ [.saved flow]) { s with flows := s.flows.save flow })
    (failed : ∀ {events s} {call : Call} {service e t}, History executor events s → P events s →
      call.Opens service s (.failed e) t → P (events ++ [.called call (some (.error e))]) t)
    (answered : ∀ {events s} {call : Call} {service answer t}, History executor events s →
      P events s → call.Opens service s (.answered answer) t →
      P (events ++ [.called call (some (.ok answer))]) t)
    (walked : ∀ {events s} {call : Call} {service : Service} {world o d t asked visits ending q},
      History executor events s → P events s → service.executor = executor →
      call.Opens service s o t → o.departure? = some d →
      (o = .starts d → s.runs.find? d.journey.run = none) →
      d.journey.Walks service world (Engine.nodeLimit service) ⟨d.place, d.vars, t.database, asked⟩
        visits ending q →
      P (events ++ [.called call (some (.ok (some (d.journey.resultOf ending.outcome
        ⟨Journey.visitedBy visits ending, q.vars⟩ ending.error))))])
        (d.journey.ended service t visits ending q))
    (h : History executor events s) (hended : ∀ call, Event.called call none ∉ events) :
    P events s := by
  induction h with
  | start database => exact start database
  | saved h flow ih =>
    exact saved flow h (ih fun call hm => hended call (List.mem_append_left _ hm))
  | @called events s h call service hx world asked own ih =>
    have hp := ih fun call hm => hended call (List.mem_append_left _ hm)
    have hvalue : ((call.task service).run.run world s asked).value? ≠ none := by
      intro hv
      exact hended call (List.mem_append_right _ (by rw [hv]; exact List.mem_cons_self))
    cases call.comes service s world asked with
    | failed opens hprogress =>
      rw [hprogress]
      exact failed h hp opens
    | answered opens hprogress =>
      rw [hprogress]
      exact answered h hp opens
    | walked opens departs walks state answer =>
      have hresult := walked h hp hx opens departs (fun ho => own _ _ (ho ▸ opens)) walks
      rw [state]
      unfold Task.Progress.value? at hvalue ⊢
      split
      · rename_i v hv
        rw [answer v hv]
        exact hresult
      · rename_i t ht
        rw [ht] at hvalue
        exact absurd rfl hvalue
    | waiting opens departs state outcome =>
      rw [Task.Progress.value?, outcome] at hvalue
      exact absurd rfl hvalue

theorem History.ledger (h : History (execute []) events s)
    (hended : ∀ call, Event.called call none ∉ events) : Ledger events s := by
  refine h.induction_of_ended .start ?_ ?_ ?_ ?_ hended
  · intro events s flow _ hle
    exact hle.keep rfl fun r hr => (nomatch hr)
  · intro events s call service e t _ hle opens
    exact hle.keep (opens.runs_eq rfl) fun r hr => (nomatch hr)
  · intro events s call service answer t _ hle opens
    refine hle.keep (opens.runs_eq rfl) fun r hr => ?_
    obtain rfl : answer = some r := hr
    obtain ⟨flow, rfl⟩ := opens.eq_unknownFlow
    rfl
  · intro events s call service world o d t asked visits ending q h hle hx opens departs own walks
    have hs := h.consistent execute_nil_waitsOnSuccess
    exact hle.ended (hle.of_opens hs opens departs own) (fun id hid => opens.find?_ne departs hid)
      (walks.unbroken hx) rfl

/-- Over every history of calls that have ended, the record of a run and the results about it tell
the same. -/
theorem record_tells_results (h : History (execute []) events s)
    (hended : ∀ call, Event.called call none ∉ events) (id : String) :
    (s.runs.find? id = none → resultsOf id events = []) ∧
      ∀ r, s.runs.find? id = some r →
        r.log.map LogEntry.node = (resultsOf id events).flatMap RunResult.visited ∧
        r.currentNode = ((resultsOf id events).flatMap RunResult.visited).getLast? ∧
        ∃ result, (resultsOf id events).getLast? = some result ∧
          ((result.outcome = .completed ∨ result.outcome = .limited) ∧ r.status = .completed ∨
            result.outcome = .paused ∧ r.status = .paused ∨
            (result.outcome = .halted ∨ result.outcome = .failed) ∧ r.status = .failed) ∧
          r.error = result.error ∧
          (r.completedAt.isSome ↔ r.status = .completed ∨ r.status = .failed) := by
  have hle := h.ledger hended
  refine ⟨hle.unknown id, fun r hr => ?_⟩
  obtain ⟨hlog, hcurrent, result, hlast, hne, hstatus, herror, hend⟩ := hle.known id r hr
  refine ⟨hlog, hcurrent, result, hlast, ?_, herror, ?_⟩
  · rw [hstatus]
    cases ho : result.outcome <;> simp [RunOutcome.status]
    exact absurd ho hne
  · rw [hend]
    cases r.status <;> simp [RunStatus.isFinal]

theorem record_tells_results_after_resuming :
    ∃ r, Call.resuming.state.runs.find? "e" = some r ∧
      r.log.map LogEntry.node = ["ask", "ask"] := by
  have h := history_waiting.called (.resume "c" "f" []) .alone rfl .silent [] fun d s₁ ho => by
    cases ho with
    | resume h => cases h
  have hended : ∀ call, Event.called call none ∉ [.saved .waiting,
      .called (.run "f" "c" [] none (some "e")) Call.waiting.value?,
      .called (.resume "c" "f" []) Call.resuming.value?] := by
    have hw : Call.waiting.value?.isSome = true := by decide +kernel
    have hr : Call.resuming.value?.isSome = true := by decide +kernel
    intro call hm
    simp only [List.mem_cons, reduceCtorEq, Event.called.injEq, List.not_mem_nil, or_false,
      false_or] at hm
    rcases hm with ⟨-, he⟩ | ⟨-, he⟩
    · rw [← he] at hw
      cases hw
    · rw [← he] at hr
      cases hr
  have hfind : (Call.resuming.state.runs.find? "e").isSome = true := by decide +kernel
  obtain ⟨r, hfind⟩ := Option.isSome_iff_exists.mp hfind
  have hlog := ((record_tells_results h hended "e").2 r hfind).1
  exact ⟨r, hfind, hlog.trans (by decide +kernel)⟩

end ChatFlow
