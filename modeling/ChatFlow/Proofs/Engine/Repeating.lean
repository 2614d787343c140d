import ChatFlow.Proofs.Engine.Frame
import ChatFlow.Proofs.Engine.Pausing
import ChatFlow.Proofs.Node.Steady
import ChatFlow.Proofs.Outside.Task

/-!
# The same call from another state

In a world whose replies depend on the question only, what a walk comes to depends
on the document, on where it begins and on what the address of the database is
found to be, and neither on the id of the run nor on what was asked before
(`Journey.exists_course`).  So a call comes to the same from two states in which the
flows, the pause of its conversation and the record of its run are the same, but for
the id of its run if that is made up (`Call.Opens.repeats`).

`Call.Frame` says what a call leaves as it is: all but the pause of its conversation,
the record of its run and the number of ids that have been made up.
-/

namespace ChatFlow

open Engine

/-- What a service finds the address of the database to be. -/
abbrev Service.found (service : Service) (reply : (q : Query) → q.Reply) :
    Database.Address → Option (Except Failure Value) :=
  Database.found service.accounts.secrets reply

/-! ### Walks -/

namespace Journey

variable {service : Service} {reply : (q : Query) → q.Reply}

/-- What walks through a document come to that begin at this place with these variables. -/
theorem exists_course (hx : service.executor.Steady reply) (document : Document)
    (address : Database.Address) (left : Nat) (place : Option String) (vars : Entries Value) :
    ∃ visits ending vars', ∀ (j : Journey) a asked, j.document = document →
      service.found reply a = service.found reply address →
      ∃ q, j.Walks service (.replying reply) left ⟨place, vars, a, asked⟩ visits ending q ∧
        q.vars = vars' ∧ service.found reply q.database = service.found reply address := by
  induction left generalizing place vars with
  | zero =>
    by_cases h : place.getD "" = ""
    · exact ⟨[], .completed, vars, fun j a asked _ ha => ⟨_, .arrived h, rfl, ha⟩⟩
    · exact ⟨[], .limited, vars, fun j a asked _ ha => ⟨_, .limited h, rfl, ha⟩⟩
  | succ left ih =>
    by_cases h : place.getD "" = ""
    · exact ⟨[], .completed, vars, fun j a asked _ ha => ⟨_, .arrived h, rfl, ha⟩⟩
    obtain ⟨id, rfl, hid⟩ := exists_place h
    cases hn : document.node id with
    | none =>
      refine ⟨[], .halted id, vars, fun j a asked hj ha => ⟨_, .halted rfl hid ?_, rfl, ha⟩⟩
      rw [hj, hn]
    | some n =>
      let c : NodeContext := ⟨service.accounts, service.now, document, ⟨vars, service.locale⟩⟩
      obtain ⟨outcome, ho⟩ := hx c n address
      have hexecutes (j : Journey) a asked (hj : j.document = document)
          (ha : service.found reply a = service.found reply address) :
          ∃ a' asked', j.Executes service (.replying reply) ⟨some id, vars, a, asked⟩ n outcome
            a' asked' ∧ service.found reply a' = service.found reply address := by
        subst hj
        obtain ⟨a', asked', hr, ha'⟩ := ho a asked ha
        exact ⟨a', asked', ⟨hn, hr⟩, ha'⟩
      cases outcome with
      | error e =>
        refine ⟨[], .failed n e, vars, fun j a asked hj ha => ?_⟩
        obtain ⟨a', asked', he, ha'⟩ := hexecutes j a asked hj ha
        exact ⟨_, .failed he, rfl, ha'⟩
      | ok outcome =>
        obtain ⟨r, vars'⟩ := outcome
        cases hawaited : r.awaited with
        | some awaited =>
          refine ⟨[⟨n, r⟩], .paused n awaited, vars', fun j a asked hj ha => ?_⟩
          obtain ⟨a', asked', he, ha'⟩ := hexecutes j a asked hj ha
          exact ⟨_, .paused he hawaited, rfl, ha'⟩
        | none =>
          cases hstop : r.stop with
          | true =>
            refine ⟨[⟨n, r⟩], .completed, vars', fun j a asked hj ha => ?_⟩
            obtain ⟨a', asked', he, ha'⟩ := hexecutes j a asked hj ha
            exact ⟨_, .stopped he hawaited hstop, rfl, ha'⟩
          | false =>
            -- where the walk goes on is a matter of the document alone
            obtain ⟨visits, ending, vars'', hrest⟩ :=
              ih ((⟨"", "", "", document⟩ : Journey).nextAfter n r) vars'
            refine ⟨⟨n, r⟩ :: visits, ending, vars'', fun j a asked hj ha => ?_⟩
            obtain ⟨a', asked', he, ha'⟩ := hexecutes j a asked hj ha
            obtain ⟨q, hw, hq, hd⟩ := hrest j a' asked' hj ha'
            subst hj
            exact ⟨q, .onward he hawaited hstop hw, hq, hd⟩

/-- A walk with an ending runs to it, if the state store replies. -/
theorem Walks.run_to_end {j : Journey} {world : World} {left : Nat} {p q : Point}
    {visits : List Visit} {ending : Ending} (h : j.Walks service world left p visits ending q)
    (ha : service.ArchiveReplies world) (visited : List String) (s : EngineState)
    (hs : s.database = p.database) :
    ∃ u, (j.walk service left p.place ⟨visited, p.vars⟩).run world s p.asked =
      ⟨j.ended service s visits ending q, u, .inr (j.resultOf ending.outcome
        ⟨visited ++ visitedBy visits ending, q.vars⟩ ending.error)⟩ := by
  have hstops := j.finish_run service world ending.outcome
    ⟨visited ++ visitedBy visits ending, q.vars⟩ ending.error (j.arrived service s visits ending q)
    q.asked
  have hends := hstops.ends ha
  have hstate := hstops.state
  rw [h.run_eq visited s hs]
  generalize (j.finish service _ _ _).run world _ _ = progress at hends hstate ⊢
  obtain ⟨t, u, outcome⟩ := progress
  exact ⟨u, by rw [← hends, ended, ← hstate]⟩

end Journey

/-! ### Other names for runs -/

/-- A record under another id. -/
def RunRecord.renamed (f : String → String) (r : RunRecord) : RunRecord := { r with id := f r.id }

/-- A pause of a run with another id. -/
def Pause.renamed (f : String → String) (p : Pause) : Pause := { p with run := p.run.map f }

/-- A result about a run with another id. -/
def RunResult.renamed (f : String → String) (r : RunResult) : RunResult :=
  { r with run := r.run.map f }

/-- What a call comes to, about a run with another id. -/
def Call.renamedValue (f : String → String) :
    Except Failure (Option RunResult) → Except Failure (Option RunResult) :=
  Except.map (Option.map (RunResult.renamed f))

/-- A run with another id. -/
def Journey.renamed (f : String → String) (j : Journey) : Journey := { j with run := f j.run }

/-- A run with another id that sets out. -/
def Departure.renamed (f : String → String) (d : Departure) : Departure :=
  { d with journey := d.journey.renamed f }

/-- The same opening for a run with another id. -/
def Opening.renamed (f : String → String) : Opening → Opening
  | failed e => failed e
  | answered answer => answered answer
  | starts d => starts (d.renamed f)
  | resumes d => resumes (d.renamed f)

theorem Opening.renamed_departure? (f : String → String) (o : Opening) :
    (o.renamed f).departure? = o.departure?.map (Departure.renamed f) := by
  cases o <;> rfl

/-! ### Openings -/

section

variable {service : Service} {s s₁ t : EngineState} {flow conversation : String}
  {vars further : Entries Value} {start id : Option String} {o : Opening} {call : Call}
  {f : String → String}

/-- After the same opening from two states the pause of the conversation is the same, and so is the
record of the run but for its id. -/
structure Opening.Repeated (o : Opening) (f : String → String) (conversation : String)
    (s₁ t₁ : EngineState) : Prop where
  pause : t₁.pauses.lookup conversation = s₁.pauses.lookup conversation
  record : ∀ d, o.departure? = some d → t₁.runs.find? (f d.journey.run) =
    (s₁.runs.find? d.journey.run).map (RunRecord.renamed f)

theorem Opening.Repeated.of_stays {t₁ : EngineState} (ho : o.departure? = none)
    (hp : t₁.pauses.lookup conversation = s₁.pauses.lookup conversation) :
    o.Repeated f conversation s₁ t₁ where
  pause := hp
  record d hd := by
    rw [ho] at hd
    cases hd

/-- New records that are created alike differ only in their ids. -/
theorem Runs.create_renamed {runs runs' rest rest' : Runs} {record record' : RunRecord} {now : Float}
    (hr : runs.create flow conversation id now = (record, rest))
    (hr' : runs'.create flow conversation id now = (record', rest'))
    (hid : f (runs.idFor (id.getD "")) = runs'.idFor (id.getD "")) :
    record'.id = f record.id ∧
      rest'.find? (f record.id) = (rest.find? record.id).map (RunRecord.renamed f) := by
  have hname : record'.id = f record.id := by
    rw [Runs.create_id hr, Runs.create_id hr']
    exact hid.symm
  refine ⟨hname, ?_⟩
  rw [Runs.find?_create hr, if_pos rfl, ← hname, Runs.find?_create hr', if_pos rfl, Option.map_some,
    Runs.create_eq_start hr', Runs.create_eq_start hr, hname]
  rfl

theorem Starts.repeats (h : Starts service s flow conversation vars start id o s₁)
    (hflows : t.flows = s.flows)
    (hpause : t.pauses.lookup conversation = s.pauses.lookup conversation)
    (hid : ∀ d, o.departure? = some d → f (s.runs.idFor (id.getD "")) = t.runs.idFor (id.getD "")) :
    ∃ t₁, Starts service t flow conversation vars start id (o.renamed f) t₁ ∧
      o.Repeated f conversation s₁ t₁ := by
  cases h with
  | unknown hf => exact ⟨t, .unknown (hflows ▸ hf), .of_stays rfl hpause⟩
  | unreadable hf hd => exact ⟨t, .unreadable (hflows ▸ hf) hd, .of_stays rfl hpause⟩
  | @starts stored document record runs hf hd hr =>
    obtain ⟨record', rest', hr'⟩ :
      ∃ record' rest', t.runs.create stored.id conversation id service.now.unix = (record', rest') :=
      ⟨_, _, rfl⟩
    obtain ⟨hname, hrecord⟩ := Runs.create_renamed hr hr' (hid _ rfl)
    have ho : (Opening.starts ⟨⟨stored.id, conversation, record.id, document⟩,
        document.startNode start, vars⟩).renamed f =
        .starts ⟨⟨stored.id, conversation, record'.id, document⟩, document.startNode start,
          vars⟩ := by
      simp only [Opening.renamed, Departure.renamed, Journey.renamed, hname]
    rw [ho]
    refine ⟨_, .starts (hflows ▸ hf) hd hr', hpause, ?_⟩
    rintro d ⟨⟩
    exact hrecord

theorem EngineState.unpause_lookup_eq (s t : EngineState) (conversation : String) :
    (t.unpause conversation).pauses.lookup conversation =
      (s.unpause conversation).pauses.lookup conversation := by
  rw [unpause_lookup_self, unpause_lookup_self]

theorem Resumes.repeats (h : Resumes service s conversation flow further o s₁)
    (hk : s.runs.Keyed) (hflows : t.flows = s.flows)
    (hpause : t.pauses.lookup conversation = s.pauses.lookup conversation) {given : String}
    (hgiven : given = ((s.pauses.lookup conversation).bind Pause.run).getD "")
    (hrecord : ∀ d, o.departure? = some d → t.runs.find? given = s.runs.find? given)
    (hid : ∀ d, o.departure? = some d → f (s.runs.idFor given) = t.runs.idFor given) :
    ∃ t₁, Resumes service t conversation flow further (o.renamed f) t₁ ∧
      o.Repeated f conversation s₁ t₁ := by
  cases h with
  | idle hp => exact ⟨t, .idle fun p h => hp p (hpause ▸ h), .of_stays rfl hpause⟩
  | unknown hp hpf hf =>
    exact ⟨_, .unknown (hpause.trans hp) hpf (hflows ▸ hf),
      .of_stays rfl (s.unpause_lookup_eq t conversation)⟩
  | unreadable hp hpf hf hd =>
    exact ⟨_, .unreadable (hpause.trans hp) hpf (hflows ▸ hf) hd,
      .of_stays rfl (s.unpause_lookup_eq t conversation)⟩
  | @reopens p stored document record hp hpf hf hd hr =>
    rw [hp, Option.bind_some] at hgiven
    subst hgiven
    have hne : p.run.getD "" ≠ "" := by
      intro he
      rw [he] at hr
      cases hr
    have hkey : record.id = p.run.getD "" := hk _ _ hr
    have hname : f record.id = record.id := by
      have h := hid _ rfl
      rw [Runs.idFor, Runs.idFor, if_neg hne, if_neg hne] at h
      rw [hkey, h]
    have hr' : t.runs.find? (p.run.getD "") = some record := (hrecord _ rfl).trans hr
    have ho (d : Departure) (hd : d.journey.run = record.id) :
        (Opening.resumes d).renamed f = .resumes d := by
      have hrun : f d.journey.run = d.journey.run := by rw [hd, hname]
      simp only [Opening.renamed, Departure.renamed, Journey.renamed, hrun]
    rw [ho _ rfl]
    refine ⟨_, .reopens (hpause.trans hp) hpf (hflows ▸ hf) hd hr',
      s.unpause_lookup_eq t conversation, ?_⟩
    rintro d ⟨⟩
    have hs : (s.unpause conversation).runs.find? record.id = some record := hkey ▸ hr
    have ht : (t.unpause conversation).runs.find? record.id = some record := hkey ▸ hr'
    simp only [EngineState.updateRun, hname, Runs.find?_update_self, hs, ht, Option.map_some]
    rw [RunRecord.renamed, RunRecord.resumed, hname]
  | @renews p stored document record runs hp hpf hf hd hn hr =>
    rw [hp, Option.bind_some] at hgiven
    subst hgiven
    obtain ⟨record', rest', hr'⟩ :
      ∃ record' rest', t.runs.create stored.id conversation p.run service.now.unix =
        (record', rest') := ⟨_, _, rfl⟩
    obtain ⟨hname, hcreated⟩ := Runs.create_renamed hr hr' (hid _ rfl)
    have ho : (Opening.resumes ⟨⟨stored.id, conversation, record.id, document⟩,
        document.next p.node, Entries.merge p.vars further⟩).renamed f =
        .resumes ⟨⟨stored.id, conversation, record'.id, document⟩, document.next p.node,
          Entries.merge p.vars further⟩ := by
      simp only [Opening.renamed, Departure.renamed, Journey.renamed, hname]
    rw [ho]
    refine ⟨_, .renews (hpause.trans hp) hpf (hflows ▸ hf) hd ((hrecord _ rfl).trans hn) hr',
      s.unpause_lookup_eq t conversation, ?_⟩
    rintro d ⟨⟩
    exact hcreated

/-- Two states are alike for a call: it finds the same flows, the same pause of its conversation and
the same record of its run, which may be called differently. -/
structure Call.Alike (call : Call) (service : Service) (reply : (q : Query) → q.Reply) (o : Opening)
    (f : String → String) (s t : EngineState) : Prop where
  flows : t.flows = s.flows
  found : service.found reply t.database = service.found reply s.database
  pause : t.pauses.lookup call.conversation = s.pauses.lookup call.conversation
  record : ∀ d, o.departure? = some d →
    t.runs.find? (call.givenId s) = s.runs.find? (call.givenId s)
  id : ∀ d, o.departure? = some d → f (s.runs.idFor (call.givenId s)) =
    t.runs.idFor (call.givenId s)

/-- From states that are alike a call opens in the same way. -/
theorem Call.Opens.opens_again {reply : (q : Query) → q.Reply} (h : call.Opens service s o s₁)
    (hk : s.runs.Keyed) (ha : call.Alike service reply o f s t) :
    ∃ t₁, call.Opens service t (o.renamed f) t₁ ∧ o.Repeated f call.conversation s₁ t₁ := by
  have hflows := ha.flows
  have hpause := ha.pause
  cases h with
  | run h =>
    obtain ⟨t₁, h, hr⟩ := h.repeats hflows hpause ha.id
    exact ⟨t₁, .run h, hr⟩
  | webhook h =>
    obtain ⟨t₁, h, hr⟩ := h.repeats hflows hpause ha.id
    exact ⟨t₁, .webhook h, hr⟩
  | resume h =>
    obtain ⟨t₁, h, hr⟩ := h.repeats hk hflows hpause rfl ha.record ha.id
    exact ⟨t₁, .resume h, hr⟩
  | unread hp he => exact ⟨t, .unread (hpause.trans hp) (hflows ▸ he), .of_stays rfl hpause⟩
  | reply hp hv h =>
    obtain ⟨t₁, h, hr⟩ := h.repeats hk hflows hpause rfl ha.record ha.id
    exact ⟨t₁, .reply (hpause.trans hp) (hflows ▸ hv) h, hr⟩
  | unmatched hp hm =>
    exact ⟨t, .unmatched (hpause.trans hp) (hflows ▸ hm), .of_stays rfl hpause⟩
  | unmatchable hp hm =>
    exact ⟨t, .unmatchable (hpause.trans hp) (hflows ▸ hm), .of_stays rfl hpause⟩
  | @keyword m flow o s₁ hp hm h =>
    have hid := ha.id
    rw [Call.givenId, hp] at hid
    obtain ⟨t₁, h, hr⟩ := h.repeats hflows hpause hid
    exact ⟨t₁, .keyword (hpause.trans hp) (hflows ▸ hm) h, hr⟩

end

/-! ### Calls -/

section

variable {service : Service} {reply : (q : Query) → q.Reply} {s s₁ s' t : EngineState}
  {o : Opening} {call : Call} {d : Departure} {asked u : List Query}
  {v : Except Failure (Option RunResult)} {f : String → String}

/-- What a run that sets out comes to, and under another id from another state. -/
theorem Departure.exists_course (hx : service.executor.Steady reply) (d : Departure)
    (address : Database.Address) :
    ∃ visits ending vars, ∀ (f : String → String) (s : EngineState) asked,
      service.found reply s.database = service.found reply address →
      ∃ q u, (do return some (← walkFrom service (d.journey.renamed f) d.place d.vars) :
          EngineCall (Option RunResult)).run.run (.replying reply) s asked =
        ⟨(d.journey.renamed f).ended service s visits ending q, u, .inr (.ok (some
          ((d.journey.renamed f).resultOf ending.outcome ⟨Journey.visitedBy visits ending, vars⟩
            ending.error)))⟩ ∧
        q.vars = vars ∧ service.found reply q.database = service.found reply address := by
  obtain ⟨visits, ending, vars, hcourse⟩ := Journey.exists_course hx d.journey.document address
    (nodeLimit service) d.place d.vars
  refine ⟨visits, ending, vars, fun f s asked hs => ?_⟩
  obtain ⟨q, hw, hq, hd⟩ := hcourse (d.journey.renamed f) s.database asked rfl hs
  obtain ⟨u, hwalk⟩ := hw.run_to_end (fun _ _ _ _ _ => rfl) [] s rfl
  refine ⟨q, u, ?_, hq, hd⟩
  refine (run_walkFrom service s (.replying reply) asked (d.renamed f)).trans ?_
  rw [Departure.renamed, hwalk, hq]
  rfl

/-- What a call leaves as it is. -/
structure Call.Frame (call : Call) (service : Service) (reply : (q : Query) → q.Reply) (o : Opening)
    (s s' : EngineState) : Prop where
  flows : s'.flows = s.flows
  found : service.found reply s'.database = service.found reply s.database
  keyed : s'.runs.Keyed
  made : s'.runs.made =
    if o.departure?.isSome ∧ call.givenId s = "" then s.runs.made + 1 else s.runs.made
  pauses : ∀ other, other ≠ call.conversation → s'.pauses.lookup other = s.pauses.lookup other
  runs : ∀ id, (∀ d, o.departure? = some d → id ≠ d.journey.run) →
    s'.runs.find? id = s.runs.find? id

/-- A call of which no run sets out has its value at once. -/
theorem Call.Opens.run_stays (h : call.Opens service s o s₁) (ho : o.departure? = none)
    (world : World) (asked : List Query) :
    ∃ v, (call.task service).run.run world s asked = ⟨s₁, asked, .inr v⟩ := by
  rw [h.runsAs world asked]
  cases o with
  | failed e => exact ⟨.error e, rfl⟩
  | answered answer => exact ⟨.ok answer, rfl⟩
  | starts d => cases ho
  | resumes d => cases ho

theorem Call.Opens.run_departs (h : call.Opens service s o s₁) (hd : o.departure? = some d)
    (world : World) (asked : List Query) :
    (call.task service).run.run world s asked =
      (do return some (← walkFrom service d.journey d.place d.vars) :
        EngineCall (Option RunResult)).run.run world s₁ asked := by
  rw [h.runsAs world asked, Opening.task_of_departure service hd]

theorem Call.Opens.frame_of_run (hx : service.executor.Steady reply)
    (h : call.Opens service s o s₁) (hk : s.runs.Keyed)
    (hr : (call.task service).run.run (.replying reply) s asked = ⟨s', u, .inr v⟩) :
    call.Frame service reply o s s' := by
  have hframe := h.frame
  cases hd : o.departure? with
  | none =>
    obtain ⟨w, hw⟩ := h.run_stays hd (.replying reply) asked
    obtain ⟨rfl, -, -⟩ := Task.Progress.mk.inj (hr.symm.trans hw)
    refine ⟨hframe.flows, congrArg _ hframe.database, hframe.keyed hk, hframe.made, fun other hne =>
      h.lookup_ne hne, fun id _ => ?_⟩
    rw [h.runs_eq hd]
  | some d =>
    obtain ⟨visits, ending, vars, hcourse⟩ := d.exists_course hx s₁.database
    obtain ⟨q, u', hrun, hvars, hfound⟩ := hcourse (fun id => id) s₁ asked rfl
    obtain ⟨rfl, -, -⟩ := Task.Progress.mk.inj (hr.symm.trans ((h.run_departs hd _ _).trans hrun))
    obtain ⟨stored, -, through⟩ := h.through hd
    refine ⟨hframe.flows, ?_, ?_, ?_, fun other hne => ?_, fun id hid => ?_⟩
    · exact hfound.trans (congrArg _ hframe.database)
    · rw [Journey.ended_runs]
      exact (hframe.keyed hk).update _ fun r => r.loggedAll_id _
    · rw [Journey.ended_runs, Runs.update_made, hframe.made]
    · rw [Journey.ended_pauses, Journey.pausesAfter_lookup_ne]
      · exact h.lookup_ne hne
      · rw [Journey.renamed, through.conversation]
        exact hne
    · rw [Journey.ended_runs]
      refine (Runs.find?_update_ne _ (hid d hd) _).trans ?_
      exact h.find?_ne hd (hid d hd)

/-- What comes of a call that is made again: a result about a run that may be called differently, and
the same pause and the same record but for that name. -/
structure Call.Again (call : Call) (o : Opening) (f : String → String) (s' t' : EngineState) : Prop
    where
  pause : t'.pauses.lookup call.conversation = s'.pauses.lookup call.conversation ∨
    t'.pauses.lookup call.conversation =
      (s'.pauses.lookup call.conversation).map (Pause.renamed f)
  record : ∀ d, o.departure? = some d → t'.runs.find? (f d.journey.run) =
    (s'.runs.find? d.journey.run).map (RunRecord.renamed f)

theorem Call.Opens.repeats (hx : service.executor.Steady reply)
    (h : call.Opens service s o s₁) (hk : s.runs.Keyed)
    (hr : (call.task service).run.run (.replying reply) s asked = ⟨s', u, .inr v⟩)
    (ha : call.Alike service reply o f s t) (asked' : List Query) :
    ∃ t' u', (call.task service).run.run (.replying reply) t asked' =
        ⟨t', u', .inr (Call.renamedValue f v)⟩ ∧
      call.Again o f s' t' := by
  obtain ⟨t₁, h', hrepeated⟩ := h.opens_again hk ha
  cases hd : o.departure? with
  | none =>
    have hrun := h.runsAs (.replying reply) asked
    have hrun' := h'.runsAs (.replying reply) asked'
    have hagain : call.Again o f s₁ t₁ := by
      refine ⟨Or.inl hrepeated.pause, fun d hd' => ?_⟩
      rw [hd] at hd'
      cases hd'
    cases o with
    | failed e =>
      obtain ⟨rfl, -, hv⟩ := Task.Progress.mk.inj (hr.symm.trans hrun)
      obtain rfl := Sum.inr.inj hv
      exact ⟨t₁, asked', hrun', hagain⟩
    | answered answer =>
      obtain ⟨rfl, -, hv⟩ := Task.Progress.mk.inj (hr.symm.trans hrun)
      obtain rfl := Sum.inr.inj hv
      refine ⟨t₁, asked', hrun'.trans ?_, hagain⟩
      cases answer with
      | none => rfl
      | some r =>
        obtain ⟨flow, rfl⟩ := h.eq_unknownFlow
        rfl
    | starts d => cases hd
    | resumes d => cases hd
  | some d =>
    obtain ⟨visits, ending, vars, hcourse⟩ := d.exists_course hx s₁.database
    obtain ⟨q, u', hrun, hvars, -⟩ := hcourse (fun id => id) s₁ asked rfl
    obtain ⟨rfl, -, hv⟩ := Task.Progress.mk.inj (hr.symm.trans ((h.run_departs hd _ _).trans hrun))
    obtain rfl := Sum.inr.inj hv
    have hd' : (o.renamed f).departure? = some (d.renamed f) := by
      rw [o.renamed_departure?, hd, Option.map_some]
    have hfound : service.found reply t₁.database = service.found reply s₁.database := by
      rw [h'.frame.database, h.frame.database]
      exact ha.found
    obtain ⟨q', u'', hrun', hvars', -⟩ := hcourse f t₁ asked' hfound
    refine ⟨_, u'', (h'.run_departs hd' _ _).trans hrun', ?_, ?_⟩
    · rw [Journey.ended_pauses, Journey.ended_pauses]
      obtain ⟨stored, -, through⟩ := h.through hd
      by_cases hpaused : ending.outcome = .paused
      · obtain ⟨n, awaited, rfl⟩ := Journey.Ending.eq_paused hpaused
        refine Or.inr ?_
        rw [← through.conversation]
        refine (Journey.pausesAfter_paused (d.journey.renamed f) service _ n awaited _).trans ?_
        have hpause := Journey.pausesAfter_paused (d.journey.renamed fun id => id) service s₁.pauses n
          awaited q.vars
        refine Eq.trans ?_ (congrArg (Option.map (Pause.renamed f)) hpause).symm
        rw [hvars, hvars']
        rfl
      · rw [Journey.pausesAfter_of_ne_paused _ _ _ _ _ hpaused,
          Journey.pausesAfter_of_ne_paused _ _ _ _ _ hpaused]
        exact Or.inl hrepeated.pause
    · intro d' hd''
      obtain rfl := Option.some.inj (hd.symm.trans hd'')
      have hrecord := hrepeated.record d hd
      refine ((d.journey.renamed f).ended_find? service t₁ visits ending q').trans ?_
      refine Eq.trans ?_ (congrArg (Option.map (RunRecord.renamed f))
        ((d.journey.renamed fun id => id).ended_find? service s₁ visits ending q)).symm
      rw [Journey.renamed, hrecord]
      simp only [Option.map_map, RunRecord.loggedAll_eq, Journey.renamed]
      rfl

end

end ChatFlow
