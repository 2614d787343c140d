import ChatFlow.Proofs.Document.Targets
import ChatFlow.Proofs.Engine.Answering
import ChatFlow.Proofs.Engine.Repeating

/-!
# Resuming is running on

A paused run that is resumed does what a new run of the flow would do that sets out
at the successor of the node that waited, with the variables of the pause and those
of the reply, in the state without the pause (`resume_continues`).  The two differ in
the id of the run and, where there is a state store, in the copy of its record.

The two walks go through the same document from the same place, and a walk depends
on the id of its run nowhere else (`walk_alongside`).  That the new run does set out
at the successor takes one more thing: the successor is never the empty id, which
would stand for the start of the document.
-/

namespace ChatFlow

open Engine

/-! ### Two runs side by side -/

/-- What two calls about a conversation have in common that do the same, the second one under another
id of its run. -/
structure Alongside (service : Service) (world : World) (f : String → String) (conversation : String)
    {α : Type} (same : α → α → Prop) (x y : Task.Progress EngineState α) : Prop where
  /-- They ask the same, one after the other, but for the copy of the record at the end. -/
  asked : ∃ before, service.AsksToKeep before x.asked ∧ service.AsksToKeep before y.asked
  value : ∀ a b, x.outcome = .inr a → y.outcome = .inr b → same a b
  returns : service.ArchiveReplies world →
    ((∃ a, x.outcome = .inr a) ↔ ∃ b, y.outcome = .inr b)
  pause : y.state.pauses.lookup conversation =
    (x.state.pauses.lookup conversation).map (Pause.renamed f)
  others : ∀ other, other ≠ conversation →
    y.state.pauses.lookup other = x.state.pauses.lookup other
  flows : y.state.flows = x.state.flows
  database : y.state.database = x.state.database

section

variable {service : Service} {world : World} {f : String → String} {conversation : String}
  {α β : Type} {same : α → α → Prop} {same' : β → β → Prop} {x y : Task.Progress EngineState α}

theorem andThen_pure_eq (x : Task.Progress EngineState α) (world : World) (g : α → β) :
    (x.andThen world fun a => pure (g a)) =
      ⟨x.state, x.asked, x.outcome.map (fun t => t >>= fun a => pure (g a)) g⟩ := by
  obtain ⟨s, asked, outcome⟩ := x
  cases outcome <;> rfl

theorem exists_map_inr_iff {γ δ : Type} {g : α → β} {k : γ → δ} (o : γ ⊕ α) :
    (∃ b, o.map k g = .inr b) ↔ ∃ a, o = .inr a := by
  cases o with
  | inl t =>
    refine iff_of_false ?_ ?_
    · rintro ⟨b, hb⟩
      cases hb
    · rintro ⟨a, ha⟩
      cases ha
  | inr a => exact iff_of_true ⟨g a, rfl⟩ ⟨a, rfl⟩

theorem exists_of_map_inr {γ δ : Type} {g : α → β} {k : γ → δ} {o : γ ⊕ α} {b : β}
    (h : o.map k g = .inr b) : ∃ a, o = .inr a ∧ b = g a := by
  cases o with
  | inl t => cases h
  | inr a => exact ⟨a, rfl, (Sum.inr.inj h).symm⟩

/-- What is made of the values may be made of them afterwards. -/
theorem Alongside.andThen_pure (h : Alongside service world f conversation same x y) (g : α → β)
    (hg : ∀ a b, same a b → same' (g a) (g b)) :
    Alongside service world f conversation same' (x.andThen world fun a => pure (g a))
      (y.andThen world fun a => pure (g a)) := by
  rw [andThen_pure_eq, andThen_pure_eq]
  refine ⟨h.asked, fun b b' hb hb' => ?_, fun ha => ?_, h.pause, h.others, h.flows, h.database⟩
  · obtain ⟨a, hx, rfl⟩ := exists_of_map_inr hb
    obtain ⟨a', hy, rfl⟩ := exists_of_map_inr hb'
    exact hg a a' (h.value a a' hx hy)
  · rw [exists_map_inr_iff, exists_map_inr_iff]
    exact h.returns ha

end

/-! ### Walks under another id -/

namespace Journey

variable {j : Journey} {service : Service} {world : World} {left : Nat} {p q : Point}
  {visits : List Visit} {ending : Ending}

theorem Executes.renamed {n : Node} {outcome : Except Failure (NodeResult × Entries Value)}
    {database : Database.Address} {asked : List Query}
    (h : j.Executes service world p n outcome database asked) (f : String → String) :
    (j.renamed f).Executes service world p n outcome database asked := ⟨h.node, h.run⟩

theorem Walks.renamed (h : j.Walks service world left p visits ending q) (f : String → String) :
    (j.renamed f).Walks service world left p visits ending q := by
  induction h with
  | arrived h => exact .arrived h
  | limited h => exact .limited h
  | halted hp hid h => exact .halted hp hid h
  | failed h => exact .failed (h.renamed f)
  | paused h ha => exact .paused (h.renamed f) ha
  | stopped h ha hs => exact .stopped (h.renamed f) ha hs
  | onward h ha hs _ ih => exact .onward (h.renamed f) ha hs ih

theorem Passes.renamed (h : j.Passes service world p visits q) (f : String → String) :
    (j.renamed f).Passes service world p visits q := by
  induction h with
  | here p => exact .here p
  | onward h ha hs _ ih => exact .onward (h.renamed f) ha hs ih

/-- Under every id of the run the same question is not answered. -/
theorem Stalls.run_renamed (h : j.Stalls service world p) : ∃ database asked,
    ∀ (f : String → String) (left : Nat) (visited : List String) (s : EngineState),
      s.database = p.database → ∃ t,
        ((j.renamed f).walk service (left + 1) p.place ⟨visited, p.vars⟩).run world s p.asked =
          ⟨{ s with database := database }, asked, .inl t⟩ := by
  obtain ⟨n, database, asked, t, hplace, hr⟩ := h
  obtain ⟨id, hp, hid, hn⟩ := exists_id_of_node hplace
  refine ⟨database, asked, fun f left visited s hs => ?_⟩
  have hr : (service.executor ((j.renamed f).context service p.vars) n).run.run world p.database
      p.asked = ⟨database, asked, .inl t⟩ := hr
  rw [hp, walk_node (j.renamed f) service left hid hn, Task.run_andThen, executeNode_run, hs, hr]
  exact ⟨_, rfl⟩

/-- A walk goes the same way under another id, whatever the records are. -/
theorem walk_alongside (j : Journey) (service : Service) (world : World) (f : String → String)
    (left : Nat) (p : Point) {s t : EngineState} (hs : s.database = p.database)
    (ht : t.database = p.database) (hflows : t.flows = s.flows) (hpauses : t.pauses = s.pauses)
    (hnone : s.pauses.lookup j.conversation = none) :
    Alongside service world f j.conversation (fun r r' => r' = r.renamed f)
      ((j.walk service left p.place ⟨[], p.vars⟩).run world s p.asked)
      (((j.renamed f).walk service left p.place ⟨[], p.vars⟩).run world t p.asked) := by
  rcases j.walks_or_stalls service world left p with
    ⟨visits, ending, q, hw⟩ | ⟨visits, q, hpasses, hlen, hq⟩
  · rw [hw.run_eq [] s hs, (hw.renamed f).run_eq [] t ht]
    have hx := j.finish_run service world ending.outcome ⟨[] ++ visitedBy visits ending, q.vars⟩
      ending.error (j.arrived service s visits ending q) q.asked
    have hy := (j.renamed f).finish_run service world ending.outcome
      ⟨[] ++ visitedBy visits ending, q.vars⟩ ending.error
      ((j.renamed f).arrived service t visits ending q) q.asked
    refine ⟨⟨q.asked, hx.asked, hy.asked⟩, fun r r' hr hr' => ?_, fun ha => ?_, ?_,
      fun other hne => ?_, ?_, ?_⟩
    · rw [hx.result r hr, hy.result r' hr']
      rfl
    · exact iff_of_true ⟨_, hx.ends ha⟩ ⟨_, hy.ends ha⟩
    · rw [hx.state, hy.state]
      show ((j.renamed f).pausesAfter service t.pauses ending q.vars).lookup j.conversation =
        ((j.pausesAfter service s.pauses ending q.vars).lookup j.conversation).map
          (Pause.renamed f)
      by_cases hpaused : ending.outcome = .paused
      · obtain ⟨n, a, rfl⟩ := Ending.eq_paused hpaused
        rw [pausesAfter_paused]
        exact pausesAfter_paused (j.renamed f) service t.pauses n a q.vars
      · rw [pausesAfter_of_ne_paused _ _ _ _ _ hpaused, pausesAfter_of_ne_paused _ _ _ _ _ hpaused,
          hpauses, hnone]
        rfl
    · rw [hx.state, hy.state]
      show ((j.renamed f).pausesAfter service t.pauses ending q.vars).lookup other =
        (j.pausesAfter service s.pauses ending q.vars).lookup other
      rw [pausesAfter_lookup_ne (j.renamed f) service ending t.pauses q.vars hne,
        pausesAfter_lookup_ne j service ending s.pauses q.vars hne, hpauses]
    · rw [hx.state, hy.state]
      exact hflows
    · rw [hx.state, hy.state]
      rfl
  · obtain ⟨rest, rfl⟩ : ∃ rest, left = rest + 1 + visits.length :=
      ⟨left - visits.length - 1, by omega⟩
    obtain ⟨database, asked, hstall⟩ := hq.run_renamed
    obtain ⟨task, hx⟩ := hstall (fun id => id) rest ([] ++ visits.map fun v => v.node.id)
      (j.underway s visits q.database) rfl
    obtain ⟨task', hy⟩ := hstall f rest ([] ++ visits.map fun v => v.node.id)
      ((j.renamed f).underway t visits q.database) rfl
    have hx : (j.walk service (rest + 1) q.place ⟨[] ++ visits.map fun v => v.node.id, q.vars⟩).run
        world (j.underway s visits q.database) q.asked = _ := hx
    rw [hpasses.run_eq (rest + 1) [] s hs, (hpasses.renamed f).run_eq (rest + 1) [] t ht, hx, hy]
    refine ⟨⟨asked, Or.inl rfl, Or.inl rfl⟩, fun r r' hr => (nomatch hr), fun _ => ?_, ?_,
      fun other _ => ?_, hflows, rfl⟩
    · exact iff_of_false (fun ⟨r, hr⟩ => nomatch hr) (fun ⟨r, hr⟩ => nomatch hr)
    · show t.pauses.lookup j.conversation =
        (s.pauses.lookup j.conversation).map (Pause.renamed f)
      rw [hpauses, hnone]
      rfl
    · show t.pauses.lookup other = s.pauses.lookup other
      rw [hpauses]

end Journey

/-! ### Resumptions -/

/-- The name under which a reply to a pause is kept: the one in the settings of the node that waits,
if the pause waits for a message and the node is one that asks for a reply. -/
inductive Pause.KeepsAs (document : Document) (p : Pause) : Option String → Prop
  | named {n : Node} {settings : Filled} (awaited : p.awaited = .message)
      (node : document.node p.node = some n) (type : n.type = "wait_for_reply")
      (filled : n.filled = .ok settings) :
      KeepsAs document p
        (if settings.text "save_as" = "" then none else some (settings.text "save_as"))
  | unnamed (other : p.awaited ≠ .message ∨
      ∀ n, document.node p.node = some n → n.type ≠ "wait_for_reply") : KeepsAs document p none

section

variable {service : Service} {s : EngineState} {conversation : String} {p : Pause}
  {stored : FlowRecord} {document : Document} {m : Message}

theorem keepsAs_of_saveName {name : Option String} (hf : s.flows.find? p.flow = some stored)
    (hd : Document.ofStored stored.config = .ok document) (ha : p.awaited = .message)
    (h : saveName s.flows p = .ok name) : p.KeepsAs document name := by
  simp only [saveName, hf] at h
  obtain ⟨document', hd', h⟩ := bind_eq_ok_iff.mp h
  obtain rfl := Except.ok.inj (hd.symm.trans hd')
  cases hn : document.node p.node with
  | none =>
    rw [hn] at h
    obtain rfl := Except.ok.inj h
    refine .unnamed (Or.inr fun n hn' => ?_)
    rw [hn] at hn'
    cases hn'
  | some n =>
    rw [hn] at h
    by_cases ht : n.type = "wait_for_reply"
    · simp only [ht, ne_eq, not_true_eq_false, if_false] at h
      obtain ⟨settings, hs, h⟩ := bind_eq_ok_iff.mp h
      obtain rfl := Except.ok.inj h
      exact .named ha hn ht hs
    · simp only [ne_eq, ht, not_false_eq_true, if_true] at h
      obtain rfl := Except.ok.inj h
      refine .unnamed (Or.inr fun n' hn' => ?_)
      obtain rfl := Option.some.inj (hn.symm.trans hn')
      exact ht

theorem exists_name_of_replyTo {further : Entries Value} (hf : s.flows.find? p.flow = some stored)
    (hd : Document.ofStored stored.config = .ok document) (h : replyTo s.flows p m = .ok further) :
    ∃ name, p.KeepsAs document name ∧ m.replyVariables p.node name = .ok further := by
  by_cases ha : p.awaited = .message
  · rw [replyTo, if_pos ha] at h
    obtain ⟨name, hname, h⟩ := bind_eq_ok_iff.mp h
    exact ⟨name, keepsAs_of_saveName hf hd ha hname, h⟩
  · rw [replyTo, if_neg ha] at h
    exact ⟨none, .unnamed (Or.inl ha), h⟩

/-- A resumption sets out at the successor of the node that waited. -/
theorem exists_resumes_onward (service : Service)
    (hp : s.pauses.lookup conversation = some p) (hf : s.flows.find? p.flow = some stored)
    (hd : Document.ofStored stored.config = .ok document) (further : Entries Value) :
    ∃ id s₁, Resumes service s conversation p.flow further
      (.resumes ⟨⟨stored.id, conversation, id, document⟩, document.next p.node,
        Entries.merge p.vars further⟩) s₁ := by
  cases hr : s.runs.find? (p.run.getD "") with
  | some record => exact ⟨_, _, .reopens hp rfl hf hd hr⟩
  | none => exact ⟨_, _, .renews hp rfl hf hd hr rfl⟩

/-- A resumption runs as the walk from the successor of the node that waited. -/
theorem exists_resume_run (service : Service) (hp : s.pauses.lookup conversation = some p)
    (hf : s.flows.find? p.flow = some stored)
    (hd : Document.ofStored stored.config = .ok document) (further : Entries Value) :
    ∃ id s₁, s₁.pauses = Entries.erase s.pauses conversation ∧ s₁.flows = s.flows ∧
      s₁.database = s.database ∧ ∀ world asked,
        ((Call.resume conversation p.flow further).task service).run.run world s asked =
          (((⟨stored.id, conversation, id, document⟩ : Journey).walk service (nodeLimit service)
            (document.next p.node) ⟨[], Entries.merge p.vars further⟩).run world s₁ asked).andThen
              world fun r => pure (.ok (some r)) := by
  obtain ⟨id, s₁, h⟩ := exists_resumes_onward service hp hf hd further
  have ho := Call.Opens.resume h
  refine ⟨id, s₁, (h.departs rfl).2.2.1, h.frame.flows, h.frame.database, fun world asked => ?_⟩
  rw [ho.run_departs rfl world asked]
  exact run_walkFrom service s₁ world asked _

/-- A resumption does what a new run does that sets out at the successor with the same variables, in
the state without the pause. -/
theorem resume_alongside (service : Service) (hp : s.pauses.lookup conversation = some p)
    (hf : s.flows.find? p.flow = some stored)
    (hd : Document.ofStored stored.config = .ok document) (world : World) (asked : List Query)
    (further : Entries Value) {t : String} (id : Option String)
    (ht : document.next p.node = some t) : ∃ f,
      Alongside service world f conversation (fun v w => w = Call.renamedValue f v)
        (((Call.resume conversation p.flow further).task service).run.run world s asked)
        (((Call.run p.flow conversation (Entries.merge p.vars further) (some t) id).task
          service).run.run world (s.unpause conversation) asked) := by
  obtain ⟨run, s₁, hpauses, hflows, hdatabase, hresume⟩ := exists_resume_run service hp hf hd further
  -- The empty id would stand for the start of the document.
  have hne : t ≠ "" := (Document.directed_of_ofStored hd).next_ne_empty ht
  have hplace : document.startNode (some t) = some t := if_pos hne
  obtain ⟨record, runs, hcreate⟩ : ∃ record runs, (s.unpause conversation).runs.create stored.id
    conversation id service.now.unix = (record, runs) := ⟨_, _, rfl⟩
  have hstarts : Starts service (s.unpause conversation) p.flow conversation
      (Entries.merge p.vars further) (some t) id
      (.starts ⟨⟨stored.id, conversation, record.id, document⟩, document.startNode (some t),
        Entries.merge p.vars further⟩) { s.unpause conversation with runs := runs } :=
    .starts hf hd hcreate
  rw [hplace] at hstarts
  refine ⟨fun _ => record.id, ?_⟩
  rw [hresume world asked, (Call.Opens.run hstarts).run_departs rfl world asked, run_walkFrom, ht]
  have hnone : s₁.pauses.lookup conversation = none := by
    rw [hpauses]
    exact s.unpause_lookup_self conversation
  have hwalk := (⟨stored.id, conversation, run, document⟩ : Journey).walk_alongside service world
    (fun _ => record.id) (nodeLimit service) ⟨some t, Entries.merge p.vars further, s.database, asked⟩
    (s := s₁) (t := { s.unpause conversation with runs := runs }) hdatabase rfl hflows.symm
    hpauses.symm hnone
  refine hwalk.andThen_pure (fun r => (Except.ok (some r) : Except Failure (Option RunResult))) ?_
  rintro r r' rfl
  rfl

/-- A resumption completes where the node that waited has no successor. -/
theorem resume_completes (service : Service) (hp : s.pauses.lookup conversation = some p)
    (hf : s.flows.find? p.flow = some stored)
    (hd : Document.ofStored stored.config = .ok document) (world : World) (asked : List Query)
    (further : Entries Value) (ht : document.next p.node = none) : ∃ id,
      let progress := ((Call.resume conversation p.flow further).task service).run.run world s asked
      (∀ v, progress.outcome = .inr v → v = .ok (some
        { outcome := .completed, flow := stored.id, conversation := conversation, run := some id,
          visited := [], error := none, vars := Entries.merge p.vars further })) ∧
      (service.ArchiveReplies world → ∃ v, progress.outcome = .inr v) ∧
      service.AsksToKeep asked progress.asked ∧
      progress.state.pauses = Entries.erase s.pauses conversation := by
  obtain ⟨run, s₁, hpauses, hflows, hdatabase, hresume⟩ := exists_resume_run service hp hf hd further
  refine ⟨run, ?_⟩
  rw [hresume world asked, ht, Journey.walk_arrived _ _ _ rfl, andThen_pure_eq]
  have hstops := (⟨stored.id, conversation, run, document⟩ : Journey).finish_run service world
    .completed ⟨[], Entries.merge p.vars further⟩ none s₁ asked
  refine ⟨fun v hv => ?_, fun ha => ?_, hstops.asked, ?_⟩
  · obtain ⟨r, hr, rfl⟩ := exists_of_map_inr hv
    rw [hstops.result r hr]
    rfl
  · exact (exists_map_inr_iff _).mpr ⟨_, hstops.ends ha⟩
  · rw [hstops.state]
    exact hpauses

/-- A message that is taken as a reply resumes the run with the variables that it becomes. -/
theorem receive_resumes (service : Service) (hp : s.pauses.lookup m.phone = some p)
    (hf : s.flows.find? p.flow = some stored)
    (hd : Document.ofStored stored.config = .ok document) (world : World) (asked : List Query)
    (hraise : ∀ e, (((Call.receive m).task service).run.run world s asked).outcome ≠
      .inr (.error e)) :
    ∃ name further, p.KeepsAs document name ∧ m.replyVariables p.node name = .ok further ∧
      ((Call.receive m).task service).run.run world s asked =
        ((Call.resume m.phone p.flow further).task service).run.run world s asked := by
  cases hv : replyTo s.flows p m with
  | error e =>
    have hopens : (Call.receive m).Opens service s (.failed e) s := .unread hp hv
    exact absurd (congrArg Task.Progress.outcome (hopens.runsAs world asked)) (hraise e)
  | ok further =>
    obtain ⟨name, hname, hvars⟩ := exists_name_of_replyTo hf hd hv
    obtain ⟨id, s₁, h⟩ := exists_resumes_onward service hp hf hd further
    refine ⟨name, further, hname, hvars, ?_⟩
    have hreceive : (Call.receive m).Opens service s _ s₁ := .reply hp hv h
    have hresume := Call.Opens.resume h
    rw [hreceive.runsAs world asked, hresume.runsAs world asked]

/-- A resumption does what a new run from the successor would do, in the state without the pause.
Where there is no successor it completes.  And a message that is taken as a reply resumes the run with
the variables that it becomes. -/
theorem resume_continues (service : Service) (hp : s.pauses.lookup conversation = some p)
    (hf : s.flows.find? p.flow = some stored)
    (hd : Document.ofStored stored.config = .ok document) (world : World) (asked : List Query) :
    (∀ further t id, document.next p.node = some t → ∃ f,
      Alongside service world f conversation (fun v w => w = Call.renamedValue f v)
        (((Call.resume conversation p.flow further).task service).run.run world s asked)
        (((Call.run p.flow conversation (Entries.merge p.vars further) (some t) id).task
          service).run.run world (s.unpause conversation) asked)) ∧
    (∀ further, document.next p.node = none → ∃ id,
      let progress := ((Call.resume conversation p.flow further).task service).run.run world s asked
      (∀ v, progress.outcome = .inr v → v = .ok (some
        { outcome := .completed, flow := stored.id, conversation := conversation, run := some id,
          visited := [], error := none, vars := Entries.merge p.vars further })) ∧
      (service.ArchiveReplies world → ∃ v, progress.outcome = .inr v) ∧
      service.AsksToKeep asked progress.asked ∧
      progress.state.pauses = Entries.erase s.pauses conversation) ∧
    (∀ m : Message, m.phone = conversation →
      (∀ e, (((Call.receive m).task service).run.run world s asked).outcome ≠ .inr (.error e)) →
      ∃ name further, p.KeepsAs document name ∧ m.replyVariables p.node name = .ok further ∧
        ((Call.receive m).task service).run.run world s asked =
          ((Call.resume conversation p.flow further).task service).run.run world s asked) := by
  refine ⟨fun further t id ht => resume_alongside service hp hf hd world asked further id ht,
    resume_completes service hp hf hd world asked, fun m hm hraise => ?_⟩
  subst hm
  exact receive_resumes service hp hf hd world asked hraise

end

/-- The conversation that waits at its question goes on as a run that asks it again. -/
theorem resume_continues_waiting : ∃ p f, Call.waiting.state.pauses.lookup "c" = some p ∧
    Alongside .alone .silent f "c" (fun v w => w = Call.renamedValue f v)
      (((Call.resume "c" p.flow []).task .alone).run.run .silent Call.waiting.state [])
      (((Call.run p.flow "c" (Entries.merge p.vars []) (some "ask") none).task .alone).run.run
        .silent (Call.waiting.state.unpause "c") []) := by
  obtain ⟨p, hp, hflow, hnode, -⟩ := waiting_pause
  have hflows : Call.waiting.state.flows = [("f", .waiting)] := by with_unfolding_all rfl
  have hf : Call.waiting.state.flows.find? p.flow = some .waiting := by
    rw [hflows, hflow]
    rfl
  have h := (resume_continues .alone hp hf Document.ofStored_waiting .silent []).1 [] "ask" none
    (by rw [hnode]; decide)
  obtain ⟨f, h⟩ := h
  exact ⟨p, f, hp, h⟩

end ChatFlow
