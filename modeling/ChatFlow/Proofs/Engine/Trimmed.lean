import Mathlib.Data.List.Forall2
import ChatFlow.Proofs.Engine.Course
import ChatFlow.Proofs.Node.Wayfinding

/-!
# Runs do not notice trimmed documents

A run asks its document for nothing but its ways, and apart from the look at its
beginning it does not heed the stored flows.  So when documents are trimmed of edges
that nobody takes, every call does what it did before (`trimming_unnoticed`).
-/

namespace ChatFlow

open Engine

/-! ### Walks in documents with the same ways -/

/-- The same run in another document. -/
def Journey.within (j : Journey) (d : Document) : Journey := { j with document := d }

section

variable {j : Journey} {service : Service} {d : Document}

theorem Journey.nextAfter_within (h : j.document.SameWays d) (n : Node) (r : NodeResult) :
    (j.within d).nextAfter n r = j.nextAfter n r := by
  have hnext : ∀ id, (j.within d).document.next id = j.document.next id := h.next
  simp only [nextAfter, hnext]

theorem Journey.executeNode_within (hx : service.executor.SeesWays) (h : j.document.SameWays d)
    (n : Node) (vars : Entries Value) :
    (j.within d).executeNode service n vars = j.executeNode service n vars := by
  have hexecutor : service.executor ((j.context service vars).within d) n =
      service.executor (j.context service vars) n := hx _ n d h
  unfold executeNode
  rw [← hexecutor]
  rfl

/-- A walk ends at once, or it executes a node, and in a document that names the same nodes it does
likewise. -/
theorem Journey.walk_finishes_or_executes (service : Service)
    (hnode : ∀ id, d.node id = j.document.node id) (left : Nat) (place : Option String)
    (p : Position) :
    (∃ outcome error, j.walk service left place p = j.finish service outcome p error ∧
      (j.within d).walk service left place p = (j.within d).finish service outcome p error) ∨
    ∃ before n, left = before + 1 ∧
      j.walk service left place p = j.executeNode service n p.vars >>= j.proceed service before n p ∧
      (j.within d).walk service left place p =
        (j.within d).executeNode service n p.vars >>= (j.within d).proceed service before n p := by
  by_cases harrived : place.getD "" = ""
  · exact Or.inl ⟨_, _, walk_arrived _ _ _ harrived _, walk_arrived _ _ _ harrived _⟩
  obtain ⟨id, rfl, hid⟩ := exists_place harrived
  cases left with
  | zero => exact Or.inl ⟨_, _, walk_limited _ _ hid _, walk_limited _ _ hid _⟩
  | succ before =>
    cases hn : j.document.node id with
    | none =>
      exact Or.inl ⟨_, _, walk_halted _ _ _ hid hn _, walk_halted _ _ _ hid ((hnode id).trans hn) _⟩
    | some n =>
      exact Or.inr ⟨before, n, rfl, walk_node _ _ _ hid hn _,
        walk_node _ _ _ hid ((hnode id).trans hn) _⟩

/-- A run takes the same steps in a document that has the same ways. -/
theorem Journey.walk_within (hx : service.executor.SeesWays) (h : j.document.SameWays d)
    (left : Nat) (place : Option String) (p : Position) :
    (j.within d).walk service left place p = j.walk service left place p := by
  induction left using Nat.strongRecOn generalizing place p with
  | ind left ih =>
    rcases walk_finishes_or_executes service h.node left place p with
      ⟨outcome, error, hwalk, hwalk'⟩ | ⟨before, n, rfl, hwalk, hwalk'⟩
    · rw [hwalk, hwalk']
      rfl
    · have hproceed : (j.within d).proceed service before n p = j.proceed service before n p := by
        funext outcome
        cases outcome with
        | error e => rfl
        | ok r =>
          simp only [proceed, nextAfter_within h, ih before (Nat.lt_succ_self before)]
          rfl
      rw [hwalk, hwalk', executeNode_within hx h, hproceed]

end

/-! ### Tasks that do not heed the flows -/

/-- The same state with other flows. -/
def EngineState.withFlows (s : EngineState) (flows : Flows) : EngineState := { s with flows := flows }

/-- The same progress with other flows in the state. -/
def Task.Progress.withFlows {α : Type} (p : Task.Progress EngineState α) (flows : Flows) :
    Task.Progress EngineState α := { p with state := p.state.withFlows flows }

/-- A task comes to the same whatever the flows are, and leaves them as they are. -/
def Task.Heedless {α : Type} (t : Task EngineState α) : Prop :=
  ∀ flows world s asked, t.run world (s.withFlows flows) asked = (t.run world s asked).withFlows flows

section

variable {α β : Type} {t : Task EngineState α} {f : α → Task EngineState β}

theorem Task.heedless_pure (a : α) : (pure a : Task EngineState α).Heedless := fun _ _ _ _ => rfl

theorem Task.Heedless.bind (ht : t.Heedless) (hf : ∀ a, (f a).Heedless) : (t >>= f).Heedless := by
  intro flows world s asked
  rw [run_andThen, run_andThen, ht flows world s asked]
  unfold Progress.andThen Progress.withFlows
  cases (t.run world s asked).outcome with
  | inl left => rfl
  | inr a => exact hf a flows world _ _

theorem Task.heedless_change {g : EngineState → EngineState}
    (hg : ∀ s flows, g (s.withFlows flows) = (g s).withFlows flows) : (Task.change g).Heedless := by
  intro flows world s asked
  simp only [change, run, hg]
  rfl

theorem Task.heedless_query (q : Query) : (query q : Task EngineState q.Reply).Heedless := by
  intro flows world s asked
  simp only [query, run]
  cases world asked q <;> rfl

end

section

variable (j : Journey) (service : Service)

theorem Journey.heedless_archive : (j.archive service).Heedless := by
  have hsave : ∀ store (record : RunRecord),
      (Archive.save store j.run record.dump : Task EngineState Unit).Heedless :=
    fun store record => (Task.heedless_query _).bind fun _ => Task.heedless_pure ()
  intro flows world s asked
  have hruns : (s.withFlows flows).runs = s.runs := rfl
  simp only [archive, Task.state, Task.get_bind, Task.run, Task.done_bind, hruns]
  split
  · exact hsave _ _ flows world s asked
  · rfl

theorem Journey.heedless_finish (outcome : RunOutcome) (p : Position) (error : Option String) :
    (j.finish service outcome p error).Heedless :=
  (Task.heedless_change fun _ _ => rfl).bind fun _ =>
    (j.heedless_archive service).bind fun _ => Task.heedless_pure _

theorem Journey.heedless_executeNode (n : Node) (vars : Entries Value) :
    (j.executeNode service n vars).Heedless := by
  intro flows world s asked
  rw [executeNode_run, executeNode_run]
  rfl

theorem Journey.heedless_walk (left : Nat) (place : Option String) (p : Position) :
    (j.walk service left place p).Heedless := by
  induction left using Nat.strongRecOn generalizing place p with
  | ind left ih =>
    rcases walk_finishes_or_executes (j := j) service (fun _ => rfl) left place p with
      ⟨outcome, error, hwalk, -⟩ | ⟨before, n, rfl, hwalk, -⟩
    · rw [hwalk]
      exact j.heedless_finish service _ _ _
    · rw [hwalk]
      refine (j.heedless_executeNode service n p.vars).bind fun outcome => ?_
      cases outcome with
      | error e => exact j.heedless_finish service _ _ _
      | ok r =>
        refine (Task.heedless_change fun _ _ => rfl).bind fun _ => ?_
        split
        · exact (Task.heedless_change fun _ _ => rfl).bind fun _ => j.heedless_finish service _ _ _
        · split
          · exact j.heedless_finish service _ _ _
          · exact ih before (Nat.lt_succ_self before) _ _

end

/-! ### Flows with the same ways -/

/-- Two stored flows that nobody can tell apart who only starts and runs them. -/
structure FlowRecord.SameWays (r r' : FlowRecord) : Prop where
  id : r'.id = r.id
  status : r'.status = r.status
  keywords : r'.keywords = r.keywords
  unreadable : ∀ e, Document.ofStored r.config = .error e → Document.ofStored r'.config = .error e
  readable : ∀ d, Document.ofStored r.config = .ok d →
    ∃ d', Document.ofStored r'.config = .ok d' ∧ d.SameWays d'

/-- Stored flows, of which each has the same ways as the one at the same place among others. -/
def Flows.SameWays (flows flows' : Flows) : Prop :=
  List.Forall₂ (fun e e' => e'.1 = e.1 ∧ e.2.SameWays e'.2) flows flows'

theorem FlowRecord.SameWays.refl (r : FlowRecord) : r.SameWays r :=
  ⟨rfl, rfl, rfl, fun _ h => h, fun d h => ⟨d, h, .refl d⟩⟩

namespace Flows

variable {flows flows' : Flows}

/-- A name stands for no flow in both, or for two with the same ways. -/
theorem SameWays.find?_cases (h : flows.SameWays flows') (name : String) :
    (flows.find? name = none ∧ flows'.find? name = none) ∨
      ∃ r r', flows.find? name = some r ∧ flows'.find? name = some r' ∧ r.SameWays r' := by
  induction h with
  | nil => exact Or.inl ⟨rfl, rfl⟩
  | @cons e e' rest rest' he h ih =>
    obtain ⟨k, r⟩ := e
    obtain ⟨k', r'⟩ := e'
    obtain ⟨rfl, hways⟩ : k' = k ∧ r.SameWays r' := he
    rw [Entries.find?_cons, Entries.find?_cons]
    by_cases hk : k' = name
    · rw [if_pos hk, if_pos hk]
      exact Or.inr ⟨r, r', rfl, rfl, hways⟩
    · rw [if_neg hk, if_neg hk]
      exact ih

theorem SameWays.find?_eq_none (h : flows.SameWays flows') {name : String}
    (hf : flows.find? name = none) : flows'.find? name = none := by
  rcases h.find?_cases name with ⟨-, hf'⟩ | ⟨r, r', hr, -⟩
  · exact hf'
  · rw [hf] at hr
    cases hr

theorem SameWays.find?_eq_some (h : flows.SameWays flows') {name : String} {r : FlowRecord}
    (hf : flows.find? name = some r) : ∃ r', flows'.find? name = some r' ∧ r.SameWays r' := by
  rcases h.find?_cases name with ⟨hnone, -⟩ | ⟨r₀, r', hr, hf', hways⟩
  · rw [hf] at hnone
    cases hnone
  · obtain rfl := Option.some.inj (hr.symm.trans hf)
    exact ⟨r', hf', hways⟩

/-- A word starts the flow at the same place among both. -/
theorem SameWays.firstFor (h : flows.SameWays flows') (word : String) :
    (∀ e, Flows.firstFor word flows = .error e → Flows.firstFor word flows' = .error e) ∧
      (Flows.firstFor word flows = .ok none → Flows.firstFor word flows' = .ok none) ∧
      ∀ r, Flows.firstFor word flows = .ok (some r) →
        ∃ r', Flows.firstFor word flows' = .ok (some r') ∧ r.SameWays r' := by
  induction h with
  | nil => exact ⟨fun e h => h, fun h => h, fun r h => nomatch h⟩
  | @cons e e' rest rest' he h ih =>
    obtain ⟨k, r⟩ := e
    obtain ⟨k', r'⟩ := e'
    obtain ⟨-, hways⟩ : k' = k ∧ r.SameWays r' := he
    have hanswers : answersTo word r' = answersTo word r := by
      simp only [answersTo, hways.keywords]
    simp only [Flows.firstFor, hways.status, hanswers]
    by_cases hactive : r.status = .active
    · simp only [if_pos hactive]
      cases answersTo word r with
      | error e => exact ⟨fun e h => h, fun h => (nomatch h), fun r h => (nomatch h)⟩
      | ok answers =>
        cases answers with
        | true =>
          refine ⟨fun e h => (nomatch h), fun h => (nomatch h), fun found h => ?_⟩
          obtain rfl := Option.some.inj (Except.ok.inj h)
          exact ⟨r', rfl, hways⟩
        | false => exact ih
    · simp only [if_neg hactive]
      exact ih

theorem SameWays.forMessage (h : flows.SameWays flows') (text : String) :
    (∀ e, flows.forMessage text = .error e → flows'.forMessage text = .error e) ∧
      (flows.forMessage text = .ok none → flows'.forMessage text = .ok none) ∧
      ∀ r, flows.forMessage text = .ok (some r) →
        ∃ r', flows'.forMessage text = .ok (some r') ∧ r.SameWays r' := by
  simp only [Flows.forMessage]
  split
  · exact ⟨fun e h => h, fun h => h, fun r h => nomatch h⟩
  · exact h.firstFor _

/-- A reply is kept under the same name. -/
theorem SameWays.saveName (h : flows.SameWays flows') (p : Pause) :
    saveName flows' p = saveName flows p := by
  simp only [Engine.saveName]
  cases hf : flows.find? p.flow with
  | none => rw [h.find?_eq_none hf]
  | some stored =>
    obtain ⟨stored', hf', hways⟩ := h.find?_eq_some hf
    rw [hf']
    cases hd : Document.ofStored stored.config with
    | error e =>
      simp only [hd, hways.unreadable e hd]
    | ok d =>
      obtain ⟨d', hd', hsame⟩ := hways.readable d hd
      simp only [hd, hd', bind, Except.bind, hsame.node]

theorem SameWays.replyTo (h : flows.SameWays flows') (p : Pause) (m : Message) :
    replyTo flows' p m = replyTo flows p m := by
  simp only [Engine.replyTo, h.saveName]

end Flows

/-! ### Calls -/

section

variable {service : Service} {s s₁ : EngineState} {flows : Flows} {flow conversation : String}
  {vars further : Entries Value} {start id : Option String} {o : Opening} {call : Call}
  {stored stored' : FlowRecord} {d d' : Document} {run : String}

/-- A run that sets out does the same in a flow with the same ways. -/
theorem walkFrom_sameWays (hx : service.executor.SeesWays) (hways : stored.SameWays stored')
    (h : d.SameWays d') (place : Option String) (vars : Entries Value) :
    walkFrom service ⟨stored'.id, conversation, run, d'⟩ place vars =
      walkFrom service ⟨stored.id, conversation, run, d⟩ place vars := by
  rw [hways.id]
  have hwalk := Journey.walk_within (j := ⟨stored.id, conversation, run, d⟩) hx h
    (nodeLimit service) place ⟨[], vars⟩
  exact congrArg ExceptT.lift hwalk

theorem Starts.withFlows (hx : service.executor.SeesWays) (hways : s.flows.SameWays flows)
    (h : Starts service s flow conversation vars start id o s₁) :
    ∃ o', Starts service (s.withFlows flows) flow conversation vars start id o'
      (s₁.withFlows flows) ∧ o'.task service = o.task service := by
  cases h with
  | unknown hf => exact ⟨_, .unknown (hways.find?_eq_none hf), rfl⟩
  | unreadable hf hd =>
    obtain ⟨stored', hf', hstored⟩ := hways.find?_eq_some hf
    exact ⟨_, .unreadable hf' (hstored.unreadable _ hd), rfl⟩
  | starts hf hd hr =>
    obtain ⟨stored', hf', hstored⟩ := hways.find?_eq_some hf
    obtain ⟨d', hd', hsame⟩ := hstored.readable _ hd
    refine ⟨_, .starts hf' hd' (hstored.id ▸ hr), ?_⟩
    simp only [Opening.task, walkFrom_sameWays hx hstored hsame, hsame.startNode]

theorem Resumes.withFlows (hx : service.executor.SeesWays) (hways : s.flows.SameWays flows)
    (h : Resumes service s conversation flow further o s₁) :
    ∃ o', Resumes service (s.withFlows flows) conversation flow further o'
      (s₁.withFlows flows) ∧ o'.task service = o.task service := by
  cases h with
  | idle hp => exact ⟨_, .idle hp, rfl⟩
  | unknown hp hpf hf => exact ⟨_, .unknown hp hpf (hways.find?_eq_none hf), rfl⟩
  | unreadable hp hpf hf hd =>
    obtain ⟨stored', hf', hstored⟩ := hways.find?_eq_some hf
    exact ⟨_, .unreadable hp hpf hf' (hstored.unreadable _ hd), rfl⟩
  | reopens hp hpf hf hd hr =>
    obtain ⟨stored', hf', hstored⟩ := hways.find?_eq_some hf
    obtain ⟨d', hd', hsame⟩ := hstored.readable _ hd
    refine ⟨_, .reopens hp hpf hf' hd' hr, ?_⟩
    simp only [Opening.task, walkFrom_sameWays hx hstored hsame, hsame.next]
  | renews hp hpf hf hd hn hr =>
    obtain ⟨stored', hf', hstored⟩ := hways.find?_eq_some hf
    obtain ⟨d', hd', hsame⟩ := hstored.readable _ hd
    refine ⟨_, .renews hp hpf hf' hd' hn (hstored.id ▸ hr), ?_⟩
    simp only [Opening.task, walkFrom_sameWays hx hstored hsame, hsame.next]

/-- A call begins in the same way whichever of two flows with the same ways are stored. -/
theorem Call.Opens.withFlows (hx : service.executor.SeesWays) (hways : s.flows.SameWays flows)
    (h : call.Opens service s o s₁) :
    ∃ o', call.Opens service (s.withFlows flows) o' (s₁.withFlows flows) ∧
      o'.task service = o.task service := by
  cases h with
  | run h =>
    obtain ⟨o', h', ht⟩ := h.withFlows hx hways
    exact ⟨o', .run h', ht⟩
  | webhook h =>
    obtain ⟨o', h', ht⟩ := h.withFlows hx hways
    exact ⟨o', .webhook h', ht⟩
  | resume h =>
    obtain ⟨o', h', ht⟩ := h.withFlows hx hways
    exact ⟨o', .resume h', ht⟩
  | unread hp he => exact ⟨_, .unread hp ((hways.replyTo _ _).trans he), rfl⟩
  | reply hp hv h =>
    obtain ⟨o', h', ht⟩ := h.withFlows hx hways
    exact ⟨o', .reply hp ((hways.replyTo _ _).trans hv) h', ht⟩
  | unmatched hp hm => exact ⟨_, .unmatched hp ((hways.forMessage _).2.1 hm), rfl⟩
  | unmatchable hp hm => exact ⟨_, .unmatchable hp ((hways.forMessage _).1 _ hm), rfl⟩
  | keyword hp hm h =>
    obtain ⟨r', hm', hr⟩ := (hways.forMessage _).2.2 _ hm
    obtain ⟨o', h', ht⟩ := h.withFlows hx hways
    rw [← hr.id] at h'
    exact ⟨o', .keyword hp hm' h', ht⟩

theorem Opening.heedless_task (service : Service) (o : Opening) : (o.task service).run.Heedless := by
  have hdeparts : ∀ d : Departure, (do
      return some (← walkFrom service d.journey d.place d.vars) :
        EngineCall (Option RunResult)).run.Heedless := by
    intro d
    rw [walkFrom, Task.run_lift_bind]
    exact (d.journey.heedless_walk service _ _ _).bind fun r => Task.heedless_pure _
  cases o with
  | failed e => exact Task.heedless_pure _
  | answered answer => exact Task.heedless_pure _
  | starts d => exact hdeparts d
  | resumes d => exact hdeparts d

/-- A call does the same whichever of two flows with the same ways are stored. -/
theorem Call.run_withFlows (hx : service.executor.SeesWays) (hways : s.flows.SameWays flows)
    (call : Call) (world : World) (asked : List Query) :
    (call.task service).run.run world (s.withFlows flows) asked =
      ((call.task service).run.run world s asked).withFlows flows := by
  obtain ⟨o, s₁, ho⟩ := call.exists_opens service s
  obtain ⟨o', ho', ht⟩ := ho.withFlows hx hways
  rw [ho.runsAs world asked, ho'.runsAs world asked, ht]
  exact o.heedless_task service flows world s₁ asked

end

/-! ### Trimmed documents -/

/-- Two stored values hold documents of which the second is the first one trimmed. -/
def HoldTrimmed (config config' : Value) : Prop :=
  ∃ d d', Document.ofStored config = .ok d ∧ Document.ofStored config' = .ok d' ∧ d.Trims d'

/-- Two stored flows that differ in nothing but edges of their documents that nobody takes, also
where the documents are read for keywords. -/
structure FlowRecord.Trims (r r' : FlowRecord) : Prop where
  id : r'.id = r.id
  status : r'.status = r.status
  triggerKeywords : r'.triggerKeywords = r.triggerKeywords
  block : blockKeywords r'.configValue = blockKeywords r.configValue
  walked : HoldTrimmed r.config r'.config
  listed : HoldTrimmed r.configValue r'.configValue

/-- Stored flows of which some are trimmed. -/
def Flows.Trims (flows flows' : Flows) : Prop :=
  List.Forall₂ (fun e e' => e'.1 = e.1 ∧ (e'.2 = e.2 ∨ e.2.Trims e'.2)) flows flows'

theorem FlowRecord.Trims.sameWays {r r' : FlowRecord} (h : r.Trims r') : r.SameWays r' where
  id := h.id
  status := h.status
  keywords := by
    obtain ⟨d, d', hd, hd', htrims⟩ := h.listed
    have hnodes : nodeKeywords d' = nodeKeywords d := by simp only [nodeKeywords, htrims.nodes]
    simp only [keywords, h.triggerKeywords, h.block, hd, hd', bind, Except.bind, hnodes]
  unreadable e he := by
    obtain ⟨d, d', hd, -, -⟩ := h.walked
    rw [hd] at he
    cases he
  readable d hd := by
    obtain ⟨d₀, d', hd₀, hd', htrims⟩ := h.walked
    obtain rfl := Except.ok.inj (hd₀.symm.trans hd)
    exact ⟨d', hd', htrims.sameWays⟩

theorem Flows.Trims.sameWays {flows flows' : Flows} (h : flows.Trims flows') :
    flows.SameWays flows' := by
  refine h.imp fun e e' he => ⟨he.1, ?_⟩
  rcases he.2 with heq | htrims
  · rw [heq]
    exact .refl _
  · exact htrims.sameWays

/-- **Trimming goes unnoticed.**  Let a document lose edges that have an earlier edge with the same
source and the same handle, and let its edges be reordered so that those of each node stand as they
did.  Then it answers as before where a node leads, by itself and by a handle, and where the target
of a branch leads.  And when stored flows are trimmed like this, every call does what it did before:
it visits the same nodes with the same outcome, asks the world the same, and leaves the same state
but for the flows.  Handlers that were registered are to see no more of a document than its ways,
as those that are built in do. -/
theorem trimming_unnoticed {registered : Registered}
    (hr : ∀ type handler, registered.find? type = some handler → handler.SeesWays) :
    (∀ d d' : Document, d.Trims d' →
      (∀ id, d'.next id = d.next id) ∧ (∀ id handle, d'.nextBy id handle = d.nextBy id handle) ∧
        ∀ id target, d'.branchTarget id target = d.branchTarget id target) ∧
    ∀ (service : Service) (s : EngineState) (flows : Flows),
      service.executor = execute registered → s.flows.Trims flows →
        ∀ (call : Call) (world : World) (asked : List Query),
          (call.task service).run.run world (s.withFlows flows) asked =
            ((call.task service).run.run world s asked).withFlows flows := by
  constructor
  · intro d d' h
    exact ⟨h.sameWays.next, h.sameWays.nextBy, h.sameWays.branchTarget⟩
  · intro service s flows hservice hflows call world asked
    have hx : service.executor.SeesWays := by
      rw [hservice]
      exact execute_seesWays hr
    exact Call.run_withFlows hx hflows.sameWays call world asked

/-! ### A flow of two nodes -/

/-- The edge without a handle from one node to another. -/
def Edge.between (source target : String) : Edge :=
  ⟨source ++ "->" ++ target, source, target, none, none, []⟩

/-- The document of two nodes that wait for replies, with edges between these nodes. -/
def Document.pair (ends : List (String × String)) : Document :=
  ⟨[⟨"ask", "wait_for_reply", [], none, "", []⟩, ⟨"again", "wait_for_reply", [], none, "", []⟩],
    ends.map fun e => .between e.1 e.2, none⟩

/-- The flow with that document. -/
def FlowRecord.pair (ends : List (String × String)) : FlowRecord :=
  { FlowRecord.waiting with
    config := .object [
      ("nodes", .list [.object [("id", .str "ask"), ("type", .str "wait_for_reply")],
        .object [("id", .str "again"), ("type", .str "wait_for_reply")]]),
      ("edges", .list (ends.map fun e => .object [("source", .str e.1), ("target", .str e.2)]))] }

/-- From one node to the other and back, and a second way from the first one that nobody takes. -/
def roundTrip : List (String × String) := [("ask", "again"), ("again", "ask"), ("ask", "ask")]

/-- Back and there, and no more. -/
def thereAndBack : List (String × String) := [("again", "ask"), ("ask", "again")]

theorem Document.pair_trims : (Document.pair roundTrip).Trims (.pair thereAndBack) where
  nodes := rfl
  start := rfl
  edges := by
    -- the edge that goes looks like the first one
    have hfirst := List.mem_cons_of_mem (Edge.between "again" "ask")
      (List.mem_singleton_self (Edge.between "ask" "again"))
    refine ⟨[.between "ask" "again", .between "again" "ask"],
      .keep (.keep (.drop hfirst ⟨rfl, rfl⟩ .nil)), ?_, ?_⟩
    · exact .swap ..
    · intro id
      by_cases hask : "ask" = id
      · subst hask
        rfl
      · by_cases hagain : "again" = id
        · subst hagain
          rfl
        · simp [Document.pair, thereAndBack, Edge.between, hask, hagain]

theorem FlowRecord.pair_trims : (FlowRecord.pair roundTrip).Trims (.pair thereAndBack) := by
  have hheld : HoldTrimmed (FlowRecord.pair roundTrip).config (FlowRecord.pair thereAndBack).config :=
    ⟨_, _, by with_unfolding_all rfl, by with_unfolding_all rfl, Document.pair_trims⟩
  exact ⟨rfl, rfl, rfl, rfl, hheld, hheld⟩

/-- The state in which the flow is stored and nothing has happened. -/
def EngineState.pair (ends : List (String × String)) : EngineState := .start [("f", .pair ends)] none

/-- The first node leads to the second one in both documents, and a run does the same in both. -/
theorem trimming_unnoticed_pair :
    (Document.pair thereAndBack).next "ask" = (Document.pair roundTrip).next "ask" ∧
      ((Call.run "f" "c" [] none none).task .alone).run.run .silent (.pair thereAndBack) [] =
        (((Call.run "f" "c" [] none none).task .alone).run.run .silent (.pair roundTrip) []).withFlows
          [("f", .pair thereAndBack)] := by
  have hr : ∀ type handler, Entries.find? ([] : Registered) type = some handler →
      handler.SeesWays := fun _ _ h => nomatch h
  obtain ⟨hways, hcalls⟩ := trimming_unnoticed hr
  have hflows : (EngineState.pair roundTrip).flows.Trims [("f", .pair thereAndBack)] :=
    .cons ⟨rfl, Or.inr FlowRecord.pair_trims⟩ .nil
  exact ⟨(hways _ _ Document.pair_trims).1 "ask",
    hcalls .alone (.pair roundTrip) _ rfl hflows (.run "f" "c" [] none none) .silent []⟩

end ChatFlow
