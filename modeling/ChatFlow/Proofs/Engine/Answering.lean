import ChatFlow.Proofs.Engine.Failing
import ChatFlow.Proofs.Engine.Pausing
import ChatFlow.Proofs.Engine.Reaching
import ChatFlow.Proofs.Inbound.Reply
import ChatFlow.Proofs.Outside.Task

/-!
# Replies to paused runs

A message of a user whose run is paused resumes that run: it starts no other flow, it
fails at no step, and it leaves no pause or the next pause of the same run
(`reply_consumes_pause`).  What this takes of the stored flow is that its document can
be read and, when a message is awaited, the settings of the node that waits for it
(`Pause.Answerable`).  A flow may be stored again while a run of it is paused, so
neither is certain.  Without them every message of the user fails: a pause that waits
for a message stays for ever (`reply_never_taken`), and any other is lost.
-/

namespace ChatFlow

open Engine

/-- The stored flow of a pause allows a reply to be taken: its document can be read, and if a message
is awaited also the settings of the node that waits for it, which may name a place for the message. -/
def Pause.Answerable (flows : Flows) (p : Pause) : Prop :=
  ∀ stored, flows.find? p.flow = some stored →
    ∃ document, Document.ofStored stored.config = .ok document ∧
      (p.awaited = .message → ∀ n, document.node p.node = some n → n.type = "wait_for_reply" →
        ∃ f, n.filled = .ok f)

/-- A result is about the run that waited at a pause, and the pause is gone; if the run waits again,
its new pause stands there. -/
structure Pause.Consumed (p : Pause) (service : Service) (s : EngineState) (r : RunResult) : Prop where
  flow : r.flow = p.flow
  conversation : r.conversation = p.conversation
  run : r.run = p.run
  gone : r.outcome ≠ .paused → s.pauses.lookup p.conversation = none
  again : r.outcome = .paused → ∃ n a, s.pauses.lookup p.conversation =
    some { flow := r.flow, node := n, conversation := r.conversation, vars := r.vars,
           awaited := a, run := r.run, since := service.now.unix }

/-! ### Reading a reply -/

section

variable {flows : Flows} {p : Pause} {m : Message}

theorem exists_saveName_of_ofStored {stored : FlowRecord} {document : Document}
    (hf : flows.find? p.flow = some stored) (hd : Document.ofStored stored.config = .ok document) :
    (∃ name, saveName flows p = .ok name) ↔ ∀ n, document.node p.node = some n →
      n.type = "wait_for_reply" → ∃ f, n.filled = .ok f := by
  simp only [saveName, hf, hd, bind, Except.bind]
  cases hn : document.node p.node with
  | none => exact iff_of_true ⟨none, rfl⟩ fun n h => (nomatch h)
  | some n =>
    by_cases ht : n.type = "wait_for_reply"
    · simp only [ne_eq, ht, not_true_eq_false, if_false]
      cases hs : n.filled with
      | ok f => exact iff_of_true ⟨_, rfl⟩ fun n' h _ => ⟨f, Option.some.inj h ▸ hs⟩
      | error e =>
        refine iff_of_false (fun h => ?_) fun h => ?_
        · obtain ⟨name, h⟩ := h
          cases h
        · obtain ⟨f, h⟩ := h n rfl ht
          rw [hs] at h
          cases h
    · simp only [ne_eq, ht, not_false_eq_true, if_true]
      exact iff_of_true ⟨none, rfl⟩ fun n' h h' => absurd (Option.some.inj h ▸ h') ht

/-- The name for a message can be had if the stored document can be read, and so can the settings of
the node that waits for it. -/
theorem exists_saveName_iff :
    (∃ name, saveName flows p = .ok name) ↔ ∀ stored, flows.find? p.flow = some stored →
      ∃ document, Document.ofStored stored.config = .ok document ∧
        ∀ n, document.node p.node = some n → n.type = "wait_for_reply" → ∃ f, n.filled = .ok f := by
  constructor
  · rintro ⟨name, h⟩ stored hf
    cases hd : Document.ofStored stored.config with
    | ok document => exact ⟨document, rfl, (exists_saveName_of_ofStored hf hd).mp ⟨name, h⟩⟩
    | error e =>
      simp only [saveName, hf, hd] at h
      cases h
  · intro h
    cases hf : flows.find? p.flow with
    | none => exact ⟨none, by rw [saveName, hf]; rfl⟩
    | some stored =>
      obtain ⟨document, hd, hsettings⟩ := h stored hf
      exact (exists_saveName_of_ofStored hf hd).mpr hsettings

/-- A message that was delivered is read as a reply to a pause. -/
theorem Pause.Answerable.exists_reply (h : p.Answerable flows) (hm : m.Delivered) :
    ∃ further, replyTo flows p m = .ok further := by
  unfold replyTo
  by_cases ha : p.awaited = .message
  · obtain ⟨name, hn⟩ := exists_saveName_iff.mpr fun stored hf =>
      (h stored hf).imp fun document hd => ⟨hd.1, hd.2 ha⟩
    rw [if_pos ha, hn]
    exact hm.exists_reply p.node name
  · rw [if_neg ha]
    exact hm.exists_reply p.node none

/-- A pause that cannot be answered makes the call fail: while it is there, or after it is lost. -/
theorem Pause.opens_failed {s : EngineState} (h : ¬ p.Answerable s.flows) (hm : m.Delivered)
    (hp : s.pauses.lookup m.phone = some p) (service : Service) :
    ∃ e, (Call.receive m).Opens service s (.failed e)
      (if p.awaited = .message then s else s.unpause m.phone) := by
  by_cases ha : p.awaited = .message
  · rw [if_pos ha]
    cases hn : saveName s.flows p with
    | error e =>
      refine ⟨e, .unread hp ?_⟩
      rw [replyTo, if_pos ha, hn]
      rfl
    | ok name =>
      refine absurd (fun stored hf => ?_) h
      obtain ⟨document, hd, hsettings⟩ := exists_saveName_iff.mp ⟨name, hn⟩ stored hf
      exact ⟨document, hd, fun _ => hsettings⟩
  · obtain ⟨further, hv⟩ := hm.exists_reply p.node none
    have hv : replyTo s.flows p m = .ok further := by
      rw [replyTo, if_neg ha]
      exact hv
    obtain ⟨stored, h⟩ := Classical.not_forall.mp h
    obtain ⟨hf, h⟩ := Classical.not_imp.mp h
    rw [if_neg ha]
    cases hd : Document.ofStored stored.config with
    | error e => exact ⟨e, .reply hp hv (.unreadable hp rfl hf hd)⟩
    | ok document => exact absurd ⟨document, hd, fun h => absurd h ha⟩ h

end

/-! ### Taking a reply -/

section

variable {service : Service} {s s₁ : EngineState} {conversation : String} {p : Pause}
  {further : Entries Value} {o : Opening} {d : Departure}

/-- A run that is resumed from a pause consumes it. -/
theorem Resumes.consumes (h : Resumes service s conversation p.flow further o s₁)
    (hs : s.Sound) (hp : s.pauses.lookup conversation = some p) (hd : o.departure? = some d)
    (visits : List Journey.Visit) (ending : Journey.Ending) (q : Journey.Point)
    (visited : List String) :
    p.Consumed service (d.journey.ended service s₁ visits ending q)
      (d.journey.resultOf ending.outcome ⟨visited, q.vars⟩ ending.error) := by
  obtain ⟨⟨stored, hf, through⟩, -, hpauses, -⟩ := h.departs hd
  obtain ⟨hc, -, id, hid, hne⟩ := hs.pauses conversation p hp
  have hrun : d.journey.run = id := by
    rw [h.frame.id hs.runs d hd, hp, Option.bind_some, hid, Option.getD_some, Runs.idFor, if_neg hne]
  refine ⟨through.flow.trans (hs.flows _ _ hf), through.conversation.trans hc.symm, ?_, ?_, ?_⟩
  · rw [hid, ← hrun]
    rfl
  · intro hpaused
    rw [Journey.ended_pauses, Journey.pausesAfter_of_ne_paused _ _ _ _ _ hpaused, hpauses, hc]
    exact (s.pauses.lookup_erase _ _).trans (if_pos rfl)
  · intro hpaused
    obtain ⟨n, a, rfl⟩ := Journey.Ending.eq_paused hpaused
    refine ⟨n.id, a, ?_⟩
    rw [Journey.ended_pauses, hc, ← through.conversation]
    exact Journey.pausesAfter_paused ..

end

/-- In every reachable state a message of a user whose run is paused resumes that run, starts no other
one and does not fail, and the pause is gone, if the stored flow allows a reply to be taken.  If it
does not, every message fails: a pause that waits for a message stays, and any other is lost. -/
theorem reply_consumes_pause {s : EngineState} (h : s.Reachable) {m : Message} (hm : m.Delivered)
    {p : Pause} (hp : s.pauses.lookup m.phone = some p) (service : Service) :
    (p.Answerable s.flows → ∃ further, replyTo s.flows p m = .ok further ∧
      ∀ world asked,
        (receive service m).run.run world s asked =
          (resume service m.phone p.flow further).run.run world s asked ∧
        (∀ s' asked' v, (receive service m).run.run world s asked = ⟨s', asked', .inr v⟩ →
          ∃ r, v = .ok (some r) ∧ p.Consumed service s' r) ∧
        (world.Replies → ∃ s' asked' v,
          (receive service m).run.run world s asked = ⟨s', asked', .inr v⟩)) ∧
    (¬ p.Answerable s.flows → ∃ e, ∀ world asked, (receive service m).run.run world s asked =
      ⟨if p.awaited = .message then s else s.unpause m.phone, asked, .inr (.error e)⟩) := by
  refine ⟨fun ha => ?_, fun ha => ?_⟩
  · obtain ⟨further, hv⟩ := ha.exists_reply hm
    have hsound := h.sound
    obtain ⟨stored, hf⟩ := Option.isSome_iff_exists.mp (hsound.pauses _ p hp).flow
    obtain ⟨document, hd, -⟩ := ha stored hf
    obtain ⟨o, s₁, d, hr, hdeparts, -⟩ := exists_resumption hp rfl hf hd further
    have ho : (Call.receive m).Opens service s o s₁ := .reply hp hv hr
    refine ⟨further, hv, fun world asked => ⟨?_, fun s' asked' v hrun => ?_, fun hw => ?_⟩⟩
    · exact (ho.runsAs world asked).trans (hr.runsAs world asked).symm
    · rcases ho.walked_or_waiting hdeparts world asked hrun with
        ⟨visits, ending, q, -, rfl, answer⟩ | ⟨_, _, _, -, hwaits⟩
      · exact ⟨_, answer v rfl, hr.consumes hsound hp hdeparts visits ending q _⟩
      · cases hwaits
    · exact Task.run_ends _ s asked hw
  · obtain ⟨e, ho⟩ := Pause.opens_failed ha hm hp service
    exact ⟨e, fun world asked => ho.runsAs world asked⟩

/-! ### A pause that no message ends -/

/-- A text that a user sends. -/
def Message.hello : Message where
  phone := "c"
  type := "text"
  body := "hello"
  id := none
  timestamp := none
  contactName := none
  raw := [("from", .str "c"), ("type", .str "text"), ("text", .object [("body", .str "hello")])]
  vars := [("userMessage", .str "hello"), ("user.phone", .str "c"), ("message.type", .str "text"),
    ("message.body", .str "hello"), ("message.timestamp", .null), ("message.id", .null),
    ("text.body", .str "hello")]

theorem Message.hello_delivered : Message.hello.Delivered :=
  ⟨.object [("entry", .list [.object [("changes", .list [.object [("value",
    .object [("messages", .list [.object Message.hello.raw])])]])]])], rfl⟩

/-- The flow that waits, stored again with a list in the place of the name for the message. -/
def FlowRecord.unsettled : FlowRecord :=
  { FlowRecord.waiting with
    config := .object [("nodes", .list [.object [("id", .str "ask"), ("type", .str "wait_for_reply"),
      ("config", .object [("saveAs", .list [.int 1])])]])] }

/-- The state in which a run of the flow has paused before it was stored again. -/
def EngineState.unsettled : EngineState :=
  { Call.waiting.state with flows := Call.waiting.state.flows.save .unsettled }

theorem reachable_waiting : Call.waiting.state.Reachable :=
  ((EngineState.Reachable.start none).saved .waiting).called _ .alone .silent []

theorem waiting_pause : ∃ p, Call.waiting.state.pauses.lookup "c" = some p ∧ p.flow = "f" ∧
    p.node = "ask" ∧ p.awaited = .message := by
  have h : (Call.waiting.state.pauses.lookup "c").map (fun p => (p.flow, p.node, p.awaited)) =
      some ("f", "ask", .message) := by decide +kernel
  obtain ⟨p, hp, h⟩ := Option.map_eq_some_iff.mp h
  obtain ⟨hflow, h⟩ := Prod.mk.inj h
  obtain ⟨hnode, hawaited⟩ := Prod.mk.inj h
  exact ⟨p, hp, hflow, hnode, hawaited⟩

/-- The node of that flow, with these settings. -/
def Node.ask (config : Entries Value) : Node := ⟨"ask", "wait_for_reply", config, none, "", []⟩

theorem Document.ofStored_waiting : Document.ofStored FlowRecord.waiting.config =
    .ok ⟨[.ask []], [⟨"ask->ask", "ask", "ask", none, none, []⟩], none⟩ := by
  with_unfolding_all rfl

theorem Document.ofStored_unsettled : Document.ofStored FlowRecord.unsettled.config =
    .ok ⟨[.ask [("saveAs", .list [.int 1])]], [], none⟩ := by
  with_unfolding_all rfl

theorem Node.ask_filled : ∃ f, (Node.ask []).filled = .ok f := ⟨_, by with_unfolding_all rfl⟩

theorem Node.ask_unfilled : (Node.ask [("saveAs", .list [.int 1])]).filled =
    .error (.settings "ask" "wait_for_reply" ["saveAs"]) := by
  with_unfolding_all rfl

/-- A message resumes the run of the flow that waits for it. -/
theorem reply_consumes_pause_waiting :
    ∃ p s asked r, Call.waiting.state.pauses.lookup "c" = some p ∧
      (receive .alone .hello).run.run .refusing Call.waiting.state [] =
        ⟨s, asked, .inr (.ok (some r))⟩ ∧
      p.Consumed .alone s r := by
  obtain ⟨p, hp, hflow, hnode, -⟩ := waiting_pause
  have hflows : Call.waiting.state.flows = [("f", .waiting)] := by with_unfolding_all rfl
  have ha : p.Answerable Call.waiting.state.flows := by
    intro stored hf
    rw [hflow, hflows] at hf
    obtain rfl : FlowRecord.waiting = stored := Option.some.inj hf
    refine ⟨_, Document.ofStored_waiting, fun _ n hn _ => ?_⟩
    rw [hnode] at hn
    obtain rfl : Node.ask [] = n := Option.some.inj hn
    exact Node.ask_filled
  obtain ⟨further, -, h⟩ :=
    (reply_consumes_pause reachable_waiting Message.hello_delivered hp .alone).1 ha
  obtain ⟨-, hconsumed, hends⟩ := h .refusing []
  obtain ⟨s, asked, v, hrun⟩ := hends World.refusing_replies
  obtain ⟨r, rfl, hr⟩ := hconsumed s asked v hrun
  exact ⟨p, s, asked, r, hp, hrun, hr⟩

/-- No message of the user ends the pause: each of them fails, and the pause stays. -/
theorem reply_never_taken :
    EngineState.unsettled.Reachable ∧ (EngineState.unsettled.pauses.lookup "c").isSome = true ∧
      Message.hello.Delivered ∧ Message.hello.phone = "c" ∧
      ∀ m, m.Delivered → m.phone = "c" → ∃ e, ∀ world asked,
        (receive .alone m).run.run world .unsettled asked = ⟨.unsettled, asked, .inr (.error e)⟩ := by
  obtain ⟨p, hp, hflow, hnode, hawaited⟩ := waiting_pause
  have hp : EngineState.unsettled.pauses.lookup "c" = some p := hp
  have ha : ¬ p.Answerable EngineState.unsettled.flows := by
    intro h
    have hf : EngineState.unsettled.flows.find? p.flow = some .unsettled := by
      rw [hflow]
      exact Entries.find?_put_self ..
    obtain ⟨document, hd, hsettings⟩ := h .unsettled hf
    obtain rfl := Except.ok.inj (Document.ofStored_unsettled.symm.trans hd)
    obtain ⟨f, hf⟩ := hsettings hawaited (.ask [("saveAs", .list [.int 1])]) (hnode ▸ rfl) rfl
    rw [Node.ask_unfilled] at hf
    cases hf
  refine ⟨reachable_waiting.saved .unsettled, ?_, Message.hello_delivered, rfl, ?_⟩
  · rw [hp]
    rfl
  · intro m hm hc
    obtain ⟨e, ho⟩ := Pause.opens_failed ha hm (hc ▸ hp) .alone
    rw [if_pos hawaited] at ho
    exact ⟨e, fun world asked => ho.runsAs world asked⟩

end ChatFlow
