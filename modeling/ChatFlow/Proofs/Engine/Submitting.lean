import ChatFlow.Proofs.Engine.Accruing
import ChatFlow.Proofs.Engine.Resuming
import ChatFlow.Proofs.Inbound.Repeated
import ChatFlow.Proofs.Inbound.Submitted

/-!
# Forms that are submitted one after the other

A run may wait for a form several times, at different nodes or at the same one in a
loop.  Each form writes the fields that it has, and since no variable of a run is ever
taken away, a field that it does not have is read as an earlier form had it, or as
whatever else was written under its name last (`answer_read_until_rewritten`).
-/

namespace ChatFlow

open Engine Message

section

variable {service : Service} {s s₁ : EngineState} {m : Message} {d : Departure} {p : Pause}
  {data first : Entries Value} {changes : List Change} {name path : String}

/-- A run that a message resumes sets out with what it had come to when it paused, and what the message
says as a reply. -/
theorem Call.Opens.exists_answer (ho : (Call.receive m).Opens service s (.resumes d) s₁)
    (hp : s.pauses.lookup m.phone = some p) :
    ∃ saveAs further, m.replyVariables p.node saveAs = .ok further ∧
      d.vars = p.vars.merge further := by
  cases ho with
  | keyword _ _ h => cases h
  | reply hp' hv h =>
    obtain rfl := Option.some.inj (hp'.symm.trans hp)
    cases h with
    | reopens hp' _ hf hd | renews hp' _ hf hd =>
      obtain rfl := Option.some.inj (hp'.symm.trans hp)
      obtain ⟨saveAs, -, hreply⟩ := exists_name_of_replyTo hf hd hv
      exact ⟨saveAs, _, hreply, rfl⟩

theorem Message.Submits.vars_eq (hm : m.Submits data)
    (ho : (Call.receive m).Opens service s (.resumes d) s₁)
    (hp : s.pauses.lookup m.phone = some p) : d.vars = p.vars.merge (formReply p.node data) := by
  obtain ⟨saveAs, further, hreply, hvars⟩ := ho.exists_answer hp
  rw [hm.replyVariables] at hreply
  rw [hvars, Except.ok.inj hreply]

theorem Message.SubmitsNothing.vars_eq (hm : m.SubmitsNothing)
    (ho : (Call.receive m).Opens service s (.resumes d) s₁)
    (hp : s.pauses.lookup m.phone = some p) : d.vars = p.vars := by
  obtain ⟨saveAs, further, hreply, hvars⟩ := ho.exists_answer hp
  rw [hm.replyVariables] at hreply
  rw [hvars, ← Except.ok.inj hreply]
  rfl

/-- What a run has come to since it set out with the first variables, under a name. -/
def earlier (first : Entries Value) (changes : List Change) (name : String) : Option Value :=
  (Change.lastWritten? changes name).or (first.find? name)

/-- What is read behind the common name of forms right after a form has been submitted. -/
theorem Message.Submits.read_common (hm : m.Submits data)
    (ho : (Call.receive m).Opens service s (.resumes d) s₁)
    (hp : s.pauses.lookup m.phone = some p) (h : Accrues first changes p.vars)
    (hname : '.' ∉ name.toList) (hpath : path = "flow_response" ++ "." ++ name)
    (hstrip : Text.strip path = path) :
    (d.journey.context service d.vars).scope.read path =
      .ok ((data.find? name).or
        ((if p.node = path then some (.object data) else none).or (earlier first changes path))) := by
  subst hpath
  have hread : (d.journey.context service d.vars).scope.read ("flow_response" ++ "." ++ name) =
      .ok (Scope.resolve d.vars ("flow_response" ++ "." ++ name)) := Message.read_common hstrip
  rw [hread, hm.vars_eq ho hp, resolve_common_field hm.nodup hname, h.find?_eq, earlier]

/-- What is read behind the id of the node that waited for a form, right after it. -/
theorem Message.Submits.read_own (hm : m.Submits data)
    (ho : (Call.receive m).Opens service s (.resumes d) s₁)
    (hp : s.pauses.lookup m.phone = some p) (h : Accrues first changes p.vars)
    (hname : '.' ∉ name.toList) (hpath : path = p.node ++ "." ++ name)
    (hstrip : Text.strip path = path) (hsystem : Scope.systemVariable? service.locale path = none)
    (hdated : Scope.asksClock path = true → service.locale.isDated = true) :
    ((∀ mid, p.node ≠ "flow_response" ++ "." ++ mid) →
      (d.journey.context service d.vars).scope.read path =
        .ok ((data.find? name).or (earlier first changes path))) ∧
    ∀ mid, p.node = "flow_response" ++ "." ++ mid →
      (d.journey.context service d.vars).scope.read path =
        .ok ((data.find? (mid ++ "." ++ name)).or ((data.find? name).or
          ((earlier first changes path).or ((data.find? mid).bind fun v => v.field? name)))) := by
  subst hpath
  have hread : (d.journey.context service d.vars).scope.read (p.node ++ "." ++ name) =
      .ok (Scope.resolve d.vars (p.node ++ "." ++ name)) := Scope.read_eq_resolve hstrip hsystem hdated
  rw [hread, hm.vars_eq ho hp, earlier, ← h.find?_eq]
  refine ⟨fun hnode => ?_, fun mid hmid => ?_⟩
  · rw [resolve_own_field hm.nodup hname hnode]
  · rw [hmid, resolve_own_field_of_below hm.nodup hname]

/-- **An answer is read until its name is written again.**  Right after a form has been submitted to a
run that waits at a node, however the run has come there and however many forms were submitted to it
before, a name without a dot behind the common name of forms, or behind the id of the node, is read as
the field of this form if it has one.  If it has none, then as what was written last under the whole
name since the run set out, be it by an earlier form, and else as what the run set out with; nothing is
read if there is no such thing.  A node whose id goes on from the common name shares names with the
fields: the node that is called by the path shows the whole form there, and behind the id of such a
node a field of the form that is called by the rest of the path comes first, and a field of a field
last.  The path must have no blanks around it, and behind the id of the node it must mean no system
variable and, if it asks the clock, be read while this shows a date.  If a form brings no data,
nothing is written. -/
theorem answer_read_until_rewritten (ho : (Call.receive m).Opens service s (.resumes d) s₁)
    (hp : s.pauses.lookup m.phone = some p) (h : Accrues first changes p.vars) :
    (∀ data, m.Submits data → ∀ name path, '.' ∉ name.toList → Text.strip path = path →
      (path = "flow_response" ++ "." ++ name →
        (d.journey.context service d.vars).scope.read path =
          .ok ((data.find? name).or ((if p.node = path then some (.object data) else none).or
            (earlier first changes path)))) ∧
      (path = p.node ++ "." ++ name → Scope.systemVariable? service.locale path = none →
        (Scope.asksClock path = true → service.locale.isDated = true) →
        ((∀ mid, p.node ≠ "flow_response" ++ "." ++ mid) →
          (d.journey.context service d.vars).scope.read path =
            .ok ((data.find? name).or (earlier first changes path))) ∧
        ∀ mid, p.node = "flow_response" ++ "." ++ mid →
          (d.journey.context service d.vars).scope.read path =
            .ok ((data.find? (mid ++ "." ++ name)).or ((data.find? name).or
              ((earlier first changes path).or ((data.find? mid).bind fun v => v.field? name)))))) ∧
    (m.SubmitsNothing → d.vars = p.vars) := by
  refine ⟨fun data hm name path hname hstrip => ⟨fun hpath => ?_, fun hpath hsystem hdated => ?_⟩,
    fun hm => hm.vars_eq ho hp⟩
  · exact hm.read_common ho hp h hname hpath hstrip
  · exact hm.read_own ho hp h hname hpath hstrip hsystem hdated

end

/-! ### Two forms in a loop -/

/-- The first form that is submitted to the run that waits. -/
def Message.firstForm : Message := submission [("a", .str "1"), ("b", .str "2")]

/-- The form that is submitted to it after that; it has one field only. -/
def Message.secondForm : Message := submission [("a", .str "3")]

theorem Message.secondForm_submits : secondForm.Submits [("a", .str "3")] where
  type := rfl
  kind := rfl
  response := rfl
  nodup := by decide

/-- The state in which the run waits again, after the first form. -/
def EngineState.submitted : EngineState :=
  (((Call.receive .firstForm).task .alone).run.run .silent Call.waiting.state []).state

theorem EngineState.reachable_submitted : submitted.Reachable :=
  reachable_waiting.called _ .alone .silent []

/-- The run waits at the same node again, with the answers of the first form, and the second form
resumes it. -/
structure Message.ResumesAgain (p : Pause) (d : Departure) (s : EngineState) : Prop where
  pause : EngineState.submitted.pauses.lookup "c" = some p
  node : p.node = "ask"
  own : p.vars.find? "ask.b" = some (.str "2")
  common : p.vars.find? "flow_response.b" = some (.str "2")
  opens : (Call.receive .secondForm).Opens .alone .submitted (.resumes d) s

theorem Message.exists_resumesAgain : ∃ p d s, ResumesAgain p d s := by
  obtain ⟨p, hp, hflow, hnode, hown, hcommon, hreply⟩ : ∃ p,
      EngineState.submitted.pauses.lookup "c" = some p ∧ p.flow = "f" ∧ p.node = "ask" ∧
      p.vars.find? "ask.b" = some (.str "2") ∧ p.vars.find? "flow_response.b" = some (.str "2") ∧
      replyTo EngineState.submitted.flows p secondForm =
        .ok (formReply "ask" [("a", .str "3")]) :=
    ⟨_, by with_unfolding_all rfl, rfl, rfl, by with_unfolding_all rfl, by with_unfolding_all rfl,
      by with_unfolding_all rfl⟩
  have hf : EngineState.submitted.flows.find? p.flow = some .waiting := by
    rw [hflow]
    with_unfolding_all rfl
  obtain ⟨id, s, h⟩ := exists_resumes_onward .alone hp hf Document.ofStored_waiting
    (formReply "ask" [("a", .str "3")])
  exact ⟨p, _, s, hp, hnode, hown, hcommon, .reply hp hreply h⟩

namespace Message.ResumesAgain

variable {p : Pause} {d : Departure} {s : EngineState}

theorem path_eq (h : ResumesAgain p d s) (name : String) :
    "ask" ++ "." ++ name = p.node ++ "." ++ name := by
  rw [h.node]

/-- The id of the node does not go on from the common name. -/
theorem node_ne (h : ResumesAgain p d s) (mid : String) :
    p.node ≠ "flow_response" ++ "." ++ mid := by
  rw [h.node]
  exact ne_below_of_dotless (by decide) "flow_response" mid

end Message.ResumesAgain

/-- After the second form its answer is read. -/
theorem answer_read_until_rewritten_second : ∃ p d s, ResumesAgain p d s ∧
    (d.journey.context .alone d.vars).scope.read "ask.a" = .ok (some (.str "3")) := by
  obtain ⟨p, d, s, h⟩ := exists_resumesAgain
  obtain ⟨-, hown⟩ := (answer_read_until_rewritten h.opens h.pause .start).1 _ secondForm_submits "a"
    "ask.a" (by decide) (by decide)
  obtain ⟨hread, -⟩ := hown (h.path_eq "a") rfl fun hasks => absurd hasks (by decide)
  exact ⟨p, d, s, h, hread h.node_ne⟩

/-- The second form does not have the second field, and yet this is read as the first form had it, behind
the id of the node as behind the common name. -/
theorem earlier_answer_still_read :
    EngineState.submitted.Reachable ∧ Message.firstForm.Delivered ∧ Message.secondForm.Delivered ∧
    Message.secondForm.Submits [("a", .str "3")] ∧
    ∃ p d s, ResumesAgain p d s ∧
      (d.journey.context .alone d.vars).scope.read "ask.b" = .ok (some (.str "2")) ∧
      (d.journey.context .alone d.vars).scope.read "flow_response.b" = .ok (some (.str "2")) := by
  obtain ⟨p, d, s, h⟩ := exists_resumesAgain
  have hfirst : Message.firstForm.Delivered :=
    ⟨submissionDelivery [("a", .str "1"), ("b", .str "2")], rfl⟩
  have hsecond : Message.secondForm.Delivered := ⟨submissionDelivery [("a", .str "3")], rfl⟩
  have hm := secondForm_submits
  have hdotless : '.' ∉ "b".toList := by decide
  refine ⟨EngineState.reachable_submitted, hfirst, hsecond, hm, p, d, s, h, ?_, ?_⟩
  · obtain ⟨hread, -⟩ := hm.read_own h.opens h.pause .start hdotless (h.path_eq "b") (by decide) rfl
      fun hasks => absurd hasks (by decide)
    exact (hread h.node_ne).trans (congrArg Except.ok h.own)
  · have hread := hm.read_common h.opens h.pause .start hdotless rfl (by decide)
    rw [h.node] at hread
    exact hread.trans (congrArg Except.ok h.common)

end ChatFlow
