import ChatFlow.Node.Execute
import ChatFlow.Proofs.Outside.Task

/-!
# How a node steers the run

After a node the run waits, ends, goes on at a node that the finding names, or
goes on along the edges of the document.  Which of these it may be is a matter of
the kind of the node (`ensures_steers`).  Executing a node never fails: what a
handler raises becomes a finding as well (`always_execute`).

A node whose type is none of `NodeKind.steeringTypes` is plain: whatever it does and
whatever comes of it, the run goes on along the edges (`Node.Steers.passes`).
-/

namespace ChatFlow

/-- What nodes of a kind wait for. -/
def NodeKind.awaited? : NodeKind → Option Awaited
  | buttons => some .button
  | list => some .list
  | form => some .form
  | waitForReply => some .message
  | _ => none

/-- What a node waits for, by its type. -/
def Node.awaited? (n : Node) : Option Awaited := (NodeKind.ofType? n.type).bind NodeKind.awaited?

/-- The types of the nodes that choose where the run goes on, end it, or wait for a reply. -/
def NodeKind.steeringTypes : List String :=
  ["conditional", "end", "send_button", "button_message", "send_list", "list_message", "send_flow",
   "wait_for_reply"]

/-- A node of any other type, be it known or not. -/
def Node.Plain (n : Node) : Prop := n.type ∉ NodeKind.steeringTypes

namespace Finding

/-- After this finding the run goes on along the edges of the document. -/
structure Passes (g : Finding) : Prop where
  awaited : g.awaited = none
  next : g.next = none
  stop : g.stop = false

/-- After this finding the run waits for a reply if the node did what it is for, and ends if not. -/
structure Waits (a : Awaited) (g : Finding) : Prop where
  next : g.next = none
  waits : g.success = true → g.awaited = some a ∧ g.stop = false
  ends : g.success = false → g.awaited = none ∧ g.stop = true

/-- After this finding the run goes on where the target chosen by the settings leads, and ends if it
leads nowhere. -/
structure Branches (c : NodeContext) (n : Node) (f : Filled) (g : Finding) : Prop where
  awaited : g.awaited = none
  next : ∃ target, Control.chosen c f = .ok target ∧
    g.next = c.document.branchTarget n.id ((Value.ofOption target).text?.getD "")
  stop : g.stop = g.next.isNone

/-- After this finding the run ends. -/
structure Ends (g : Finding) : Prop where
  awaited : g.awaited = none
  next : g.next = none
  stop : g.stop = true

end Finding

/-- How a node of a kind, with these settings, steers the run if its handler does not fail. -/
def NodeKind.Steers (kind : NodeKind) (c : NodeContext) (n : Node) (f : Filled) (g : Finding) :
    Prop :=
  match kind.awaited?, kind with
  | some a, _ => g.Waits a
  | none, branch => g.Branches c n f
  | none, stop => g.Ends
  | none, _ => g.Passes

variable (c : NodeContext) (n : Node) (f : Filled)

/-! ### Messages -/

theorem passes_missing (output : Entries Value) (reason : String) :
    (Finding.missing output reason false).Passes := ⟨rfl, rfl, rfl⟩

theorem passes_plain (output : Entries Value) (d : WhatsApp.Delivery) :
    (Send.plain output d).Passes := ⟨rfl, rfl, rfl⟩

/-- A finding that waits, of a node that did what it is for. -/
theorem Finding.Waits.of_success {a : Awaited} {g : Finding} (hs : g.success = true)
    (ha : g.awaited = some a) (hn : g.next = none) (ht : g.stop = false) : g.Waits a where
  next := hn
  waits _ := ⟨ha, ht⟩
  ends h := by
    rw [hs] at h
    cases h

/-- A finding that ends the run, of a node that did not do what it is for. -/
theorem Finding.Waits.of_failure {a : Awaited} {g : Finding} (hs : g.success = false)
    (ha : g.awaited = none) (hn : g.next = none) (ht : g.stop = true) : g.Waits a where
  next := hn
  waits h := by
    rw [hs] at h
    cases h
  ends _ := ⟨ha, ht⟩

theorem waits_missing (a : Awaited) (output : Entries Value) (reason : String) :
    (Finding.missing output reason true).Waits a := .of_failure rfl rfl rfl rfl

theorem waits_interactive (a : Awaited) (output : Entries Value) (d : WhatsApp.Delivery) :
    (Send.interactive a output d).Waits a := by
  unfold Send.interactive
  cases d.success
  · exact .of_failure rfl rfl rfl rfl
  · exact .of_success rfl rfl rfl rfl

theorem passes_text : Task.Ensures Finding.Passes (Send.text c n f) := by
  unfold Send.text
  refine Task.ensures_then fun text => ?_
  dsimp only
  split <;> simp [passes_missing, passes_plain]

theorem passes_media : Task.Ensures Finding.Passes (Send.media c n f) := by
  unfold Send.media
  refine Task.ensures_then fun url => ?_
  refine Task.ensures_then fun caption => ?_
  dsimp only
  split <;> simp [passes_missing, passes_plain]

theorem passes_callToAction : Task.Ensures Finding.Passes (Send.callToAction c n f) := by
  unfold Send.callToAction
  refine Task.ensures_then fun body => ?_
  refine Task.ensures_then fun label => ?_
  refine Task.ensures_then fun url => ?_
  dsimp only
  split <;> simp [passes_missing, passes_plain]

theorem passes_template : Task.Ensures Finding.Passes (Send.template c n f) := by
  unfold Send.template
  refine Task.ensures_then fun name => ?_
  dsimp only
  split <;> simp [passes_missing, passes_plain]

theorem passes_location : Task.Ensures Finding.Passes (Send.location c n f) := by
  unfold Send.location
  refine Task.ensures_then fun latitude => ?_
  refine Task.ensures_then fun longitude => ?_
  refine Task.ensures_then fun name => ?_
  refine Task.ensures_then fun address => ?_
  dsimp only
  split
  · split <;> simp [passes_missing, passes_plain]
  · simp [passes_missing]

theorem passes_requestLocation : Task.Ensures Finding.Passes (Send.requestLocation c n f) := by
  unfold Send.requestLocation
  refine Task.ensures_then fun body => ?_
  dsimp only
  split <;> simp [passes_missing, passes_plain]

theorem waits_buttons : Task.Ensures (Finding.Waits .button) (Send.buttons c n f) := by
  unfold Send.buttons
  refine Task.ensures_then fun body => ?_
  refine Task.ensures_then fun items => ?_
  dsimp only
  split <;> simp [waits_missing, waits_interactive]

theorem waits_list : Task.Ensures (Finding.Waits .list) (Send.list c n f) := by
  unfold Send.list
  refine Task.ensures_then fun body => ?_
  refine Task.ensures_then fun sections => ?_
  dsimp only
  split <;> simp [waits_missing, waits_interactive]

theorem waits_form : Task.Ensures (Finding.Waits .form) (Send.form c n f) := by
  unfold Send.form
  refine Task.ensures_then fun formId => ?_
  refine Task.ensures_then fun header => ?_
  refine Task.ensures_then fun body => ?_
  dsimp only
  split <;> simp [waits_missing, waits_interactive]

theorem waits_waitForReply : Task.Ensures (Finding.Waits .message) (Send.waitForReply c n f) := by
  unfold Send.waitForReply
  refine Task.ensures_then fun prompt => ?_
  simp only [Task.ensures_ite]
  refine ⟨fun _ => ?_, fun _ => ?_⟩
  · -- without a question there is nothing to send that could fail
    exact Task.Ensures.pure (.of_success rfl rfl rfl rfl)
  · split <;> simp [waits_missing, waits_interactive]

/-! ### Steering -/

theorem passes_trigger : Task.Ensures Finding.Passes (Control.trigger c n f) :=
  Task.Ensures.pure ⟨rfl, rfl, rfl⟩

theorem passes_delay : Task.Ensures Finding.Passes (Control.delay c n f) := by
  exact Task.ensures_then fun _ => Task.Ensures.pure ⟨rfl, rfl, rfl⟩

theorem branches_branch : Task.Ensures (Finding.Branches c n f) (Control.branch c n f) := by
  unfold Control.branch
  rw [Task.ensures_bind, Task.ensures_attempt]
  intro target ht
  simp only
  split
  · rename_i next hn
    exact Task.Ensures.pure ⟨rfl, ⟨target, ht, hn.symm⟩, rfl⟩
  · rename_i hn
    exact Task.Ensures.pure ⟨rfl, ⟨target, ht, hn.symm⟩, rfl⟩

theorem ends_stop : Task.Ensures Finding.Ends (Control.stop c n f) := by
  unfold Control.stop
  refine Task.ensures_then fun text => ?_
  dsimp only
  split
  · refine (Task.ensures_ite _ _ _ _).mpr ⟨fun _ => ?_, fun _ => Task.ensures_then fun d => ?_⟩
    · exact Task.Ensures.pure ⟨rfl, rfl, rfl⟩
    · exact Task.Ensures.pure ⟨rfl, rfl, rfl⟩
  · exact Task.Ensures.pure ⟨rfl, rfl, rfl⟩

/-! ### Services -/

theorem passes_http : Task.Ensures Finding.Passes (Services.http c n f) := by
  refine Task.ensures_then fun method => Task.ensures_then fun url => ?_
  refine Task.ensures_then fun headers => Task.ensures_then fun credentials => ?_
  refine Task.ensures_then fun headers => Task.ensures_then fun body => ?_
  refine Task.ensures_then fun exchange => ?_
  cases exchange <;> exact Task.Ensures.pure ⟨rfl, rfl, rfl⟩

theorem passes_webhook : Task.Ensures Finding.Passes (Services.webhook c n f) := by
  refine Task.ensures_then fun url => Task.ensures_then fun headers => ?_
  refine Task.ensures_then fun body => Task.ensures_then fun exchange => ?_
  cases exchange <;> exact Task.Ensures.pure ⟨rfl, rfl, rfl⟩

theorem passes_sheet : Task.Ensures Finding.Passes (Services.sheet c n f) := by
  refine Task.ensures_then fun values => Task.ensures_then fun spreadsheet => ?_
  refine Task.ensures_then fun sheet => Task.ensures_then fun range => ?_
  refine Task.ensures_then fun writing => ?_
  cases writing <;> exact Task.Ensures.pure ⟨rfl, rfl, rfl⟩

theorem passes_completion : Task.Ensures Finding.Passes (Services.completion c n f) := by
  refine Task.ensures_then fun prompt => Task.ensures_then fun instructions => ?_
  refine Task.ensures_then fun completed => ?_
  cases completed <;> exact Task.Ensures.pure ⟨rfl, rfl, rfl⟩

theorem passes_email : Task.Ensures Finding.Passes (Services.email c n f) := by
  refine Task.ensures_then fun recipient => Task.ensures_then fun subject => ?_
  refine Task.ensures_then fun body => Task.ensures_then fun senderName => ?_
  refine Task.ensures_then fun posting => ?_
  cases posting <;> exact Task.Ensures.pure ⟨rfl, rfl, rfl⟩

theorem passes_database : Task.Ensures Finding.Passes (Services.database c n f) := by
  refine Task.ensures_then fun filters => Task.ensures_then fun answer => ?_
  cases answer <;> exact Task.Ensures.pure ⟨rfl, rfl, rfl⟩

theorem passes_transform : Task.Ensures Finding.Passes (Services.transform c n f) := by
  unfold Services.transform
  simp only
  split
  · exact Task.Ensures.pure ⟨rfl, rfl, rfl⟩
  · exact Task.ensures_throw _ _
  · exact Task.Ensures.pure ⟨rfl, rfl, rfl⟩

/-! ### All kinds -/

/-- Every handler steers the run as its kind does. -/
theorem ensures_steers (kind : NodeKind) :
    Task.Ensures (kind.Steers c n f) (kind.handler c n f) := by
  cases kind with
  | trigger => exact passes_trigger c n f
  | message => exact passes_text c n f
  | media => exact passes_media c n f
  | callToAction => exact passes_callToAction c n f
  | template => exact passes_template c n f
  | location => exact passes_location c n f
  | requestLocation => exact passes_requestLocation c n f
  | buttons => exact waits_buttons c n f
  | list => exact waits_list c n f
  | form => exact waits_form c n f
  | waitForReply => exact waits_waitForReply c n f
  | delay => exact passes_delay c n f
  | http => exact passes_http c n f
  | webhook => exact passes_webhook c n f
  | branch => exact branches_branch c n f
  | sheet => exact passes_sheet c n f
  | completion => exact passes_completion c n f
  | email => exact passes_email c n f
  | database => exact passes_database c n f
  | transform => exact passes_transform c n f
  | stop => exact ends_stop c n f

/-! ### Nodes -/

/-- How a node steers the run: one of a type that nobody knows is passed over, one whose handler
fails ends the run if it would have waited, and any other steers the run as its kind does. -/
inductive Node.Steers (c : NodeContext) (n : Node) (g : Finding) : Prop
  | skipped (unknown : NodeKind.ofType? n.type = none) (passes : g.Passes)
  | failed {kind : NodeKind} (known : NodeKind.ofType? n.type = some kind)
      (success : g.success = false) (awaited : g.awaited = none) (next : g.next = none)
      (stop : g.stop = kind.suspends)
  | handled {kind : NodeKind} {f : Filled} (known : NodeKind.ofType? n.type = some kind)
      (filled : n.filled = .ok f) (steers : kind.Steers c n f g)

theorem ensures_handled (kind : NodeKind) :
    Task.Ensures (fun g => ∃ f, n.filled = .ok f ∧ kind.Steers c n f g)
      (handled kind.handler c n) := by
  unfold handled
  rw [Task.ensures_bind, Task.ensures_attempt]
  intro f hf
  refine (Task.ensures_bind _ _ _).mpr ?_
  refine (ensures_steers c n f kind).mono fun g hg => Task.ensures_then fun _ => ?_
  exact Task.Ensures.pure ⟨f, hf, hg⟩

theorem always_findOut : Task.Always (n.Steers c) (findOut [] c n) := by
  unfold findOut
  cases hk : NodeKind.ofType? n.type with
  | none =>
    simp only [handlerOf?, hk]
    exact Task.Always.pure (.skipped hk ⟨rfl, rfl, rfl⟩)
  | some kind =>
    simp only [handlerOf?, hk]
    refine (Task.always_bind _ _ _).mpr ((ensures_handled c n kind).always.mono fun r hr => ?_)
    cases r with
    | error e =>
      refine Task.Always.pure (.failed hk rfl rfl rfl ?_)
      simp [Finding.ofFailure, typeSuspends, hk]
    | ok g =>
      obtain ⟨f, hf, hg⟩ := hr g rfl
      exact Task.Always.pure (.handled hk hf hg)

/-- Executing a node never fails, and what is found out steers the run. -/
theorem always_execute :
    Task.Always (fun r => ∃ g, n.Steers c g ∧ r = .ok (g.result n, g.vars n c.scope.vars))
      (execute [] c n).run := by
  unfold execute
  rw [Task.run_lift_bind, Task.always_bind]
  exact (always_findOut c n).mono fun g hg => Task.Always.pure ⟨g, hg, rfl⟩

variable {c n f} {g : Finding}

theorem NodeKind.Steers.awaited {kind : NodeKind} {a : Awaited} (h : kind.Steers c n f g)
    (ha : g.awaited = some a) : kind.awaited? = some a ∧ g.success = true := by
  unfold NodeKind.Steers at h
  split at h
  · rename_i b hb
    cases hs : g.success with
    | true =>
      rw [(h.waits hs).1] at ha
      exact ⟨hb.trans ha, rfl⟩
    | false =>
      rw [(h.ends hs).1] at ha
      cases ha
  · rw [h.awaited] at ha
    cases ha
  · rw [h.awaited] at ha
    cases ha
  · rw [h.awaited] at ha
    cases ha

/-- A node waits only for what its type waits for, and only if it did what it is for. -/
theorem Node.Steers.awaited {a : Awaited} (h : n.Steers c g) (ha : g.awaited = some a) :
    n.awaited? = some a ∧ g.success = true := by
  cases h with
  | skipped unknown passes =>
    rw [passes.awaited] at ha
    cases ha
  | failed known success awaited next stop =>
    rw [awaited] at ha
    cases ha
  | handled known filled steers =>
    obtain ⟨hk, hs⟩ := steers.awaited ha
    exact ⟨by rw [Node.awaited?, known]; exact hk, hs⟩

theorem NodeKind.Steers.next {kind : NodeKind} {v : String} (h : kind.Steers c n f g)
    (hv : g.next = some v) : kind = .branch ∧ g.Branches c n f := by
  unfold NodeKind.Steers at h
  split at h
  · rw [h.next] at hv
    cases hv
  · exact ⟨rfl, h⟩
  · rw [h.next] at hv
    cases hv
  · rw [h.next] at hv
    cases hv

/-- Only a branching node says itself where the run goes on. -/
theorem Node.Steers.next {v : String} (h : n.Steers c g) (hv : g.next = some v) :
    NodeKind.ofType? n.type = some .branch ∧ ∃ f, n.filled = .ok f ∧ g.Branches c n f := by
  cases h with
  | skipped unknown passes =>
    rw [passes.next] at hv
    cases hv
  | failed known success awaited next stop =>
    rw [next] at hv
    cases hv
  | handled known filled steers =>
    obtain ⟨rfl, hb⟩ := steers.next hv
    exact ⟨known, _, filled, hb⟩

/-! ### Plain nodes -/

theorem NodeKind.mem_types {type : String} {kind : NodeKind} (h : ofType? type = some kind) :
    (type, kind) ∈ types := by
  obtain ⟨before, after, ht, -⟩ := List.lookup_eq_some_iff.mp h
  rw [ht]
  exact List.mem_append_right before List.mem_cons_self

/-- A kind of which nodes neither wait nor choose nor end the run. -/
def NodeKind.Plain (kind : NodeKind) : Prop :=
  kind.awaited? = none ∧ kind ≠ branch ∧ kind ≠ stop ∧ kind.suspends = false

theorem Node.Plain.kind {kind : NodeKind} (hn : n.Plain)
    (h : NodeKind.ofType? n.type = some kind) : kind.Plain := by
  have htypes : ∀ entry ∈ NodeKind.types, entry.1 ∉ NodeKind.steeringTypes → entry.2.Plain := by
    unfold NodeKind.Plain
    decide
  exact htypes _ (NodeKind.mem_types h) hn

theorem NodeKind.Steers.passes {kind : NodeKind} (h : kind.Steers c n f g) (hk : kind.Plain) :
    g.Passes := by
  obtain ⟨ha, hb, hs, -⟩ := hk
  unfold NodeKind.Steers at h
  split at h
  · rename_i a hsome
    rw [ha] at hsome
    cases hsome
  · exact absurd rfl hb
  · exact absurd rfl hs
  · exact h

/-- After a plain node the run goes on along the edges, also if its handler has failed. -/
theorem Node.Steers.passes (h : n.Steers c g) (hn : n.Plain) : g.Passes := by
  cases h with
  | skipped unknown passes => exact passes
  | failed known success awaited next stop =>
    obtain ⟨-, -, -, hsuspends⟩ := hn.kind known
    exact ⟨awaited, next, stop.trans hsuspends⟩
  | handled known filled steers => exact steers.passes (hn.kind known)

end ChatFlow
