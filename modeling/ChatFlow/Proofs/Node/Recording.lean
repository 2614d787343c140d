import ChatFlow.Proofs.Node.Delivering
import ChatFlow.Proofs.Node.Telling
import ChatFlow.Proofs.Variables.Descent

/-!
# The record of a node

After a node its record stands under its id: what it is, whether it did what it is for, what
went wrong, and what its handler told.  The handlers of the kinds tell nothing under the
names that every record has, so these mean the same in every record
(`Finding.recorded_result`).  All fields of a record can be read by the id of the node,
a dot and the name of the field (`record_readable_under_id`).
-/

namespace ChatFlow

/-- The names of the fields that every record has, and of its error. -/
def recordNames : List String :=
  ["nodeId", "nodeType", "executed", "success", "duration_ms", "error"]

/-- The output of a result is the record of a node. -/
structure Node.Recorded (n : Node) (r : NodeResult) : Prop where
  nodeId : r.output.find? "nodeId" = some (.str n.id)
  nodeType : r.output.find? "nodeType" = some (.str n.type)
  executed : r.output.find? "executed" = some (.bool true)
  success : r.output.find? "success" = some (.bool r.success)
  error : ∀ e, r.error = some e → e ≠ "" → r.output.find? "error" = some (.str e)

/-! ### The parts of a record -/

/-- What every record says of its node. -/
def recordHead (n : Node) : Entries Value :=
  [("nodeId", .str n.id), ("nodeType", .str n.type), ("executed", .bool true)]

/-- What a record says but for the error. -/
def recordBody (n : Node) (success : Bool) (output : Entries Value) : Entries Value :=
  Entries.merge (Entries.merge (recordHead n) output)
    [("success", .bool success), ("duration_ms", .int 0)]

section

variable {n : Node} {success : Bool} {error : Option String} {output : Entries Value}

theorem recordOf_eq (n : Node) (success : Bool) (error : Option String) (output : Entries Value) :
    recordOf n success error output = recordBody n success output ∨
      ∃ e, recordOf n success error output = (recordBody n success output).put "error" (.str e) := by
  cases error with
  | none => exact Or.inl rfl
  | some e =>
    by_cases he : e = ""
    · exact Or.inl (if_pos he)
    · exact Or.inr ⟨e, if_neg he⟩

theorem find?_recordOf {name : String} (h : name ≠ "error") :
    (recordOf n success error output).find? name = (recordBody n success output).find? name := by
  rcases recordOf_eq n success error output with heq | ⟨e, heq⟩
  · rw [heq]
  · rw [heq]
    exact Entries.find?_put_ne _ _ h

/-- What a record says of its node, no handler takes the place of. -/
theorem find?_recordOf_head {name : String} {value : Value}
    (hhead : (recordHead n).find? name = some value) (hname : name ∉ Finding.names)
    (hlater : name ∉ ["success", "duration_ms", "error"]) (houtput : Finding.Named output) :
    (recordOf n success error output).find? name = some value := by
  have herror : name ≠ "error" := by
    rintro rfl
    simp at hlater
  rw [find?_recordOf herror, recordBody, Entries.find?_merge_of_forall_ne,
    Entries.find?_merge_of_forall_ne, hhead]
  · rintro e he rfl
    exact hname (houtput e he)
  · rintro e he rfl
    have hnames : ∀ e ∈ [("success", Value.bool success), ("duration_ms", .int 0)],
        e.1 ∈ ["success", "duration_ms", "error"] := by simp
    exact hlater (hnames e he)

theorem find?_recordOf_success :
    (recordOf n success error output).find? "success" = some (.bool success) :=
  calc (recordOf n success error output).find? "success"
      = (recordBody n success output).find? "success" := find?_recordOf (by decide)
    _ = ((Entries.merge (recordHead n) output).put "success" (.bool success)).find? "success" :=
      Entries.find?_put_ne _ _ (by decide)
    _ = some (.bool success) := Entries.find?_put_self _ _ _

theorem find?_recordOf_error {e : String} (he : e ≠ "") :
    (recordOf n success (some e) output).find? "error" = some (.str e) := by
  have heq : recordOf n success (some e) output =
      (recordBody n success output).put "error" (.str e) := if_neg he
  rw [heq]
  exact Entries.find?_put_self _ _ _

/-- A record has no more fields than every record has and what the handler tells. -/
theorem mem_recordOf {e : String × Value} (he : e ∈ recordOf n success error output) :
    e.1 ∈ recordNames ∨ e ∈ output := by
  have hhead : ∀ e ∈ recordHead n, e.1 ∈ recordNames := by simp [recordHead, recordNames]
  have hlater : ∀ e ∈ [("success", Value.bool success), ("duration_ms", .int 0)],
      e.1 ∈ recordNames := by simp [recordNames]
  have hbody (h : e ∈ recordBody n success output) : e.1 ∈ recordNames ∨ e ∈ output := by
    rcases Entries.mem_merge h with h | h
    · exact Or.inl (hlater e h)
    · rcases Entries.mem_merge h with h | h
      · exact Or.inr h
      · exact Or.inl (hhead e h)
  rcases recordOf_eq n success error output with heq | ⟨e', heq⟩
  · exact hbody (heq ▸ he)
  · rw [heq] at he
    rcases Entries.mem_put he with rfl | he
    · exact Or.inl (by simp [recordNames])
    · exact hbody he

/-- All fields of a record can stand at the end of a path. -/
theorem endsPath_of_mem_recordOf (houtput : Finding.Named output) {e : String × Value}
    (he : e ∈ recordOf n success error output) : Scope.EndsPath e.1 := by
  have hknown : e.1 ∈ recordNames ++ Finding.names := by
    rcases mem_recordOf he with h | h
    · exact List.mem_append_left _ h
    · exact List.mem_append_right _ (houtput e h)
  have hdotless : ∀ name ∈ recordNames ++ Finding.names, '.' ∉ name.toList := by decide +kernel
  have hunblank : ∀ name ∈ recordNames ++ Finding.names,
      (name.toList.getLast?.any fun c => !Text.isBlank c) = true := by decide +kernel
  have hfree : ∀ name ∈ recordNames ++ Finding.names, name ∉ Scope.systemNames := by decide +kernel
  obtain ⟨c, hlast, hc⟩ := (Option.any_eq_true _ _).mp (hunblank _ hknown)
  exact ⟨hdotless _ hknown, ⟨c, hlast, by simpa using hc⟩, hfree _ hknown⟩

end

/-! ### The record of a finding -/

variable {n : Node} {g : Finding}

theorem Finding.recorded_result (h : Named g.output) : n.Recorded (g.result n) where
  nodeId := find?_recordOf_head rfl (by decide) (by decide) h
  nodeType := find?_recordOf_head rfl (by decide) (by decide) h
  executed := find?_recordOf_head rfl (by decide) (by decide) h
  success := find?_recordOf_success
  error e he hne := by
    have houtput : (g.result n).output = recordOf n g.success (some e) g.output :=
      congrArg (fun error => recordOf n g.success error g.output) he
    rw [houtput]
    exact find?_recordOf_error hne

theorem Node.Tells.named {exchanges : List Exchange} (h : n.Tells exchanges g) :
    Finding.Named g.output := by
  cases h with
  | skipped eq =>
    rw [eq]
    simp [Finding.skipped, Finding.Named, Finding.names]
  | failed eq =>
    rw [eq]
    simp [Finding.ofFailure, Finding.Named, Finding.names]
  | handled known filled told => exact told.named

/-- **A node can be read about under its id.**  Whatever the settings of the node and the replies of the
world are, and also if the node is of a type that nobody knows or its handler fails, the variable under
its id is the output of its result.  It says which node it is, whether it did what it is for, and what
went wrong.  Each of its fields is read by the id, a dot and the name of the field, if the id does not
begin with a blank, no variable has this whole name, and the clock shows a date if it is asked. -/
theorem record_readable_under_id (registered : Registered) (c : NodeContext) (n : Node)
    (hfails : registered.Fails n.type) (world : World) (s : Database.Address) (asked : List Query) :
    let x := (execute registered c n).run.run world s asked
    ∀ v, x.outcome = .inr v → ∃ r vars, v = .ok (r, vars) ∧
      vars.find? n.id = some (.object r.output) ∧ n.Recorded r ∧
      ∀ name value, r.output.find? name = some value → Text.Flush n.id →
        vars.find? (n.id ++ "." ++ name) = none →
        (Scope.asksClock (n.id ++ "." ++ name) = true → c.scope.locale.isDated = true) →
        (Scope.mk vars c.scope.locale).read (n.id ++ "." ++ name) = .ok (some value) := by
  intro x v hv
  have hrun : (execute registered c n).run.run world s asked = ⟨x.state, x.asked, .inr v⟩ := by
    rw [← hv]
  obtain ⟨exchanges, -, -, g, htells, rfl⟩ := (traces_told hfails).of_run hrun
  refine ⟨g.result n, g.vars n c.scope.vars, rfl, g.find?_vars_self n _,
    Finding.recorded_result htells.named, fun name value hfield hflush hfree hdated => ?_⟩
  have hname : Scope.EndsPath name :=
    endsPath_of_mem_recordOf htells.named (Entries.mem_of_find? hfield)
  exact Scope.read_field (g.find?_vars_self n _) hfield hflush hname hfree hdated

/-- A trigger whose id reads like the name of a system variable. -/
def Node.starting : Node := ⟨"system.start", "on_message", [], none, "", []⟩

/-- What a node can see at an instant, three hours east of universal time. -/
def NodeContext.eastward (now : Calendar.Instant) : NodeContext :=
  { NodeContext.sending with scope := ⟨[], ⟨now, "Africa/Addis_Ababa", ""⟩⟩ }

/-- A handler for triggers that only fails. -/
def Registered.failing : Registered :=
  [("on_message", fun _ _ _ => throw (.reported "no trigger"))]

theorem Registered.fails_failing : failing.Fails Node.starting.type := by
  intro handler h c n f
  obtain rfl := Option.some.inj h
  exact Task.ensures_throw _ _

/-- What comes of that node, which asks nothing. -/
def Node.started (registered : Registered) (now : Calendar.Instant) :
    Task.Progress Database.Address (Except Failure (NodeResult × Entries Value)) :=
  (execute registered (.eastward now) .starting).run.run .refusing none []

/-- The error of the failed trigger is read under its id, since the clock that is asked on the way shows
a date. -/
theorem record_readable_under_id_failing : ∃ r vars,
    (Node.started .failing ⟨0⟩).outcome = .inr (.ok (r, vars)) ∧ r.success = false ∧
      (Scope.mk vars (NodeContext.eastward ⟨0⟩).scope.locale).read "system.start.error" =
        .ok (some (.str "no trigger")) := by
  obtain ⟨r, vars, hrun, hs, herror, hfree⟩ : ∃ r vars,
      (Node.started .failing ⟨0⟩).outcome = .inr (.ok (r, vars)) ∧ r.success = false ∧
        r.error = some "no trigger" ∧ vars.find? "system.start.error" = none :=
    ⟨_, _, by with_unfolding_all rfl, rfl, rfl, by with_unfolding_all rfl⟩
  obtain ⟨r', vars', hr, -, hrecorded, hread⟩ := record_readable_under_id .failing (.eastward ⟨0⟩)
    .starting Registered.fails_failing .refusing none [] _ hrun
  obtain ⟨rfl, rfl⟩ := Prod.mk.inj (Except.ok.inj hr)
  have hdated : (NodeContext.eastward ⟨0⟩).scope.locale.isDated = true := by
    with_unfolding_all rfl
  have hflush : Text.Flush "system.start" := by
    intro c hc
    obtain rfl := Option.some.inj hc
    decide
  exact ⟨r, vars, hrun, hs, hread "error" _ (hrecorded.error _ herror (by decide)) hflush hfree
    fun _ => hdated⟩

/-- The last second of the last year in universal time, which is past it three hours to the east. -/
def Calendar.Instant.last : Calendar.Instant := .ofSeconds 253402300799

/-- At that instant the record of the trigger is there, its id does not begin with a blank and no other
variable is in the way, and yet its field cannot be read. -/
theorem record_unreadable_without_date : ∃ r vars,
    (Node.started [] .last).outcome = .inr (.ok (r, vars)) ∧
      vars.find? "system.start" = some (.object r.output) ∧
      r.output.find? "triggered" = some (.bool true) ∧ Text.Flush "system.start" ∧
      vars.find? "system.start.triggered" = none ∧
      (Scope.mk vars (NodeContext.eastward .last).scope.locale).read "system.start.triggered" =
        .error .noDate := by
  refine ⟨_, _, by with_unfolding_all rfl, by with_unfolding_all rfl, by with_unfolding_all rfl,
    fun c hc => ?_, by with_unfolding_all rfl, by with_unfolding_all rfl⟩
  obtain rfl := Option.some.inj hc
  decide

end ChatFlow
