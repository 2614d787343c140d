import ChatFlow.Proofs.Document.Targets
import ChatFlow.Proofs.Form
import ChatFlow.Proofs.Node.Steering

/-!
# What a branching node chooses

The conditions of a branching node are tried in their order, and the first one that holds
chooses its target; if none does, the default target is chosen (`Control.Chooses`).  What
stands behind the condition that chooses is not even looked at.  In settings that can be
read all targets are texts, so as long as every condition can be told to hold or not there
is a choice (`Control.exists_chooses`), and the node does nothing but follow it
(`findOut_branching`).
-/

namespace ChatFlow

/-- With these variables a branching node chooses this target: that of the first condition that holds,
else the default one. -/
inductive Control.Chooses (scope : Scope) (f : Filled) (target : String) : Prop
  | first {before after : List Condition.Test} {test : Condition.Test}
      (tests : Control.tests f = before ++ test :: after)
      (fail : ∀ other ∈ before, other.holds scope = .ok false)
      (holds : test.holds scope = .ok true) (next : test.next = .str target)
  | default (fail : ∀ test ∈ Control.tests f, test.holds scope = .ok false)
      (next : f.get "default_next" = .str target)

/-! ### The search for a condition that holds -/

namespace Condition

variable {scope : Scope} {default_ : Value} {tests before after : List Test} {test : Test}

/-- Conditions that do not hold are passed over. -/
theorem select_skip (h : ∀ t ∈ before, t.holds scope = .ok false) :
    select scope default_ (before ++ tests) = select scope default_ tests := by
  induction before with
  | nil => rfl
  | cons t rest ih =>
    obtain ⟨ht, hrest⟩ := List.forall_mem_cons.mp h
    simp only [List.cons_append, select, ht]
    exact ih hrest

theorem select_of_forall (h : ∀ t ∈ tests, t.holds scope = .ok false) :
    select scope default_ tests = .ok (target? default_) := by
  rw [← List.append_nil tests, select_skip h]
  rfl

theorem select_append (hfail : ∀ t ∈ before, t.holds scope = .ok false)
    (hholds : test.holds scope = .ok true) :
    select scope default_ (before ++ test :: after) = .ok (target? test.next) := by
  rw [select_skip hfail]
  simp only [select, hholds]
  rfl

/-- No condition holds, or there is a first one of which it is not said that it does not hold. -/
theorem none_or_first (scope : Scope) (tests : List Test) :
    (∀ t ∈ tests, t.holds scope = .ok false) ∨
    ∃ before test after, tests = before ++ test :: after ∧
      (∀ t ∈ before, t.holds scope = .ok false) ∧ test.holds scope ≠ .ok false := by
  induction tests with
  | nil => exact Or.inl (List.forall_mem_nil _)
  | cons t rest ih =>
    by_cases ht : t.holds scope = .ok false
    · rcases ih with hfail | ⟨before, test, after, rfl, hfail, htest⟩
      · exact Or.inl (List.forall_mem_cons.mpr ⟨ht, hfail⟩)
      · exact Or.inr
          ⟨t :: before, test, after, rfl, List.forall_mem_cons.mpr ⟨ht, hfail⟩, htest⟩
    · exact Or.inr ⟨[], t, rest, rfl, List.forall_mem_nil _, ht⟩

/-- Where all conditions can be told to hold or not, one is the first that holds, or none does. -/
theorem first_or_none (h : ∀ t ∈ tests, ∃ b, t.holds scope = .ok b) :
    (∃ before test after, tests = before ++ test :: after ∧
      (∀ t ∈ before, t.holds scope = .ok false) ∧ test.holds scope = .ok true) ∨
    ∀ t ∈ tests, t.holds scope = .ok false := by
  rcases none_or_first scope tests with hfail | ⟨before, test, after, rfl, hfail, htest⟩
  · exact Or.inr hfail
  · obtain ⟨b, hb⟩ := h test (List.mem_append_right before List.mem_cons_self)
    cases b with
    | true => exact Or.inl ⟨before, test, after, rfl, hfail, hb⟩
    | false => exact absurd hb htest

/-- A target that is not empty leads somewhere. -/
theorem target?_str {s : String} (h : s ≠ "") : target? (.str s) = some (.str s) :=
  if_pos (decide_eq_true h)

end Condition

/-! ### Settings that can be read -/

section

variable {c : NodeContext} {n : Node} {f : Filled} {target : String}

theorem Node.fill_of_branch (ht : n.type = "conditional") (hf : n.filled = .ok f) :
    Forms.branch.fill n.config = .ok f := by
  have hfill := fill_of_filled hf
  rwa [ht] at hfill

/-- The default target is a text. -/
theorem Control.exists_default (ht : n.type = "conditional") (hf : n.filled = .ok f) :
    ∃ s, f.get "default_next" = .str s := by
  have hfield : Entries.find? Forms.branch "default_next" =
      some (["default_next", "defaultNext"], .text, .str "") := rfl
  rcases Form.get_of_fill (n.fill_of_branch ht hf) hfield with h | ⟨w, hw⟩
  · exact ⟨"", h⟩
  · exact FieldKind.exists_of_fit?_text hw

/-- The conditions were each read by their form. -/
theorem Control.exists_object (ht : n.type = "conditional") (hf : n.filled = .ok f)
    {fields : Entries Value} (h : fields ∈ f.objects "conditions") :
    ∃ v w, Filled.object? (FieldKind.read Forms.condition) v = some w ∧ fields = w.fields := by
  have hfield : Entries.find? Forms.branch "conditions" =
      some (["conditions"], .nested Forms.condition, .list []) := rfl
  unfold Filled.objects at h
  rcases Form.get_of_fill (n.fill_of_branch ht hf) hfield with hget | ⟨w, hw⟩
  · rw [hget] at h
    cases h
  · cases w with
    | list items =>
      rw [FieldKind.fit?] at hw
      obtain ⟨read, hread, hget⟩ := Option.map_eq_some_iff.mp hw
      rw [← hget] at h
      obtain ⟨w, hmem, rfl⟩ := List.mem_map.mp h
      obtain ⟨v, -, hv⟩ := mem_of_allOf hread hmem
      exact ⟨v, w, hv, rfl⟩
    | _ => simp [FieldKind.fit?] at hw

/-- The target of every condition is a text. -/
theorem Control.exists_next (ht : n.type = "conditional") (hf : n.filled = .ok f)
    {test : Condition.Test} (htest : test ∈ Control.tests f) : ∃ s, test.next = .str s := by
  have hfield : Entries.find? Forms.condition "next" = some (["next"], .text, .str "") := rfl
  obtain ⟨fields, hfields, rfl⟩ := List.mem_map.mp htest
  obtain ⟨v, w, hread, rfl⟩ := exists_object ht hf hfields
  obtain ⟨x, hx, hkind⟩ := Filled.object?_eq_some hread hfield
  have hnext : (Condition.Test.ofFields w.fields).next = x := congrArg Value.ofOption hx
  rw [hnext]
  rcases hkind with rfl | ⟨y, hy⟩
  · exact ⟨"", rfl⟩
  · exact FieldKind.exists_of_fit?_text hy

/-- As long as every condition can be told to hold or not, a target is chosen. -/
theorem Control.exists_chooses (ht : n.type = "conditional") (hf : n.filled = .ok f) {scope : Scope}
    (h : ∀ test ∈ Control.tests f, ∃ b, test.holds scope = .ok b) :
    ∃ target, Control.Chooses scope f target := by
  rcases Condition.first_or_none h with ⟨before, test, after, htests, hfail, hholds⟩ | hfail
  · have hmem : test ∈ Control.tests f := by
      rw [htests]
      exact List.mem_append_right before List.mem_cons_self
    obtain ⟨s, hs⟩ := exists_next ht hf hmem
    exact ⟨s, .first htests hfail hholds hs⟩
  · obtain ⟨s, hs⟩ := exists_default ht hf
    exact ⟨s, .default hfail hs⟩

theorem Control.Chooses.chosen (h : Control.Chooses c.scope f target) :
    Control.chosen c f = .ok (Condition.target? (.str target)) := by
  unfold Control.chosen
  cases h with
  | first tests fail holds next => rw [tests, Condition.select_append fail holds, next]
  | default fail next => rw [Condition.select_of_forall fail, next]

/-! ### The choice is followed -/

/-- What is found out about a branching node that chooses a target. -/
def Finding.branching (d : Document) (n : Node) (target : String) : Finding :=
  match d.branchTarget n.id target with
  | some v => { output := [("matched", .str target), ("nextNode", .str v)], next := some v }
  | none => { output := [("matched", .null)], stop := true }

theorem Control.branch_eq (h : Control.Chooses c.scope f target) :
    Control.branch c n f = pure (Finding.branching c.document n target) := by
  unfold Control.branch Finding.branching
  rw [h.chosen, Task.attempt_ok_bind]
  by_cases hempty : target = ""
  · subst hempty
    rfl
  · rw [Condition.target?_str hempty]
    simp only [Value.ofOption, Value.text?, Option.getD_some]
    cases c.document.branchTarget n.id target <;> rfl

variable {registered : Registered}

theorem findOut_branching (hr : registered.find? "conditional" = none) (ht : n.type = "conditional")
    (hf : n.filled = .ok f) (h : Control.Chooses c.scope f target) :
    findOut registered c n = pure (Finding.branching c.document n target) := by
  unfold findOut
  have hhandler : handlerOf? registered n.type = some Control.branch := by
    rw [handlerOf?, ht, hr]
    rfl
  have hhandled : handled Control.branch c n = pure (Finding.branching c.document n target) := by
    unfold handled
    rw [hf, Task.attempt_ok_bind, Control.branch_eq h]
    unfold Finding.branching
    cases c.document.branchTarget n.id target <;> rfl
  rw [hhandler]
  simp only [hhandled]
  rfl

end

end ChatFlow
