import ChatFlow.Condition.Branch
import ChatFlow.Proofs.Condition.Laws
import ChatFlow.Proofs.Decimal.Whole

/-!
# When a condition cannot be told

There are two ways.  A whole number that is too large for a double cannot be compared as
one: so comparing fails where the number of such an operand is needed, and nowhere else
(`compare_eq_error_iff`).  And a condition that asks for a system variable fails where the
clock shows an instant without a date.  All other conditions hold or do not hold
(`Test.holds_eq_error_iff`).
-/

namespace ChatFlow.Condition

/-- A whole number that is too large for a double. -/
def Oversized : Operand → Prop
  | some (.int n) => Decimal.leastTooLarge ≤ n.natAbs
  | _ => False

/-- One of two operands is too large for a double, and the operator compares by numbers: equality
does unless an operand is null or not set at all, and the order operators always do. -/
def Overflows (op : String) (a b : Operand) : Prop :=
  (Oversized a ∨ Oversized b) ∧
    (op ∈ [">", "<", ">=", "<="] ∨ op ∈ ["==", "!="] ∧ isAbsent a = false ∧ isAbsent b = false)

variable {same : Bool} {a b : Operand} {op : String} {e : Failure}

/-! ### One operand -/

theorem number_eq_error_iff : number a = .error e ↔ Oversized a ∧ e = .tooLarge := by
  cases a with
  | none => simp [number, Oversized]
  | some v =>
    cases v with
    | int n =>
      rw [Oversized, ← Decimal.ofInt?_eq_none_iff]
      cases h : Decimal.ofInt? n with
      | none => simp [number, h, eq_comm]
      | some x => simp [number, h]
    | _ => simp [number, Oversized]

/-- An operand that is too large is a whole number, and no text, truth value or collection. -/
theorem Oversized.exists_int (h : Oversized a) : ∃ n, a = some (.int n) := by
  unfold Oversized at h
  split at h
  · exact ⟨_, rfl⟩
  · exact h.elim

theorem isCollection_of_oversized (h : Oversized a) : isCollection a = false := by
  obtain ⟨n, rfl⟩ := h.exists_int
  rfl

/-! ### Two operands -/

/-- Two numbers are needed, and one of them cannot be had. -/
theorem numbers_eq_error_iff {α : Type} (f : Float → Float → α) :
    (do return f (← number a) (← number b) : Except Failure α) = .error e ↔
      (Oversized a ∨ Oversized b) ∧ e = .tooLarge := by
  have hleft := @number_eq_error_iff a
  have hright := @number_eq_error_iff b
  cases ha : number a with
  | error e' =>
    obtain ⟨hsize, rfl⟩ := hleft.mp ha
    simp [hsize, bind, Except.bind, eq_comm]
  | ok x =>
    have hsize : ¬ Oversized a := fun h => by
      rw [hleft.mpr ⟨h, rfl⟩] at ha
      cases ha
    cases hb : number b with
    | error e' =>
      obtain ⟨hsize', rfl⟩ := hright.mp hb
      simp [hsize', bind, Except.bind, eq_comm]
    | ok y =>
      have hsize' : ¬ Oversized b := fun h => by
        rw [hright.mpr ⟨h, rfl⟩] at hb
        cases hb
      simp [hsize, hsize', bind, Except.bind, pure, Except.pure]

theorem oversized_scalar : Oversized (scalar a) ↔ Oversized a := by
  rcases a with _ | _ | _ | _ | _ | _ | _ | _ <;> rfl

theorem scalarEquals_eq_error_iff :
    scalarEquals a b = .error e ↔ (Oversized a ∨ Oversized b) ∧ e = .tooLarge := by
  unfold scalarEquals
  split
  case h_1 => simp [Oversized]
  case h_2 => simp [Oversized]
  case h_3 => exact numbers_eq_error_iff _

theorem looseEquals_eq_error_iff : looseEquals same a b = .error e ↔
    (Oversized a ∨ Oversized b) ∧ isAbsent a = false ∧ isAbsent b = false ∧ e = .tooLarge := by
  unfold looseEquals
  split
  case isTrue habsent =>
    rcases Bool.or_eq_true_iff.mp habsent with h | h <;> simp [h]
  case isFalse habsent =>
    obtain ⟨ha, hb⟩ := Bool.or_eq_false_iff.mp (Bool.eq_false_iff.mpr habsent)
    split
    case isTrue hcollection =>
      have hsize : ¬ (Oversized a ∨ Oversized b) := by
        rintro (h | h) <;> simp [isCollection_of_oversized h] at hcollection
      simp [hsize]
    case isFalse =>
      rw [scalarEquals_eq_error_iff, oversized_scalar, oversized_scalar]
      simp [ha, hb]

theorem ordered?_eq_error_iff :
    ordered? a b = .error e ↔ (Oversized a ∨ Oversized b) ∧ e = .tooLarge := by
  by_cases htexts : ∃ s t, scalar a = some (.str s) ∧ scalar b = some (.str t)
  · obtain ⟨s, t, ha, hb⟩ := htexts
    have hsize : ¬ (Oversized a ∨ Oversized b) := by
      rw [← oversized_scalar, ← @oversized_scalar b, ha, hb]
      simp [Oversized]
    rw [ordered?_texts ha hb]
    simp [hsize]
  · rw [ordered?_numbers htexts]
    exact numbers_eq_error_iff fun x y =>
      if x.isNaN || y.isNaN then none else some (Ordered.numbers x y)

theorem orders_eq_error_iff {test : Ordered → Bool} :
    orders test a b = .error e ↔ (Oversized a ∨ Oversized b) ∧ e = .tooLarge := by
  rw [← ordered?_eq_error_iff]
  unfold orders
  cases ordered? a b <;> simp [Except.map]

/-! ### Operators -/

/-- The text of an operator. -/
def Operator.text : Operator → String
  | equal => "=="
  | notEqual => "!="
  | greater => ">"
  | less => "<"
  | greaterOrEqual => ">="
  | lessOrEqual => "<="
  | contains => "contains"

theorem Operator.eq_text_of_ofText? {o : Operator} (h : ofText? op = some o) : op = o.text := by
  obtain ⟨before, after, hlist, -⟩ := List.lookup_eq_some_iff.mp h
  have hmem : (op, o) ∈ before ++ (op, o) :: after := List.mem_append_right _ List.mem_cons_self
  rw [← hlist] at hmem
  simp only [List.mem_cons, Prod.mk.injEq, List.not_mem_nil, or_false] at hmem
  rcases hmem with ⟨rfl, rfl⟩ | ⟨rfl, rfl⟩ | ⟨rfl, rfl⟩ | ⟨rfl, rfl⟩ | ⟨rfl, rfl⟩ | ⟨rfl, rfl⟩ |
    ⟨rfl, rfl⟩ <;> rfl

theorem compare_notEqual (same : Bool) (a b : Operand) :
    compare same a "!=" b = (looseEquals same a b).map not := rfl

theorem map_not_eq_error_iff {r : Except Failure Bool} : r.map not = .error e ↔ r = .error e := by
  cases r <;> simp [Except.map]

/-- **When comparing fails.**  Two operands cannot be compared exactly if their numbers are needed and
one of them is a whole number too large for a double. -/
theorem compare_eq_error_iff :
    compare same a op b = .error e ↔ Overflows op a b ∧ e = .tooLarge := by
  cases ho : Operator.ofText? op with
  | none =>
    have hcompare : compare same a op b = .ok false := by
      unfold compare
      rw [ho]
    refine iff_of_false (by simp [hcompare]) ?_
    rintro ⟨⟨-, hmem | ⟨hmem, -⟩⟩, -⟩
    all_goals
      simp only [List.mem_cons, List.not_mem_nil, or_false] at hmem
      rcases hmem with rfl | rfl | rfl | rfl <;> cases ho
  | some o =>
    obtain rfl := Operator.eq_text_of_ofText? ho
    cases o with
    | equal =>
      change looseEquals same a b = .error e ↔ _
      rw [looseEquals_eq_error_iff]
      simp [Overflows, Operator.text, and_assoc]
    | notEqual =>
      change compare same a "!=" b = .error e ↔ _
      rw [compare_notEqual, map_not_eq_error_iff, looseEquals_eq_error_iff]
      simp [Overflows, Operator.text, and_assoc]
    | greater =>
      change compare same a ">" b = .error e ↔ _
      rw [compare_greater, orders_eq_error_iff]
      simp [Overflows, Operator.text]
    | less =>
      change compare same a "<" b = .error e ↔ _
      rw [compare_less, orders_eq_error_iff]
      simp [Overflows, Operator.text]
    | greaterOrEqual =>
      change compare same a ">=" b = .error e ↔ _
      rw [compare_greaterOrEqual, orders_eq_error_iff]
      simp [Overflows, Operator.text]
    | lessOrEqual =>
      change compare same a "<=" b = .error e ↔ _
      rw [compare_lessOrEqual, orders_eq_error_iff]
      simp [Overflows, Operator.text]
    | contains =>
      change Except.ok _ = _ ↔ _
      simp [Overflows, Operator.text]

/-! ### Conditions -/

namespace Test

variable {t : Test} {scope : Scope}

/-- What the variable of a condition is; the empty path names no variable. -/
def operand (t : Test) (scope : Scope) : Operand :=
  if pathOf t.path = "" then none else scope.get? (pathOf t.path)

/-- Whether a condition asks for a system variable, by its path or in its template. -/
def asksClock (t : Test) : Bool :=
  Scope.asksClock (pathOf t.path) || Scope.templateAsksClock (t.value.text?.getD "")

/-- A condition asks for a system variable, and the clock shows an instant without a date. -/
def Dateless (t : Test) (scope : Scope) : Prop :=
  t.asksClock = true ∧ scope.locale.isDated = false

/-- A condition needs the number of an operand that is too large for one. -/
def Overflows (t : Test) (scope : Scope) : Prop :=
  ¬ t.Dateless scope ∧
    Condition.Overflows t.operator.display (t.operand scope) (some (scope.interpolateText t.value))

theorem left_eq (t : Test) (scope : Scope) :
    t.left scope = scope.checked (Scope.asksClock (pathOf t.path)) (t.operand scope) := by
  unfold left operand
  by_cases hpath : pathOf t.path = ""
  · rw [hpath]
    rfl
  · simp only [if_neg hpath]
    rfl

/-- A condition compares what its variable is with what its template says, unless it asks for a date
that there is not. -/
theorem holds_eq (t : Test) (scope : Scope) :
    t.holds scope = if t.asksClock && !scope.locale.isDated then .error .noDate else
      compare false (t.operand scope) t.operator.display (some (scope.interpolateText t.value)) := by
  unfold holds asksClock
  rw [left_eq]
  cases hpath : Scope.asksClock (pathOf t.path) <;>
    cases htemplate : Scope.templateAsksClock (t.value.text?.getD "") <;>
      cases hdated : scope.locale.isDated <;>
        simp [Scope.fillText, Scope.checked, hdated, htemplate, bind, Except.bind]

/-- **When a condition cannot be told.**  Either it asks for a date that there is not, or it needs the
number of an operand that is too large for one. -/
theorem holds_eq_error_iff : t.holds scope = .error e ↔
    t.Dateless scope ∧ e = .noDate ∨ t.Overflows scope ∧ e = .tooLarge := by
  rw [holds_eq, Overflows]
  by_cases hdate : t.Dateless scope
  · have hasks : (t.asksClock && !scope.locale.isDated) = true := by simp [hdate.1, hdate.2]
    rw [if_pos hasks]
    simp [hdate, eq_comm]
  · have hasks : ¬ (t.asksClock && !scope.locale.isDated) = true := by
      simpa [Dateless] using hdate
    rw [if_neg hasks, compare_eq_error_iff]
    simp [hdate]

end Test

end ChatFlow.Condition
