import ChatFlow.Proofs.Condition.Overflow

/-!
# Variables that are not set

A condition may name a variable that is not set.  Such a variable has no number and no text, so it
is neither greater nor less than anything, and contains nothing but the empty text.  It is
equal to nothing, with one exception, which is null: and null is also what a condition
compares with when its value is left out (`unset_variable_equals_only_null`).
-/

namespace ChatFlow.Condition

variable {b : Operand}

/-! ### One operand that is not set -/

theorem looseEquals_none (same : Bool) (v : Value) : looseEquals same none (some v) = .ok v.isNull := by
  cases v <;> rfl

/-- What is not set has no order to anything: its number is NaN. -/
theorem ordered?_none (h : ¬ Oversized b) : ordered? none b = .ok none := by
  have htexts : ¬ ∃ s t, scalar none = some (.str s) ∧ scalar b = some (.str t) := by
    rintro ⟨s, t, hs, -⟩
    cases hs
  have hnan : Decimal.nan.isNaN = true := by decide +kernel
  rw [ordered?_numbers htexts]
  cases hb : number b with
  | error e => exact absurd (number_eq_error_iff.mp hb).1 h
  | ok y =>
    change Except.ok (if (Decimal.nan.isNaN || y.isNaN) = true then _ else _) = _
    rw [hnan, Bool.true_or]
    rfl

theorem orders_none (test : Ordered → Bool) (h : ¬ Oversized b) : orders test none b = .ok false := by
  unfold orders
  rw [ordered?_none h]
  rfl

/-- The empty text contains only itself. -/
theorem contains_empty (s : String) : Text.contains "" s = decide (s = "") := by
  change s.toList.isEmpty = _
  rw [Bool.eq_iff_iff, List.isEmpty_iff, decide_eq_true_iff, String.toList_eq_nil_iff]

theorem compare_none_contains (same : Bool) (v : Value) :
    compare same none "contains" (some v) = .ok (v.isNull || decide (v.render = "")) := by
  change Except.ok (Text.contains "" (searchText (some v))) = _
  rw [contains_empty]
  cases v <;> rfl

/-! ### The value of a condition -/

theorem isNull_interpolateText (scope : Scope) (v : Value) :
    (scope.interpolateText v).isNull = v.isNull := by
  cases v <;> rfl

/-- A template is never a number. -/
theorem oversized_interpolateText (scope : Scope) (v : Value) :
    Oversized (some (scope.interpolateText v)) ↔ Oversized (some v) := by
  cases v <;> rfl

/-- **A variable that is not set equals only null.**  A condition on such a variable holds by equality
exactly if its value is null, which it is also when it is left out, and by inequality exactly if it is not.
None of the order operators holds, but they fail for a whole number too large for a double.  And nothing
is contained in the variable but what shows an empty text, null included. -/
theorem unset_variable_equals_only_null (t : Test) (scope : Scope) (hunset : t.operand scope = none)
    (hdate : ¬ t.Dateless scope) :
    (t.operator.display = "==" → t.holds scope = .ok t.value.isNull) ∧
    (t.operator.display = "!=" → t.holds scope = .ok (!t.value.isNull)) ∧
    (t.operator.display ∈ [">", "<", ">=", "<="] →
      (¬ Oversized (some t.value) → t.holds scope = .ok false) ∧
      (Oversized (some t.value) → t.holds scope = .error .tooLarge)) ∧
    (t.operator.display = "contains" → t.holds scope =
      .ok (t.value.isNull || decide ((scope.interpolateText t.value).render = ""))) := by
  have hholds : t.holds scope =
      compare false none t.operator.display (some (scope.interpolateText t.value)) := by
    rw [Test.holds_eq, if_neg (by simpa [Test.Dateless] using hdate), hunset]
  rw [hholds, ← isNull_interpolateText scope, ← oversized_interpolateText scope]
  refine ⟨fun hop => ?_, fun hop => ?_, fun hop => ⟨fun hsize => ?_, fun hsize => ?_⟩, fun hop => ?_⟩
  · rw [hop]
    exact looseEquals_none false _
  · rw [hop, compare_notEqual, looseEquals_none]
    rfl
  · simp only [List.mem_cons, List.not_mem_nil, or_false] at hop
    rcases hop with hop | hop | hop | hop <;> rw [hop]
    · rw [compare_greater, orders_none _ hsize]
    · rw [compare_less, orders_none _ hsize]
    · rw [compare_greaterOrEqual, orders_none _ hsize]
    · rw [compare_lessOrEqual, orders_none _ hsize]
  · exact compare_eq_error_iff.mpr ⟨⟨Or.inr hsize, Or.inl hop⟩, rfl⟩
  · rw [hop, compare_none_contains]

/-- Nothing is set here. -/
def unset : Scope := ⟨[], ⟨⟨0⟩, "UTC", ""⟩⟩

theorem not_dateless_unset (t : Test) : ¬ t.Dateless unset := by
  have hdated : unset.locale.isDated = true := by decide +kernel
  intro h
  exact absurd h.2 (by rw [hdated]; decide)

theorem unset_variable_equals_only_null_text :
    (Test.ofFields [("variable", .str "missing"), ("operator", .str "!="), ("value", .str "x")]).holds
      unset = .ok true := by
  obtain ⟨-, hdiffers, -⟩ := unset_variable_equals_only_null
    (Test.ofFields [("variable", .str "missing"), ("operator", .str "!="), ("value", .str "x")]) unset
    (by with_unfolding_all rfl) (not_dateless_unset _)
  exact hdiffers rfl

/-- A variable that is not set does equal null, also where null only stands for a value left out. -/
theorem unset_variable_equals_null : unset.get? "missing" = none ∧
    (Test.ofFields [("variable", .str "missing"), ("operator", .str "=="), ("value", .null)]).holds
      unset = .ok true ∧
    (Test.ofFields [("variable", .str "missing")]).holds unset = .ok true := by
  refine ⟨?_, ?_, ?_⟩ <;> with_unfolding_all rfl

end ChatFlow.Condition
