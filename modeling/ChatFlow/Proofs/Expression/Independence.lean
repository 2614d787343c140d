import ChatFlow.Expression.Transform
import ChatFlow.Proofs.Document.Fields
import ChatFlow.Proofs.Entries
import ChatFlow.Proofs.Expression.Bounded
import ChatFlow.Proofs.Expression.Names

/-!
# What a transform depends on

The surroundings of an expression are the map of all variables under `vars` and, written over it,
the data of the input variables (`bindInputs_eq`).  So an expression without the name `vars` has
the same value whatever the map holds.

But the map has to be there.  A variable that is not bounded, read or not, makes every readable
transform out of range, and `transform_depends_on_reads` says that nothing else of the variables
that are not read comes through.
-/

namespace ChatFlow.Expression

variable {expression : String} {vars vars' : Entries Value} {inputs : List String}
  {lookup lookup' : String → Except Failure Value} {e : Expr}

/-! ### Input variables -/

/-- The datum of an input variable. -/
def inputDatum (lookup : String → Except Failure Value) (path : String) : Except Failure Datum :=
  (lookup path).bind Datum.ofValue

/-- The data of the input variables, each under the name that an expression sees it by. -/
def inputData (lookup : String → Except Failure Value) : List String → Except Failure Bindings
  | [] => .ok []
  | path :: rest => do
    let d ← inputDatum lookup path
    let bs ← inputData lookup rest
    return (bindingName path, d) :: bs

theorem bindInputs_eq (acc : Bindings) :
    bindInputs lookup acc inputs = (inputData lookup inputs).map (Entries.merge acc) := by
  induction inputs generalizing acc with
  | nil => rfl
  | cons path rest ih =>
    have hstep : bindInputs lookup acc (path :: rest) = (inputDatum lookup path).bind fun d =>
        bindInputs lookup (acc.put (bindingName path) d) rest := by
      rw [bindInputs, inputDatum]
      cases lookup path <;> rfl
    rw [hstep, inputData]
    cases inputDatum lookup path with
    | error f => rfl
    | ok d =>
      refine (ih _).trans ?_
      cases inputData lookup rest <;> rfl

/-- The data of the input variables depend on what is looked up for these. -/
theorem inputData_congr (h : ∀ path ∈ inputs, lookup path = lookup' path) :
    inputData lookup inputs = inputData lookup' inputs := by
  induction inputs with
  | nil => rfl
  | cons path rest ih =>
    obtain ⟨hpath, hrest⟩ := List.forall_mem_cons.mp h
    rw [inputData, inputData, inputDatum, inputDatum, hpath, ih hrest]

/-! ### Values -/

/-- The value that an expression has in its surroundings. -/
def Expr.value (e : Expr) (env : Bindings) : Except Failure Value := do
  if Entries.has env "" then .error (.badStatement "Invalid name ")
  match ← e.eval env with
  | some d => return d.toValue
  | none => .error (.transform .noValue)

theorem parse?_empty : parse? "" = none := by decide +kernel

/-- A transform whose expression is readable. -/
theorem transform_of_parse? (h : parse? (Text.strip expression) = some e) :
    transform expression vars inputs lookup =
      (Datum.ofValue (.object vars)).bind fun d => (inputData lookup inputs).bind fun bs =>
        e.value (Entries.merge [("vars", d)] bs) := by
  have hne : Text.strip expression ≠ "" := by
    intro hempty
    rw [hempty, parse?_empty] at h
    cases h
  unfold transform
  simp only [if_neg hne, h, activation, bindInputs_eq]
  cases Datum.ofValue (.object vars) with
  | error f => rfl
  | ok d => cases inputData lookup inputs <;> rfl

/-- A transform whose expression is not readable. -/
theorem transform_of_unreadable (h : parse? (Text.strip expression) = none) :
    transform expression vars inputs lookup =
      .error (.transform (if Text.strip expression = "" then .empty else .unreadable)) := by
  unfold transform
  by_cases hempty : Text.strip expression = ""
  · simp only [hempty, if_true]
    rfl
  · simp only [if_neg hempty, h]

/-- The map of all variables comes first, so nothing else counts if it cannot be had. -/
theorem transform_of_unbounded (h : parse? (Text.strip expression) = some e)
    (hbounded : (Value.object vars).isBounded = false) :
    transform expression vars inputs lookup = .error .outOfRange := by
  rw [transform_of_parse? h, Datum.ofValue_of_unbounded _ hbounded]
  rfl

/-- Below the input variables it does not matter what `vars` stands for, if it is not read. -/
theorem value_congr (h : "vars" ∉ e.names) (d d' : Datum) (bs : Bindings) :
    e.value (Entries.merge [("vars", d)] bs) = e.value (Entries.merge [("vars", d')] bs) := by
  have hfind : ∀ s, s ≠ "vars" → Entries.find? (Entries.merge [("vars", d)] bs) s =
      Entries.find? (Entries.merge [("vars", d')] bs) s := by
    intro s hs
    rw [Entries.find?_merge, Entries.find?_merge, Entries.find?_cons, Entries.find?_cons,
      if_neg (Ne.symm hs), if_neg (Ne.symm hs)]
  have hagree : Bindings.AgreeOn e.names (Entries.merge [("vars", d)] bs)
      (Entries.merge [("vars", d')] bs) := by
    intro s hs
    refine hfind s ?_
    rintro rfl
    exact h hs
  rw [Expr.value, Expr.value, Expr.eval_congr e hagree, Entries.has, Entries.has,
    hfind "" (by decide)]

/-- **A transform depends on what it reads, and on all variables being bounded.**  An expression
without the name `vars` is given two sets of variables in which the same is looked up for each
input variable.  If both sets are bounded, or neither is, it has the same value in both or fails
for the same reason, whatever the other variables hold.  But in a set that is not bounded a readable
expression is out of range, whatever it reads. -/
theorem transform_depends_on_reads
    (hnames : ∀ e, parse? (Text.strip expression) = some e → "vars" ∉ e.names)
    (hlookup : ∀ path ∈ inputs, lookup path = lookup' path) :
    ((Value.object vars).isBounded = (Value.object vars').isBounded →
      transform expression vars inputs lookup = transform expression vars' inputs lookup') ∧
    ((Value.object vars).isBounded = false → parse? (Text.strip expression) ≠ none →
      transform expression vars inputs lookup = .error .outOfRange) := by
  cases hparse : parse? (Text.strip expression) with
  | none =>
    refine ⟨fun _ => ?_, fun _ h => absurd rfl h⟩
    rw [transform_of_unreadable hparse, transform_of_unreadable hparse]
  | some e =>
    refine ⟨fun hsame => ?_, fun h _ => transform_of_unbounded hparse h⟩
    cases hbounded : (Value.object vars).isBounded with
    | false =>
      rw [transform_of_unbounded hparse hbounded, transform_of_unbounded hparse (hsame ▸ hbounded)]
    | true =>
      obtain ⟨d, hd⟩ := Datum.exists_ofValue _ hbounded
      obtain ⟨d', hd'⟩ := Datum.exists_ofValue _ (hsame ▸ hbounded)
      rw [transform_of_parse? hparse, transform_of_parse? hparse, hd, hd', inputData_congr hlookup]
      show ((inputData lookup' inputs).bind fun bs => e.value (Entries.merge [("vars", d)] bs)) =
        (inputData lookup' inputs).bind fun bs => e.value (Entries.merge [("vars", d')] bs)
      refine congrArg _ (funext fun bs => ?_)
      exact value_congr (hnames e hparse) d d' bs

/-! ### A variable that is not read -/

/-- What is looked up for a name is the variable of this name. -/
def lookupIn (vars : Entries Value) (name : String) : Except Failure Value :=
  .ok (Value.ofOption (vars.find? name))

/-- A name, and whatever else there is. -/
def greeting (other : Value) : Entries Value := [("user.name", .str "Ada"), ("other", other)]

theorem transform_depends_on_reads_greeting :
    (parse? "user_name + '!'").map Expr.names = some ["user_name"] ∧
    transform "user_name + '!'" (greeting (.int 7)) ["user.name"] (lookupIn (greeting (.int 7))) =
      transform "user_name + '!'" (greeting .null) ["user.name"] (lookupIn (greeting .null)) := by
  have hnames : (parse? (Text.strip "user_name + '!'")).map Expr.names = some ["user_name"] := by
    decide +kernel
  have hunread : ∀ e, parse? (Text.strip "user_name + '!'") = some e → "vars" ∉ e.names := by
    intro e he
    rw [he, Option.map_some, Option.some.injEq] at hnames
    rw [hnames]
    decide
  have hlookup : ∀ path ∈ ["user.name"],
      lookupIn (greeting (.int 7)) path = lookupIn (greeting .null) path := by
    intro path hpath
    cases List.mem_singleton.mp hpath
    rfl
  exact ⟨by decide +kernel, (transform_depends_on_reads hunread hlookup).1 (by decide)⟩

/-- A number of more than 64 bits in a variable that is not read makes a transform fail that has a
value without it. -/
theorem unread_variable_breaks_transform :
    (parse? "'a' + 'b'").map Expr.names = some [] ∧
    transform "'a' + 'b'" [] [] (lookupIn []) = .ok (.str "ab") ∧
    transform "'a' + 'b'" [("big", .int 9223372036854775808)] []
      (lookupIn [("big", .int 9223372036854775808)]) = .error .outOfRange := by
  have hvalue : ((transform "'a' + 'b'" [] [] (lookupIn [])).toOption.bind Value.text?) =
      some "ab" := by
    decide +kernel
  obtain ⟨e, he⟩ : ∃ e, parse? (Text.strip "'a' + 'b'") = some e :=
    Option.isSome_iff_exists.mp (by decide +kernel)
  refine ⟨by decide +kernel, ?_, transform_of_unbounded he (by decide)⟩
  cases hok : transform "'a' + 'b'" [] [] (lookupIn []) with
  | error f =>
    rw [hok] at hvalue
    cases hvalue
  | ok v =>
    rw [hok] at hvalue
    rw [Value.text?_eq_some_iff.mp hvalue]

end ChatFlow.Expression
