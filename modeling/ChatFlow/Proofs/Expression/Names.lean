import ChatFlow.Expression.Evaluate

/-!
# What an expression depends on

An expression depends on its surroundings through the names in it alone: where these stand for the
same data, its outcome is the same, a failure included (`Expr.eval_congr`).  A name that goes
through the items of a collection stands for the item inside the body, whatever it stands for
outside.
-/

namespace ChatFlow.Expression

mutual

/-- The names in an expression that stand for a datum. -/
def Expr.names : Expr → List String
  | .name s => [s]
  | .rooted s args => s :: Expr.namesIn args
  | .list args | .call _ args => Expr.namesIn args
  | .map entries => Expr.namesInEntries entries
  | .select e _ | .not e | .negate e => Expr.names e
  | .index a b | .binary _ a b => Expr.names a ++ Expr.names b
  | .method e _ args | .build e args => Expr.names e ++ Expr.namesIn args
  | .choose c yes no => Expr.names c ++ (Expr.names yes ++ Expr.names no)
  | _ => []

/-- The names in a row of expressions. -/
def Expr.namesIn : List Expr → List String
  | [] => []
  | e :: rest => Expr.names e ++ Expr.namesIn rest

/-- The names in the entries of a map. -/
def Expr.namesInEntries : List (Expr × Expr) → List String
  | [] => []
  | (k, e) :: rest => Expr.names k ++ (Expr.names e ++ Expr.namesInEntries rest)

end

/-- Some names stand for the same in both bindings. -/
def Bindings.AgreeOn (names : List String) (env env' : Bindings) : Prop :=
  ∀ s ∈ names, Entries.find? env s = Entries.find? env' s

section

variable {names more : List String} {env env' : Bindings}

theorem Bindings.agreeOn_append :
    AgreeOn (names ++ more) env env' ↔ AgreeOn names env env' ∧ AgreeOn more env env' :=
  List.forall_mem_append

theorem Bindings.AgreeOn.bind (h : AgreeOn names env env') (name : String) (d : Datum) :
    AgreeOn names (env.bind name d) (env'.bind name d) := by
  intro s hs
  rw [Bindings.bind, Bindings.bind, Entries.find?_cons, Entries.find?_cons, h s hs]

/-- A walk depends on its body for the items alone. -/
theorem Walk.over_congr {w : Walk} {d : Datum} {name? : Option String}
    {body body' : (Bindings → Bindings) → Except Failure Outcome}
    (h : ∀ name item, body (fun env => env.bind name item) = body' fun env => env.bind name item) :
    w.over d name? body = w.over d name? body' := by
  unfold Walk.over
  cases d.items? with
  | none => rfl
  | some items =>
    refine congrArg (w.run items) (funext fun item => ?_)
    cases name? with
    | none => rfl
    | some name => exact h name item

end

mutual

/-- **An expression depends on its names alone.** -/
theorem Expr.eval_congr (e : Expr) {env env' : Bindings} (h : Bindings.AgreeOn e.names env env') :
    e.eval env = e.eval env' := by
  match e with
  | .null | .bool _ | .int _ | .double _ | .text _ => rfl
  | .name s => exact congrArg Except.ok (h s List.mem_cons_self)
  | .rooted s args =>
    obtain ⟨hs, hargs⟩ := List.forall_mem_cons.mp h
    rw [Expr.eval, Expr.eval, Expr.evalAll_congr args hargs, hs]
  | .list args => rw [Expr.eval, Expr.eval, Expr.evalAll_congr args h]
  | .map entries => rw [Expr.eval, Expr.eval, Expr.evalEntries_congr entries h]
  | .select a field => rw [Expr.eval, Expr.eval, Expr.eval_congr a h]
  | .index a b =>
    obtain ⟨ha, hb⟩ := Bindings.agreeOn_append.mp h
    rw [Expr.eval, Expr.eval, Expr.eval_congr a ha, Expr.eval_congr b hb]
  | .call f args => rw [Expr.eval, Expr.eval, Expr.evalAll_congr args h]
  | .method a f args =>
    obtain ⟨ha, hargs⟩ := Bindings.agreeOn_append.mp h
    have hover (w : Walk) (d : Datum) : Expr.evalOver args w d env = Expr.evalOver args w d env' :=
      Expr.evalOver_congr args w d hargs
    rw [Expr.eval, Expr.eval, Expr.eval_congr a ha, Expr.evalAll_congr args hargs]
    simp only [hover]
  | .build a args =>
    obtain ⟨ha, hargs⟩ := Bindings.agreeOn_append.mp h
    rw [Expr.eval, Expr.eval, Expr.eval_congr a ha, Expr.evalAll_congr args hargs]
  | .not a => rw [Expr.eval, Expr.eval, Expr.eval_congr a h]
  | .negate a => rw [Expr.eval, Expr.eval, Expr.eval_congr a h]
  | .binary op a b =>
    obtain ⟨ha, hb⟩ := Bindings.agreeOn_append.mp h
    rw [Expr.eval, Expr.eval, Expr.eval_congr a ha, Expr.eval_congr b hb]
  | .choose c yes no =>
    obtain ⟨hc, h⟩ := Bindings.agreeOn_append.mp h
    obtain ⟨hyes, hno⟩ := Bindings.agreeOn_append.mp h
    rw [Expr.eval, Expr.eval, Expr.eval_congr c hc, Expr.eval_congr yes hyes,
      Expr.eval_congr no hno]

theorem Expr.evalOver_congr (args : List Expr) (w : Walk) (d : Datum) {env env' : Bindings}
    (h : Bindings.AgreeOn (Expr.namesIn args) env env') :
    Expr.evalOver args w d env = Expr.evalOver args w d env' := by
  match args with
  | [x, body] =>
    obtain ⟨-, h⟩ := Bindings.agreeOn_append.mp h
    obtain ⟨hbody, -⟩ := Bindings.agreeOn_append.mp h
    rw [Expr.evalOver, Expr.evalOver]
    exact Walk.over_congr fun name item => Expr.eval_congr body (hbody.bind name item)
  | [] | [_] | _ :: _ :: _ :: _ => rfl

theorem Expr.evalAll_congr (args : List Expr) {env env' : Bindings}
    (h : Bindings.AgreeOn (Expr.namesIn args) env env') :
    Expr.evalAll args env = Expr.evalAll args env' := by
  match args with
  | [] => rfl
  | e :: rest =>
    obtain ⟨he, hrest⟩ := Bindings.agreeOn_append.mp h
    rw [Expr.evalAll, Expr.evalAll, Expr.eval_congr e he, Expr.evalAll_congr rest hrest]

theorem Expr.evalEntries_congr (entries : List (Expr × Expr)) {env env' : Bindings}
    (h : Bindings.AgreeOn (Expr.namesInEntries entries) env env') :
    Expr.evalEntries entries env = Expr.evalEntries entries env' := by
  match entries with
  | [] => rfl
  | (k, e) :: rest =>
    obtain ⟨hk, h⟩ := Bindings.agreeOn_append.mp h
    obtain ⟨he, hrest⟩ := Bindings.agreeOn_append.mp h
    rw [Expr.evalEntries, Expr.evalEntries, Expr.eval_congr k hk, Expr.eval_congr e he,
      Expr.evalEntries_congr rest hrest]

end

end ChatFlow.Expression
