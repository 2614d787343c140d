import ChatFlow.Proofs.Value.Keyed
import ChatFlow.Proofs.Variables.Descent
import ChatFlow.Web.Webhook

/-!
# Flattening changes no path

The variables that the fields of a value become under a name are what a path reaches by
descending from that name (`Flatten.reached_flatten`), as far down as they go.  So beside
the value itself they change what no path reads, to whatever depth they were made
(`flattened_reads_alike`), and the body of a request that starts a run can be read as if
it had not been flattened at all.
-/

namespace ChatFlow

open Scope

namespace Flatten

variable {base : String} {fields : Entries Value} {v : Value} {e : String × Value}

/-- A variable has the value that its name reaches from a base with this value. -/
def Reached (base : String) (v : Value) (e : String × Value) : Prop :=
  ∃ rest, e.1 = base ++ "." ++ rest ∧
    (v.Keyed → v.Dotless → descend v (Text.splitAt '.' rest) = some e.2)

theorem below_eq (h : base ≠ "") (key : String) : below base key = base ++ "." ++ key := if_neg h

/-- What a field becomes: a variable, and behind it what the fields of an object in it become. -/
def ofField (inner : String → List (String × Value) → Entries Value) (base : String)
    (f : String × Value) : Entries Value :=
  (below base f.1, f.2) ::
    match f.2 with
    | .object nested => inner (below base f.1) nested
    | _ => []

/-- A level is written field by field. -/
theorem level_eq (inner : String → List (String × Value) → Entries Value) (base : String)
    (fields : Entries Value) :
    level inner base fields = Entries.ofPairs (fields.flatMap (ofField inner base)) := by
  refine Entries.foldl_eq_merge (fun acc f => ?_) fields []
  obtain ⟨name, v⟩ := f
  cases v <;> rfl

/-- What stands on a level: a field, or what comes from the fields of an object in it. -/
theorem mem_level (inner : String → List (String × Value) → Entries Value) (base : String)
    (fields : Entries Value) :
    ∀ e ∈ level inner base fields, ∃ f ∈ fields, e = (below base f.1, f.2) ∨
      ∃ nested, f.2 = .object nested ∧ e ∈ inner (below base f.1) nested := by
  intro e he
  rw [level_eq] at he
  rcases Entries.mem_merge he with he | he
  · obtain ⟨f, hf, he⟩ := List.mem_flatMap.mp he
    refine ⟨f, hf, (List.mem_cons.mp he).imp_right fun he => ?_⟩
    split at he
    · rename_i nested hnested
      exact ⟨nested, hnested, he⟩
    · cases he
  · cases he

/-- A field is reached by its name, if no field before it has the same name and the name has no dot. -/
theorem descend_field (hk : (Value.object fields).Keyed) (hd : (Value.object fields).Dotless)
    {f : String × Value} (hf : f ∈ fields) :
    descend (.object fields) (Text.splitAt '.' f.1) = some f.2 := by
  have hname : '.' ∉ f.1.toList := hd.fields f.1 (List.mem_map_of_mem hf)
  rw [descend_dotless hname]
  exact hk.mem_fields_iff.mp hf

theorem reached_level {inner : String → List (String × Value) → Entries Value}
    (hinner : ∀ name nested e, name ≠ "" → e ∈ inner name nested → Reached name (.object nested) e)
    (hb : base ≠ "") (he : e ∈ level inner base fields) : Reached base (.object fields) e := by
  obtain ⟨f, hf, rfl | ⟨nested, hnested, he⟩⟩ := mem_level inner base fields e he
  · exact ⟨f.1, below_eq hb f.1, fun hk hd => descend_field hk hd hf⟩
  · rw [below_eq hb] at he
    have hname : base ++ "." ++ f.1 ≠ "" := by simp
    obtain ⟨rest, heq, hreached⟩ := hinner _ nested e hname he
    refine ⟨f.1 ++ "." ++ rest, by rw [heq, below_append], fun hk hd => ?_⟩
    have hfield : (Value.object fields).field? f.1 = some (.object nested) := by
      rw [← hnested]
      exact hk.mem_fields_iff.mp hf
    rw [descend_below, descend_field hk hd hf, hnested, Option.bind_some]
    exact hreached (hk.field hfield) (hd.field hfield)

/-- The variables that fields become are reached from the fields, one level after the other. -/
theorem reached_fieldsBelow {more : Nat} (hb : base ≠ "") (he : e ∈ fieldsBelow more base fields) :
    Reached base (.object fields) e := by
  induction more generalizing base fields e with
  | zero => exact reached_level (fun _ _ _ _ hnone => absurd hnone List.not_mem_nil) hb he
  | succ more ih => exact reached_level (fun _ _ _ hname hin => ih hname hin) hb he

theorem reached_flatten {depth : Int} (hb : base ≠ "") (he : e ∈ flatten v base depth) :
    Reached base v e := by
  cases v with
  | object fields => exact reached_fieldsBelow hb he
  | _ => cases he

end Flatten

/-! ### Paths -/

namespace Scope

variable {vars new others : Entries Value} {base : String} {v : Value}

/-- A name that does not begin like another one neither is it nor goes on from it. -/
theorem apart_of_not_under {name : String} (h : ¬ base.toList <+: name.toList) :
    name ≠ base ∧ ∀ rest, name ≠ base ++ "." ++ rest := by
  constructor
  · rintro rfl
    exact h List.prefix_rfl
  · rintro rest rfl
    exact h (toList_path base rest ▸ List.prefix_append _ _)

/-- Among variables of which none goes on from a name, a value can be bound to it. -/
theorem echoes_put (h : ∀ rest, base ++ "." ++ rest ∉ Entries.keys others) (v : Value) :
    Echoes (others.put base v) base v where
  bound := Entries.find?_put_self _ _ _
  below rest w hw := by
    rw [Entries.find?_put_ne _ _ (below_ne base rest), Entries.find?_eq_none (h rest)] at hw
    cases hw

/-- Variables may be added that have other names, or the values that are reached. -/
theorem Echoes.merge (h : Echoes vars base v)
    (hnew : ∀ e ∈ new, e.1 ≠ base ∧ ∀ rest, e.1 = base ++ "." ++ rest →
      descend v (Text.splitAt '.' rest) = some e.2) : Echoes (vars.merge new) base v where
  bound := by
    rw [Entries.find?_merge_of_forall_ne fun e he => (hnew e he).1]
    exact h.bound
  below rest w hw := by
    rcases Entries.find?_merge_eq_some hw with hw | hw
    · exact (hnew _ hw).2 rest rfl
    · exact h.below rest w hw

/-- So may the variables that the value becomes when it is flattened. -/
theorem Echoes.merge_flatten (h : Echoes vars base v) (hb : base ≠ "") (hk : v.Keyed)
    (hd : v.Dotless) (depth : Int) : Echoes (vars.merge (Flatten.flatten v base depth)) base v := by
  refine h.merge fun e he => ?_
  obtain ⟨rest, heq, hreached⟩ := Flatten.reached_flatten hb he
  rw [heq]
  refine ⟨below_ne base rest, fun rest' hrest => ?_⟩
  rw [← below_inj.mp hrest]
  exact hreached hk hd

/-- A path that goes through no name below a base reads the same when such variables are added. -/
theorem resolve_merge_flatten {path : String} {depth : Int} (hb : base ≠ "")
    (hpath : ∀ rest, path ≠ base ++ "." ++ rest) :
    resolve (vars.merge (Flatten.flatten v base depth)) path = resolve vars path := by
  have hkeep (name : String) (hname : ∀ rest, name ≠ base ++ "." ++ rest) :
      (vars.merge (Flatten.flatten v base depth)).find? name = vars.find? name := by
    refine Entries.find?_merge_of_forall_ne fun e he heq => ?_
    obtain ⟨rest, hrest, -⟩ := Flatten.reached_flatten hb he
    exact hname rest (heq ▸ hrest)
  refine resolve_congr (hkeep path hpath) fun name rest heq => hkeep name ?_
  rintro rest' rfl
  exact hpath (rest' ++ "." ++ rest) (by rw [heq, below_append])

/-- Flattened variables beside the value change the value of no path. -/
theorem resolve_flatten (hb : base ≠ "") (hk : v.Keyed) (hd : v.Dotless)
    (h : Echoes vars base v) (depth : Int) (path : String) :
    resolve (vars.merge (Flatten.flatten v base depth)) path = resolve vars path := by
  by_cases hpath : ∃ rest, path = base ++ "." ++ rest
  · obtain ⟨rest, rfl⟩ := hpath
    rw [(h.merge_flatten hb hk hd depth).resolve, h.resolve]
  · exact resolve_merge_flatten hb fun rest heq => hpath ⟨rest, heq⟩

/-- What reads the same among the variables reads the same beside the system variables, and fails where
these cannot be had. -/
theorem reads_alike {vars vars' : Entries Value}
    (h : ∀ path, resolve vars path = resolve vars' path) (locale : Locale) (path : String) :
    (Scope.mk vars locale).lookup path = (Scope.mk vars' locale).lookup path ∧
      (Scope.mk vars locale).read path = (Scope.mk vars' locale).read path := by
  have hlookup (path : String) :
      (Scope.mk vars locale).lookup path = (Scope.mk vars' locale).lookup path := by
    unfold lookup
    rw [h]
  refine ⟨hlookup path, ?_⟩
  unfold read get?
  rw [hlookup]
  rfl

end Scope

namespace Web

variable {body : Value}

/-- The body of a request is bound among the variables of the run that it starts. -/
theorem echoes_webhookVariables (hk : body.Keyed) (hd : body.Dotless) (now : Calendar.Instant)
    (method : String) (query headers : Value) :
    Echoes (webhookVariables now method body query headers) "webhook.body" body := by
  have hwhole : Echoes (Entries.ofPairs [("webhook.method", .str method),
      ("webhook.timestamp", .str now.offsetText), ("webhook.body", body), ("webhook.query", query)])
      "webhook.body" body := by
    refine ⟨rfl, fun rest w hw => ?_⟩
    rcases Entries.find?_merge_eq_some hw with hmem | hnone
    · simp only [List.mem_cons, Prod.mk.injEq, List.not_mem_nil, or_false] at hmem
      rcases hmem with ⟨heq, -⟩ | ⟨heq, -⟩ | ⟨heq, -⟩ | ⟨heq, -⟩
      · exact absurd heq.symm ((apart_of_not_under (by decide)).2 rest)
      · exact absurd heq.symm ((apart_of_not_under (by decide)).2 rest)
      · exact absurd heq (below_ne "webhook.body" rest)
      · exact absurd heq.symm ((apart_of_not_under (by decide)).2 rest)
    · cases hnone
  have hapart {new : Entries Value} (h : ∀ e ∈ new, ¬ "webhook.body".toList <+: e.1.toList) :
      ∀ e ∈ new, e.1 ≠ "webhook.body" ∧ ∀ rest, e.1 = "webhook.body" ++ "." ++ rest →
        descend body (Text.splitAt '.' rest) = some e.2 := fun e he =>
    ⟨(apart_of_not_under (h e he)).1, fun rest heq =>
      absurd heq ((apart_of_not_under (h e he)).2 rest)⟩
  have hquery : ∀ e ∈ Flatten.flatten query "webhook.query" Flatten.defaultDepth,
      ¬ "webhook.body".toList <+: e.1.toList := by
    intro e he
    obtain ⟨rest, heq, -⟩ := Flatten.reached_flatten (by decide) he
    simp [heq]
  have hheader : ∀ e ∈ Flatten.flatten headers "webhook.header" Flatten.defaultDepth,
      ¬ "webhook.body".toList <+: e.1.toList := by
    intro e he
    obtain ⟨rest, heq, -⟩ := Flatten.reached_flatten (by decide) he
    simp [heq]
  have hparts := (((hwhole.merge_flatten (by decide) hk hd Flatten.defaultDepth).merge
    (hapart hquery)).merge (hapart hheader))
  unfold webhookVariables Entries.ofPairs
  simp only [Entries.merge_append]
  refine hparts.merge (hapart fun e he => ?_)
  split at he
  · obtain rfl := List.mem_singleton.mp he
    have hphone : ¬ "webhook.body".toList <+: "user.phone".toList := by decide
    exact hphone
  · cases he

/-- The system variables have nothing to do with the body of a request. -/
theorem asksClock_body {path rest : String}
    (h : Text.strip path = "webhook.body" ++ "." ++ rest) : asksClock path = false := by
  have hlist : Text.stripChars path.toList = ("webhook.body" ++ "." ++ rest).toList := by
    rw [← h, Text.strip, String.toList_ofList]
  rw [asksClock, hlist, toList_path]
  rfl

theorem read_body (hk : body.Keyed) (hd : body.Dotless) (now : Calendar.Instant) (method : String)
    (query headers : Value) (locale : Locale) {path rest : String}
    (h : Text.strip path = "webhook.body" ++ "." ++ rest) :
    (Scope.mk (webhookVariables now method body query headers) locale).read path =
      .ok (descend body (Text.splitAt '.' rest)) := by
  have hsystem : systemVariable? locale ("webhook.body" ++ "." ++ rest) = none := by
    unfold systemVariable?
    rw [toList_path]
    rfl
  unfold Scope.read get? lookup
  rw [asksClock_body h, h, hsystem]
  show Except.ok (resolve _ _) = _
  rw [(echoes_webhookVariables hk hd now method query headers).resolve]

end Web

/-- **Flattening changes no path.**  Beside a value whose names of fields have no dots, the variables that
it becomes when it is flattened under its name, to any depth, make no difference to any path, if no other
variable has a name that goes on from it.  So where a request starts a run, every path into its body reads
what is reached by descending into the body. -/
theorem flattened_reads_alike {base : String} (hb : base ≠ "") {v : Value} (hk : v.Keyed)
    (hd : v.Dotless) {others : Entries Value}
    (ho : ∀ name ∈ Entries.keys others, ∀ rest, name ≠ base ++ "." ++ rest) (locale : Locale) :
    (∀ depth path,
      let plain : Scope := ⟨others.put base v, locale⟩
      let flattened : Scope := ⟨plain.vars.merge (Flatten.flatten v base depth), locale⟩
      flattened.lookup path = plain.lookup path ∧ flattened.read path = plain.read path) ∧
    ∀ now method query headers path rest, Text.strip path = "webhook.body" ++ "." ++ rest →
      (Scope.mk (Web.webhookVariables now method v query headers) locale).read path =
        .ok (descend v (Text.splitAt '.' rest)) := by
  have hechoes : Echoes (others.put base v) base v :=
    echoes_put (fun rest hmem => ho _ hmem rest rfl) v
  exact ⟨fun depth path => reads_alike (resolve_flatten hb hk hd hechoes depth) locale path,
    fun now method query headers path rest h =>
      Web.read_body hk hd now method query headers locale h⟩

/-- An object with objects in it and with a field that has no name. -/
def Value.nested : Value :=
  .object [("a", .object [("", .object [("b", .int 1)])]), ("c", .list [.int 2])]

theorem Value.within_nested {p : Entries Value → Prop}
    (h : p [("a", .object [("", .object [("b", .int 1)])]), ("c", .list [.int 2])])
    (ha : p [("", .object [("b", .int 1)])]) (hb : p [("b", .int 1)]) : nested.Within p := by
  refine within_object h fun e he => ?_
  simp only [List.mem_cons, List.not_mem_nil, or_false] at he
  rcases he with rfl | rfl
  · refine within_object ha fun e he => ?_
    obtain rfl := List.mem_singleton.mp he
    refine within_object hb fun e he => ?_
    obtain rfl := List.mem_singleton.mp he
    exact within_of_not_isObject rfl
  · exact within_of_not_isObject rfl

/-- Its innermost field is read below the level down to which it was flattened, and an item of its list is
not, even in the body of a request. -/
theorem flattened_reads_alike_nested :
    (Scope.mk (Entries.merge (Entries.put [("y.x", .null)] "x" .nested)
      (Flatten.flatten .nested "x" 1)) ⟨⟨0⟩, "UTC", ""⟩).read " x.a..b" = .ok (some (.int 1)) ∧
    (Scope.mk (Web.webhookVariables ⟨0⟩ "POST" .nested (.object []) (.object []))
      ⟨⟨0⟩, "UTC", ""⟩).read "webhook.body.c.0" = .ok none := by
  have hkeyed : Value.nested.Keyed := Value.within_nested (by decide) (by decide) (by decide)
  have hdotless : Value.nested.Dotless :=
    Value.within_nested (by decide +kernel) (by decide +kernel) (by decide +kernel)
  have hothers : ∀ name ∈ Entries.keys ([("y.x", .null)] : Entries Value),
      ∀ rest, name ≠ "x" ++ "." ++ rest := by
    intro name hname
    obtain rfl := List.mem_singleton.mp hname
    exact (apart_of_not_under (by decide)).2
  obtain ⟨hplain, hbody⟩ :=
    flattened_reads_alike (by decide) hkeyed hdotless hothers ⟨⟨0⟩, "UTC", ""⟩
  constructor
  · rw [(hplain 1 " x.a..b").2]
    with_unfolding_all rfl
  · rw [hbody ⟨0⟩ "POST" (.object []) (.object []) "webhook.body.c.0" "c.0"
      (by with_unfolding_all rfl)]
    with_unfolding_all rfl

end ChatFlow
