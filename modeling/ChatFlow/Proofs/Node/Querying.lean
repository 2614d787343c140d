import ChatFlow.Node.Execute
import ChatFlow.Proofs.Form
import ChatFlow.Proofs.Outside.Asking
import ChatFlow.Proofs.Outside.Sessions
import ChatFlow.Proofs.Outside.Statement

/-!
# Statements do not depend on the variables of a run

Executing a node that queries the database passes the same texts to the database
whatever the variables are, or ends with the same failure before it passes any
(`sql_text_independent`).  Templates are filled in the values of the filters, never in
their names, and filling a value does not change of which kind it is
(`Scope.keepsShape`).  So the variables show in the parameters only, and these are the
filled filters.
-/

namespace ChatFlow

/-! ### Filling values -/

namespace Scope

theorem interpolateFields_eq (scope : Scope) (fs : Entries Value) :
    scope.interpolateFields fs = Entries.mapValues scope.interpolateAll fs := by
  induction fs with
  | nil => rw [interpolateFields]; rfl
  | cons e rest ih =>
    obtain ⟨name, v⟩ := e
    rw [interpolateFields, ih]
    rfl

/-- Filling the templates in a value does not change of which kind it is. -/
theorem keepsShape (scope : Scope) : Value.KeepsShape scope.interpolateAll where
  isNull v := by cases v <;> simp only [interpolateAll, Value.isNull]
  object fs := by rw [interpolateAll, interpolateFields_eq]
  isObject v := by cases v <;> simp only [interpolateAll, Value.isObject]

/-- Filling fails or not, whatever the variables are. -/
theorem fillAll_eq (scope : Scope) (v : Value) :
    scope.fillAll v = if valueAsksClock v && !scope.locale.isDated then .error .noDate
      else .ok (scope.interpolateAll v) := rfl

end Scope

/-! ### The client of the database -/

namespace Database

variable {P : Query → Prop} (store : SecretStore)

/-- The parameters as they are passed on: none at all for none. -/
def passed (parameters : List Value) : Option (List Value) :=
  if parameters.isEmpty then none else some parameters

theorem getD_passed (parameters : List Value) : (passed parameters).getD [] = parameters := by
  cases parameters <;> rfl

theorem asks_address (hbeside : ∀ q, q.Quiet → q.Offline → P q) : (address store).Asks P := by
  unfold address
  refine (Task.asks_state _).bind fun known => ?_
  cases known with
  | some v => exact Task.asks_pure _ _
  | none =>
    have hsecret : P (.secret store.url 10) := hbeside _ rfl rfl
    refine (Task.asks_query hsecret).bind fun contents => ?_
    cases contents with
    | error reason => exact Task.asks_pure _ _
    | ok contents =>
      simp only
      split
      · exact Task.asks_pure _ _
      · exact (Task.asks_setState _ _).bind fun _ => Task.asks_pure _ _

/-- What is done after a statement was executed. -/
def ended {σ : Type} : Except String (Option (List Value)) → Task σ Answer
  | .ok rows => do
    Task.query .commit
    Task.query .close
    return .rows (rows.getD [])
  | .error reason => do
    Task.query .rollback
    Task.query .close
    return .failed reason

theorem asks_ended {σ : Type} (hbeside : ∀ q, q.Quiet → q.Offline → P q)
    (r : Except String (Option (List Value))) : (ended (σ := σ) r).Asks P := by
  have hclose : P .close := hbeside _ rfl rfl
  cases r with
  | ok rows => exact ⟨hbeside _ rfl rfl, fun _ => ⟨hclose, fun _ => trivial⟩⟩
  | error reason => exact ⟨hbeside _ rfl rfl, fun _ => ⟨hclose, fun _ => trivial⟩⟩

theorem executeAndClose_eq {σ : Type} (text : String) (parameters : List Value) :
    executeAndClose (σ := σ) text parameters = .ask (.execute text (passed parameters)) ended := by
  refine congrArg (Task.ask (.execute text (passed parameters))) (funext fun r => ?_)
  cases r <;> rfl

/-- Two queries with the same text differ only once the statement has been executed; one that ends
before has failed. -/
theorem sameSql_execute (text : String) (parameters parameters' : List Value) :
    Task.SameSql (fun a b => a = b ∧ ∀ rows, a ≠ .ok (.rows rows))
      (execute store text parameters) (execute store text parameters') := by
  have hquiet (q : Query) (h : q.Quiet) (_ : q.Offline) : q.Quiet := h
  refine (asks_address store hquiet).sameSql_bind fun url => ?_
  cases url with
  | error f => exact .done ⟨rfl, fun rows h => nomatch h⟩
  | ok url =>
    refine .ask rfl fun connected => ?_
    cases connected with
    | error reason => exact .done ⟨rfl, fun rows h => nomatch h⟩
    | ok _ =>
      let answered : Answer → Task Address (Except Failure Answer) := fun answer => pure (.ok answer)
      show Task.SameSql _ (executeAndClose text parameters >>= answered)
        (executeAndClose text parameters' >>= answered)
      rw [executeAndClose_eq, executeAndClose_eq]
      exact .execute (fun r => (asks_ended hquiet r).bind fun _ => Task.asks_pure _ _)
        fun r => (asks_ended hquiet r).bind fun _ => Task.asks_pure _ _

theorem asks_execute (hbeside : ∀ q, q.Quiet → q.Offline → P q) {text : String} {parameters : List Value}
    (hexecute : P (.execute text (passed parameters))) :
    (execute store text parameters).Asks P := by
  refine (asks_address store hbeside).bind fun url => ?_
  cases url with
  | error f => exact Task.asks_pure _ _
  | ok url =>
    have hconnect : P (.connect url) := hbeside _ rfl rfl
    refine (Task.asks_query hconnect).bind fun connected => ?_
    cases connected with
    | error reason => exact Task.asks_pure _ _
    | ok _ =>
      refine Task.Asks.bind ?_ fun answer => Task.asks_pure _ _
      rw [executeAndClose_eq]
      exact ⟨hexecute, asks_ended hbeside⟩

theorem asks_run (hbeside : ∀ q, q.Quiet → q.Offline → P q) {operation query : String} {table filters : Value}
    (hexecute : ∀ text parameters, statementOf operation table filters query = .ok (text, parameters) →
      P (.execute text (passed parameters))) :
    (run store operation table filters query).Asks P := by
  unfold run
  split
  · exact Task.asks_pure _ _
  · cases hs : statementOf operation table filters query with
    | error f => exact Task.asks_pure _ _
    | ok statement =>
      obtain ⟨text, parameters⟩ := statement
      refine (asks_execute store hbeside (hexecute text parameters hs)).bind fun answer => ?_
      cases answer <;> exact Task.asks_pure _ _

/-- Two queries for which the text is the same, or the failure to make one. -/
theorem sameSql_run {operation query : String} {table filters filters' : Value}
    (h : (statementOf operation table filters query).map Prod.fst =
      (statementOf operation table filters' query).map Prod.fst) :
    Task.SameSql (fun a b => a = b ∧ ∀ rows, a ≠ .ok (.rows rows))
      (run store operation table filters query) (run store operation table filters' query) := by
  unfold run
  split
  · exact .done ⟨rfl, fun rows h => nomatch h⟩
  · cases hs : statementOf operation table filters query with
    | error f =>
      cases hs' : statementOf operation table filters' query with
      | error f' =>
        rw [hs, hs'] at h
        obtain rfl := Except.error.inj h
        exact .done ⟨rfl, Answer.ofFailure_ne_rows f⟩
      | ok statement' =>
        rw [hs, hs'] at h
        cases h
    | ok statement =>
      cases hs' : statementOf operation table filters' query with
      | error f' =>
        rw [hs, hs'] at h
        cases h
      | ok statement' =>
        rw [hs, hs'] at h
        obtain ⟨text, parameters⟩ := statement
        obtain ⟨text', parameters'⟩ := statement'
        obtain rfl : text = text' := Except.ok.inj h
        refine (sameSql_execute store text parameters parameters').bind ?_ ?_ ?_
        · rintro a b ⟨rfl, ha⟩
          cases a with
          | error f => exact .done ⟨rfl, Answer.ofFailure_ne_rows f⟩
          | ok answer => exact .done ⟨rfl, ha⟩
        · intro a
          cases a <;> exact Task.asks_pure _ _
        · intro b
          cases b <;> exact Task.asks_pure _ _

theorem orObject_object (fs : Entries Value) : (Value.object fs).orObject = .object fs := by
  cases fs <;> rfl

theorem bound_of_statementOf {operation text : String} {table : Value} {fs : Entries Value}
    {parameters : List Value}
    (h : statementOf operation table (.object fs) "" = .ok (text, parameters)) :
    Bound fs operation text parameters := by
  unfold statementOf at h
  rw [if_neg (fun hne => hne rfl), orObject_object] at h
  obtain ⟨s, hs, h⟩ := bind_eq_ok_iff.mp h
  obtain ⟨rfl, rfl⟩ := Prod.mk.inj (pure_eq_ok_iff.mp h)
  exact Statement.bound_of_build hs

/-- The text of a query does not depend on the values of the filters. -/
theorem statementOf_map {g : Value → Value} (hg : Value.KeepsShape g) (operation : String)
    (table : Value) (fs : Entries Value) (query : String) :
    (statementOf operation table (.object (Entries.mapValues g fs)) query).map Prod.fst =
      (statementOf operation table (.object fs) query).map Prod.fst := by
  unfold statementOf
  rw [orObject_object, orObject_object, Statement.build_map hg]
  by_cases hq : query ≠ ""
  · rw [if_pos hq, if_pos hq]
  · rw [if_neg hq, if_neg hq]
    cases Statement.build operation table (.object fs) with
    | error f => rfl
    | ok s => exact congrArg Except.ok (s.text_mapValues g)

end Database

/-! ### Nodes that query the database -/

/-- What is found out by a query. -/
def queried (n : Node) (f : Filled) : Except Failure Database.Answer → Finding
  | .error e => .ofFailure n e
  | .ok (.failed error) =>
    { success := false, output := [("operation", .str (f.text "operation"))], error := .str error }
  | .ok (.rows rows) =>
    { output := [("operation", .str (f.text "operation")), ("count", .int rows.length),
        ("rows", .list rows)],
      writes := [(f.text "save_as", .list rows)] }

section

variable {registered : Registered} {c : NodeContext} {n : Node} {f : Filled} {fs : Entries Value}

theorem handlerOf?_database (hr : registered.find? "database_query" = none)
    (ht : n.type = "database_query") : handlerOf? registered n.type = some Services.database := by
  rw [ht, handlerOf?, hr]
  rfl

/-- The filters of a node that queries the database are an object. -/
theorem exists_filters (ht : n.type = "database_query") (hf : n.filled = .ok f) :
    ∃ fs, f.get "filters" = .object fs := by
  have hfill := Node.fill_of_filled hf
  rw [ht] at hfill
  have hfield : Entries.find? Forms.database "filters" =
      some (["filters"], .object, .object []) := rfl
  rcases Form.get_of_fill hfill hfield with h | ⟨w, hw⟩
  · exact ⟨[], h⟩
  · cases w with
    | object fs => exact ⟨fs, (Option.some.inj hw).symm⟩
    | _ => cases hw

theorem findOut_of_not_filled (hr : registered.find? "database_query" = none)
    (ht : n.type = "database_query") {e : Failure} (hf : n.filled = .error e) :
    findOut registered c n = pure (.ofFailure n e) := by
  unfold findOut handled
  rw [handlerOf?_database hr ht, hf]
  rfl

/-- The handler fills the filters and runs the query. -/
theorem run_database (c : NodeContext) (n : Node) (f : Filled) :
    (Services.database c n f).run =
      match c.scope.fillAll (f.get "filters") with
      | .error e => pure (.error e)
      | .ok filters => do
        let answer ← Database.run c.accounts.secrets (f.text "operation") (f.text "table") filters
          (f.text "query")
        return answer.map fun a => queried n f (.ok a) := by
  unfold Services.database NodeContext.fillAll
  cases c.scope.fillAll (f.get "filters") with
  | error e => rfl
  | ok filters =>
    refine congrArg (Database.run c.accounts.secrets (f.text "operation") (f.text "table") filters
      (f.text "query") >>= ·) (funext fun answer => ?_)
    cases answer with
    | error e => rfl
    | ok a => cases a <;> rfl

/-- A handler ends by showing what it says of an error. -/
def Finding.checked (finding : Finding) : Handling := do
  let _ ← Task.attempt finding.errorText
  return finding

/-- What is found out about a node when its handler has come to this. -/
def settled (n : Node) : Except Failure Finding → Task Database.Address Finding
  | .ok finding => pure finding
  | .error e => pure (.ofFailure n e)

/-- A node that queries the database fills its filters and runs its query. -/
theorem findOut_database (hr : registered.find? "database_query" = none)
    (ht : n.type = "database_query") (hf : n.filled = .ok f) :
    findOut registered c n =
      match c.scope.fillAll (f.get "filters") with
      | .error e => pure (.ofFailure n e)
      | .ok filters => do
        let answer ← Database.run c.accounts.secrets (f.text "operation") (f.text "table") filters
          (f.text "query")
        return queried n f answer := by
  unfold findOut handled
  rw [handlerOf?_database hr ht, hf]
  show (Services.database c n f >>= Finding.checked).run >>= settled n = _
  rw [ExceptT.run_bind, run_database]
  cases c.scope.fillAll (f.get "filters") with
  | error e => rfl
  | ok filters =>
    simp only [bind_assoc]
    refine congrArg (Database.run c.accounts.secrets (f.text "operation") (f.text "table") filters
      (f.text "query") >>= ·) (funext fun answer => ?_)
    cases answer with
    | error e => rfl
    | ok a => cases a <;> rfl

/-- What a node can see when the variables are others. -/
def NodeContext.withVars (c : NodeContext) (vars : Entries Value) : NodeContext :=
  { c with scope := { c.scope with vars := vars } }

/-- A finding that something went wrong, which it says. -/
def Finding.Failed (g : Finding) : Prop := g.success = false ∧ ∃ e, g.error = .str e

theorem Finding.failed_ofFailure (n : Node) (e : Failure) : (ofFailure n e).Failed :=
  ⟨rfl, e.message, rfl⟩

/-- A query that did not come to rows has failed. -/
theorem failed_queried {answer : Except Failure Database.Answer}
    (h : ∀ rows, answer ≠ .ok (.rows rows)) : (queried n f answer).Failed := by
  cases answer with
  | error e => exact Finding.failed_ofFailure n e
  | ok a =>
    cases a with
    | failed error => exact ⟨rfl, error, rfl⟩
    | rows found => exact absurd rfl (h found)

/-- Whatever the variables are, the same is passed to the database but for the parameters. -/
theorem sameSql_findOut (hr : registered.find? "database_query" = none)
    (ht : n.type = "database_query") (c : NodeContext) (vars vars' : Entries Value) :
    Task.SameSql (fun g g' => g = g' ∧ g.Failed) (findOut registered (c.withVars vars) n)
      (findOut registered (c.withVars vars') n) := by
  cases hf : n.filled with
  | error e =>
    rw [findOut_of_not_filled hr ht hf, findOut_of_not_filled hr ht hf]
    exact .done ⟨rfl, Finding.failed_ofFailure n e⟩
  | ok f =>
    obtain ⟨fs, hfs⟩ := exists_filters ht hf
    have hfill (vars : Entries Value) : (c.withVars vars).scope.fillAll (f.get "filters") =
        if Scope.valueAsksClock (f.get "filters") && !c.scope.locale.isDated then .error .noDate
        else .ok ((c.withVars vars).scope.interpolateAll (f.get "filters")) := rfl
    rw [findOut_database hr ht hf, findOut_database hr ht hf, hfill vars, hfill vars']
    by_cases hdate : (Scope.valueAsksClock (f.get "filters") && !c.scope.locale.isDated) = true
    · rw [if_pos hdate, if_pos hdate]
      exact .done ⟨rfl, Finding.failed_ofFailure n .noDate⟩
    · rw [if_neg hdate, if_neg hdate, hfs, (Scope.keepsShape _).object, (Scope.keepsShape _).object]
      have htext := (Database.statementOf_map (c.withVars vars).scope.keepsShape (f.text "operation")
        (f.text "table") fs (f.text "query")).trans
        (Database.statementOf_map (c.withVars vars').scope.keepsShape (f.text "operation")
          (f.text "table") fs (f.text "query")).symm
      refine (Database.sameSql_run _ htext).bind ?_ (fun _ => Task.asks_pure _ _)
        fun _ => Task.asks_pure _ _
      rintro a b ⟨rfl, ha⟩
      exact .done ⟨rfl, failed_queried ha⟩

/-- A statement that is executed for filters and has no words of its own is the one that the operation
makes of the filled filters. -/
theorem asks_findOut (hr : registered.find? "database_query" = none)
    (ht : n.type = "database_query") (hf : n.filled = .ok f) (hfs : f.get "filters" = .object fs)
    (hq : f.text "query" = "") :
    (findOut registered c n).Asks fun q => ∀ text parameters, q = .execute text parameters →
      Database.Bound (c.scope.interpolateFields fs) (f.text "operation") text
        (parameters.getD []) := by
  rw [findOut_database hr ht hf, Scope.fillAll_eq]
  split
  · exact Task.asks_pure _ _
  · rename_i filters hfilters
    obtain rfl : c.scope.interpolateAll (f.get "filters") = filters := by
      split at hfilters
      · cases hfilters
      · exact Except.ok.inj hfilters
    refine (Database.asks_run _ (fun q hquiet _ text parameters h => ?_) fun text parameters hs => ?_).bind
      fun _ => Task.asks_pure _ _
    · rw [h] at hquiet
      cases hquiet
    · intro text' parameters' h
      obtain ⟨rfl, rfl⟩ := Query.execute.inj h
      rw [Database.getD_passed]
      rw [hfs, Scope.interpolateAll, hq] at hs
      exact Database.bound_of_statementOf hs

/-- **The text of a statement does not depend on the variables of a run.**  With two stores of variables
a node that queries the database passes the same text to it, or ends with the same failure before.
And if the node has no query in words, the text has a placeholder for each parameter, the parameters
are the filled filters in their order, and an update or deletion is about the one row that the filled
filter `id` names. -/
theorem sql_text_independent (hr : registered.find? "database_query" = none)
    (ht : n.type = "database_query") (c : NodeContext) :
    (∀ vars vars' world s asked,
      Task.SameRun (fun x y => ∃ r after after' e, x = .ok (r, after) ∧ y = .ok (r, after') ∧
          r.success = false ∧ r.error = some e) asked
        ((execute registered (c.withVars vars) n).run.run world s asked)
        ((execute registered (c.withVars vars') n).run.run world s asked)) ∧
    ∀ f, n.filled = .ok f → f.text "query" = "" → ∃ fs, f.get "filters" = .object fs ∧
      ∀ world s asked, ∃ more,
        ((execute registered c n).run.run world s asked).asked = asked ++ more ∧
        ∀ text parameters, .execute text parameters ∈ more →
          Database.Bound (c.scope.interpolateFields fs) (f.text "operation") text
            (parameters.getD []) := by
  refine ⟨fun vars vars' world s asked => ?_, fun f hf hq => ?_⟩
  · refine Task.SameSql.run ?_ world s asked
    unfold execute
    rw [Task.run_lift_bind, Task.run_lift_bind]
    refine (sameSql_findOut hr ht c vars vars').bind ?_ (fun _ => Task.asks_pure _ _)
      fun _ => Task.asks_pure _ _
    rintro g _ ⟨rfl, hsuccess, e, he⟩
    refine .done ⟨g.result n, _, _, e, rfl, rfl, hsuccess, ?_⟩
    show g.error.text? = some e
    rw [he]
    rfl
  · obtain ⟨fs, hfs⟩ := exists_filters ht hf
    refine ⟨fs, hfs, fun world s asked => ?_⟩
    have hasks : (execute registered c n).run.Asks fun q => ∀ text parameters,
        q = .execute text parameters → Database.Bound (c.scope.interpolateFields fs)
          (f.text "operation") text (parameters.getD []) := by
      unfold execute
      rw [Task.run_lift_bind]
      exact (asks_findOut hr ht hf hfs hq).bind fun _ => Task.asks_pure _ _
    obtain ⟨more, hmore, hbound⟩ := hasks.asked world s asked
    exact ⟨more, hmore, fun text parameters h => hbound _ h text parameters rfl⟩

end

/-- What a node can see of a service that has a database and nothing else. -/
def NodeContext.querying : NodeContext where
  accounts :=
    { whatsapp := ⟨"", "", "", .null⟩, httpTimeout := .null, sheet := ⟨"", .null⟩,
      completion := ⟨"", "", .null⟩, email := ⟨"", "", .null⟩, database := some (.str "db"),
      secrets := ⟨"", ""⟩ }
  now := ⟨0⟩
  document := ⟨[], [], none⟩
  scope := ⟨[], ⟨⟨0⟩, "UTC", ""⟩⟩

/-- A node that writes a reply of the user into a row. -/
def Node.renaming : Node :=
  ⟨"rename", "database_query", [("operation", .str "update"), ("table", .str "users"),
    ("filters", .object [("name", .str "\x7b\x7breply\x7d\x7d"), ("id", .int 7)])], none, "", []⟩

/-- A world in which the database can be reached, and replies to nothing. -/
def World.connecting : World := fun _ q =>
  match q with
  | .connect _ => some (.ok ())
  | _ => none

/-- What comes of that node when the user has replied this. -/
def Node.renamed (reply : String) :
    Task.Progress Database.Address (Except Failure (NodeResult × Entries Value)) :=
  (execute [] (NodeContext.querying.withVars [("reply", .str reply)]) .renaming).run.run .connecting
    (some (.str "db")) []

theorem Node.renaming_filled : ∃ f, Node.renaming.filled = .ok f ∧ f.text "query" = "" :=
  ⟨_, by with_unfolding_all rfl, by with_unfolding_all rfl⟩

/-- A reply that looks like a statement does not become a part of one. -/
theorem sql_text_independent_renaming :
    statements (Node.renamed "Ann").asked =
      ["UPDATE \"users\" SET \"name\" = %s WHERE id = %s RETURNING *"] ∧
    statements (Node.renamed "'; DROP TABLE users; --").asked =
      statements (Node.renamed "Ann").asked ∧
    ∃ f fs, Node.renaming.filled = .ok f ∧ f.get "filters" = .object fs ∧
      ∀ text parameters, .execute text parameters ∈ (Node.renamed "Ann").asked →
        Database.Bound
          ((NodeContext.querying.withVars [("reply", .str "Ann")]).scope.interpolateFields fs)
          (f.text "operation") text (parameters.getD []) := by
  obtain ⟨hsame, hbound⟩ := @sql_text_independent [] .renaming rfl rfl
    (NodeContext.querying.withVars [("reply", .str "Ann")])
  obtain ⟨f, hf, hq⟩ := Node.renaming_filled
  obtain ⟨fs, hfs, hasked⟩ := hbound f hf hq
  obtain ⟨more, hmore, hmember⟩ := hasked .connecting (some (.str "db")) []
  refine ⟨by decide +kernel, ?_, f, fs, hf, hfs, fun text parameters h => ?_⟩
  · have hrun := hsame [("reply", .str "'; DROP TABLE users; --")] [("reply", .str "Ann")]
      .connecting (some (.str "db")) []
    exact hrun.statements_eq
  · have hrun : (Node.renamed "Ann").asked = more := hmore
    rw [hrun] at h
    exact hmember text parameters h

end ChatFlow
