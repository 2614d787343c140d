import ChatFlow.Proofs.Node.Delivering
import ChatFlow.Proofs.Node.Telling

/-!
# Which variables a node changes

A node writes its record under its own id.  Besides, a node that did what it is for keeps
what came of it: a request keeps the reply and its parts, and a completion, a query or a
transform its value, each under the names that the settings give (`Node.Keeps`).  A node
that failed keeps nothing, but that a request keeps its error.  All other variables stay
as they are, and none is ever dropped (`variables_change_where_kept`).
-/

namespace ChatFlow

/-! ### The names that a node keeps something under -/

/-- The names under which a reply is kept: all of it, its status, and each of its fields. -/
def Services.replyNames (base : String) (data : Value) : List String :=
  [base, base ++ ".status", base ++ ".statusText"] ++ data.fields.map fun e => base ++ "." ++ e.1

theorem Services.map_replyVariables (base : String) (status : Nat) (reason : String) (data : Value) :
    (replyVariables base status reason data).map (·.1) = replyNames base data := by
  simp [replyVariables, replyNames]

/-- The types of nodes that send a request and keep the reply. -/
def NodeKind.requestTypes : List String := ["http", "api"]

/-- The types of nodes that keep a value under a name which their settings give. -/
def NodeKind.savingTypes : List String := ["ai_completion", "database_query", "transform"]

/-- A name under which a node keeps what came of it, if after these questions it went on to ask some
more: the reply that the world gave to its one request, or else a value. -/
inductive Node.Keeps (n : Node) (world : World) (asked asked' : List Query) (name : String) : Prop
  | reply {f : Filled} {request : HttpRequest} {reply : HttpReply} {data : Value}
      (type : n.type ∈ NodeKind.requestTypes) (filled : n.filled = .ok f)
      (sent : asked' = asked ++ [.http request])
      (replied : world asked (.http request) = some (.replied reply)) (said : reply.Says data)
      (named : name ∈ Services.replyNames f.replyName data)
  | value {f : Filled} (type : n.type ∈ NodeKind.savingTypes) (filled : n.filled = .ok f)
      (named : name = f.text "save_as")

/-! ### What is told is written -/

variable {n : Node} {g : Finding} {exchanges : List Exchange}

theorem NodeKind.mem_requestTypes {type : String} (h : ofType? type = some .http) :
    type ∈ requestTypes := by
  have htypes : ∀ entry ∈ types, entry.2 = http → entry.1 ∈ requestTypes := by decide
  exact htypes _ (mem_types h) rfl

theorem NodeKind.mem_savingTypes {kind : NodeKind} {type : String} (h : ofType? type = some kind)
    (hk : kind.Saves) : type ∈ savingTypes := by
  have htypes : ∀ entry ∈ types,
      entry.2 = completion ∨ entry.2 = database ∨ entry.2 = transform → entry.1 ∈ savingTypes := by
    decide
  exact htypes _ (mem_types h) hk

/-- What a node writes that did what it is for, it keeps. -/
theorem Node.Tells.keeps (h : n.Tells exchanges g) (hs : g.success = true) {world : World}
    {asked asked' : List Query} (hasked : asked' = asked ++ exchanges.map Sigma.fst)
    (hgives : world.Gives asked exchanges) {e : String × Value} (he : e ∈ g.writes) :
    n.Keeps world asked asked' e.1 := by
  cases h with
  | skipped eq =>
    rw [eq] at he
    cases he
  | failed eq =>
    rw [eq] at hs
    cases hs
  | handled known filled told =>
    cases told.writes with
    | nothing writes =>
      rw [writes] at he
      cases he
    | @reply request reply data reason hk success replied said writes =>
      subst hk replied
      refine .reply (NodeKind.mem_requestTypes known) filled hasked hgives.1 said ?_
      rw [← Services.map_replyVariables _ reply.status reason, ← writes]
      exact List.mem_map_of_mem he
    | error hk success writes =>
      rw [success] at hs
      cases hs
    | value hk success writes =>
      rw [writes] at he
      obtain rfl := List.mem_singleton.mp he
      exact .value (NodeKind.mem_savingTypes known hk) filled rfl

/-- A node that failed writes nothing but the error of a request. -/
theorem Node.Tells.failed_writes (h : n.Tells exchanges g) (hs : g.success = false)
    {e : String × Value} (he : e ∈ g.writes) :
    n.type ∈ NodeKind.requestTypes ∧ e.1 = "http.error" := by
  cases h with
  | skipped eq =>
    rw [eq] at he
    cases he
  | failed eq =>
    rw [eq] at he
    cases he
  | handled known filled told =>
    cases told.writes with
    | nothing writes =>
      rw [writes] at he
      cases he
    | reply hk success replied said writes =>
      rw [success] at hs
      cases hs
    | error hk success writes =>
      rw [writes] at he
      obtain rfl := List.mem_singleton.mp he
      subst hk
      exact ⟨NodeKind.mem_requestTypes known, rfl⟩
    | value hk success writes =>
      rw [success] at hs
      cases hs

/-- A finding changes the record of its node and the variables that it names. -/
theorem Finding.find?_vars_ne {before : Entries Value} {name : String} (hn : name ≠ n.id)
    (h : ∀ e ∈ g.writes, e.1 ≠ name) : (g.vars n before).find? name = before.find? name :=
  calc (g.vars n before).find? name
      = (Entries.merge before g.writes).find? name := Entries.find?_put_ne _ _ hn
    _ = before.find? name := Entries.find?_merge_of_forall_ne h

theorem Finding.keys_prefix_vars (g : Finding) (n : Node) (before : Entries Value) :
    Entries.keys before <+: Entries.keys (g.vars n before) :=
  (Entries.keys_prefix_merge before g.writes).trans (Entries.keys_prefix_put _ _ _)

/-- **A node changes only variables that it keeps something under.**  Whatever its type, its settings
and the replies of the world are, when it has been executed its record stands under its id, and all
variables from before are still there, in their order.  Of those under other names one that did what it
is for has changed no more than it keeps, and one that failed has changed none, but that a request
leaves its error. -/
theorem variables_change_where_kept (c : NodeContext) (n : Node) (world : World)
    (s : Database.Address) (asked : List Query) :
    let x := (execute [] c n).run.run world s asked
    ∀ v, x.outcome = .inr v → ∃ r vars, v = .ok (r, vars) ∧
      vars.find? n.id = some (.object r.output) ∧
      Entries.keys c.scope.vars <+: Entries.keys vars ∧
      (r.success = true → ∀ name, name ≠ n.id → ¬ n.Keeps world asked x.asked name →
        vars.find? name = c.scope.vars.find? name) ∧
      (r.success = false → ∀ name, name ≠ n.id →
        ¬ (n.type ∈ NodeKind.requestTypes ∧ name = "http.error") →
          vars.find? name = c.scope.vars.find? name) := by
  intro x v hv
  have hrun : (execute [] c n).run.run world s asked = ⟨x.state, x.asked, .inr v⟩ := by
    rw [← hv]
  obtain ⟨exchanges, hasked, hgives, g, htells, rfl⟩ :=
    (traces_told (Registered.fails_nil n.type)).of_run hrun
  refine ⟨g.result n, g.vars n c.scope.vars, rfl, g.find?_vars_self n _, g.keys_prefix_vars n _,
    fun hs name hn hkeeps => ?_, fun hs name hn herror => ?_⟩
  · refine Finding.find?_vars_ne hn fun e he heq => hkeeps ?_
    rw [← heq]
    exact htells.keeps hs hasked hgives he
  · refine Finding.find?_vars_ne hn fun e he heq => herror ?_
    rw [← heq]
    exact htells.failed_writes hs he

/-- A node that computes a value and keeps it under a name. -/
def Node.computing (expression name : String) : Node :=
  ⟨"t", "transform", [("expression", .str expression), ("saveAs", .str name)], none, "", []⟩

/-- What a node can see when there are values under its id and under two other names. -/
def NodeContext.valued : NodeContext :=
  { NodeContext.sending with
    scope := ⟨[("t", .int 1), ("sum", .int 2), ("name", .str "Ann")], ⟨⟨0⟩, "UTC", ""⟩⟩ }

/-- What comes of that node, which asks nothing. -/
def Node.computed (expression name : String) :
    Task.Progress Database.Address (Except Failure (NodeResult × Entries Value)) :=
  (execute [] .valued (.computing expression name)).run.run .refusing none []

/-- Without an expression the node fails and the sum stays; with one it takes the place of the sum and
of nothing else. -/
theorem variables_change_where_kept_computing :
    (∃ r vars, (Node.computed "" "sum").outcome = .inr (.ok (r, vars)) ∧ r.success = false ∧
      vars.find? "sum" = some (.int 2)) ∧
    (∃ r vars, (Node.computed "1" "sum").outcome = .inr (.ok (r, vars)) ∧ r.success = true ∧
      vars.find? "sum" = some (.int 1) ∧ vars.find? "name" = some (.str "Ann")) := by
  constructor
  · obtain ⟨r, vars, hrun, hs⟩ : ∃ r vars,
        (Node.computed "" "sum").outcome = .inr (.ok (r, vars)) ∧ r.success = false :=
      ⟨_, _, by with_unfolding_all rfl, rfl⟩
    obtain ⟨r', vars', hr, -, -, -, hfailed⟩ :=
      variables_change_where_kept .valued (.computing "" "sum") .refusing none [] _ hrun
    obtain ⟨rfl, rfl⟩ := Prod.mk.inj (Except.ok.inj hr)
    exact ⟨r, vars, hrun, hs, hfailed hs "sum" (by decide) fun h => absurd h.2 (by decide)⟩
  · obtain ⟨r, vars, hrun, hs, hsum⟩ : ∃ r vars,
        (Node.computed "1" "sum").outcome = .inr (.ok (r, vars)) ∧ r.success = true ∧
          vars.find? "sum" = some (.int 1) :=
      ⟨_, _, by with_unfolding_all rfl, rfl, by with_unfolding_all rfl⟩
    obtain ⟨r', vars', hr, -, -, hsucceeded, -⟩ :=
      variables_change_where_kept .valued (.computing "1" "sum") .refusing none [] _ hrun
    obtain ⟨rfl, rfl⟩ := Prod.mk.inj (Except.ok.inj hr)
    refine ⟨r, vars, hrun, hs, hsum, hsucceeded hs "name" (by decide) fun hkeeps => ?_⟩
    cases hkeeps with
    | reply type => exact absurd type (by decide)
    | value type filled named =>
      obtain rfl := Except.ok.inj filled
      have hne : "name" ≠ "sum" := by decide
      exact hne named

/-- Where the value is to be kept under the id of the node, a node that failed takes its place all the
same. -/
theorem failed_node_takes_own_name : ∃ f r vars, (Node.computing "" "t").filled = .ok f ∧
    f.text "save_as" = "t" ∧ (Node.computed "" "t").outcome = .inr (.ok (r, vars)) ∧
    r.success = false ∧ NodeContext.valued.scope.vars.find? "t" = some (.int 1) ∧
    vars.find? "t" = some (.object r.output) :=
  ⟨_, _, _, rfl, by with_unfolding_all rfl, by with_unfolding_all rfl, rfl, rfl,
    by with_unfolding_all rfl⟩

end ChatFlow
