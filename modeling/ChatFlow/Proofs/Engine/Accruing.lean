import Mathlib.Data.List.Forall2
import ChatFlow.Proofs.Engine.Course
import ChatFlow.Proofs.Node.Fetching

/-!
# What the variables of a run come from

No variable of a run is ever taken away.  A node writes what its finding names and then its
record, and a reply that the run has waited for adds some more.  So a variable has what
was written under its name last, or what the run set out with (`Accrues.find?_eq`).

A reply to a request is written under several names, and a later one under the same name
takes the place of all of it and of the fields that it has as well.  A field that only the
earlier one had is still read (`field_read_until_rewritten`).
-/

namespace ChatFlow

/-! ### Changes -/

/-- What changes the variables of a run. -/
inductive Change where
  | executed (n : Node) (g : Finding)
  /-- The run has waited for a reply, which adds these variables. -/
  | answered (further : Entries Value)

namespace Change

variable {vars : Entries Value} {name : String}

/-- The variables after a change. -/
def apply (vars : Entries Value) : Change → Entries Value
  | executed n g => g.vars n vars
  | answered further => vars.merge further

/-- What a change writes under a name, the last one of it. -/
def written? (name : String) : Change → Option Value
  | executed n g =>
    if name = n.id then some (.object (g.result n).output)
    else (Entries.ofPairs g.writes).find? name
  | answered further => (Entries.ofPairs further).find? name

/-- A change takes nothing away. -/
theorem find?_apply (change : Change) :
    (change.apply vars).find? name = (change.written? name).or (vars.find? name) := by
  cases change with
  | answered further => exact Entries.find?_merge vars further name
  | executed n g =>
    show ((vars.merge g.writes).put n.id _).find? name = _
    rw [Entries.find?_put, Entries.find?_merge, written?]
    split <;> rfl

/-- What some changes have written last under a name. -/
def lastWritten? (changes : List Change) (name : String) : Option Value :=
  changes.reverse.findSome? (written? name)

theorem lastWritten?_append_singleton (changes : List Change) (change : Change) :
    lastWritten? (changes ++ [change]) name =
      (change.written? name).or (lastWritten? changes name) := by
  rw [lastWritten?, List.reverse_append, List.reverse_singleton, List.singleton_append,
    List.findSome?_cons]
  cases change.written? name <;> rfl

end Change

/-! ### The variables of a run -/

namespace Journey

variable {j : Journey} {service : Service} {world : World} {p : Point} {n : Node}
  {database : Database.Address} {asked : List Query}

/-- The node at a point exists, and this is found out about it. -/
structure Finds (j : Journey) (service : Service) (world : World) (p : Point) (n : Node)
    (g : Finding) (database : Database.Address) (asked : List Query) : Prop where
  node : p.place.bind j.document.node = some n
  run : (findOut [] (j.context service p.vars) n).run world p.database p.asked =
    ⟨database, asked, .inr g⟩

/-- Executing a node is finding something out about it. -/
theorem Executes.exists_finds (hx : service.executor = execute [])
    {outcome : Except Failure (NodeResult × Entries Value)}
    (h : j.Executes service world p n outcome database asked) :
    ∃ g, j.Finds service world p n g database asked ∧
      outcome = .ok (g.result n, g.vars n p.vars) := by
  obtain ⟨hnode, hrun⟩ := h
  rw [hx] at hrun
  obtain ⟨g, hg, houtcome⟩ := exists_finding_of_run hrun
  exact ⟨g, ⟨hnode, hg⟩, houtcome⟩

end Journey

/-- The variables that a run has come to by these changes since it set out with the first ones.  It may
have been resumed meanwhile, by another service, in another world, and with another document. -/
inductive Accrues (first : Entries Value) : List Change → Entries Value → Prop
  | start : Accrues first [] first
  | executed {changes : List Change} {j : Journey} {service : Service} {world : World}
      {p : Journey.Point} {n : Node} {g : Finding} {database : Database.Address}
      {asked : List Query} (h : Accrues first changes p.vars)
      (finds : j.Finds service world p n g database asked) :
      Accrues first (changes ++ [.executed n g]) (g.vars n p.vars)
  | answered {changes : List Change} {vars : Entries Value} (h : Accrues first changes vars)
      (further : Entries Value) : Accrues first (changes ++ [.answered further]) (vars.merge further)

section

variable {first vars : Entries Value} {changes : List Change}

/-- A variable has what was written last under its name, or what the run set out with. -/
theorem Accrues.find?_eq (h : Accrues first changes vars) (name : String) :
    vars.find? name = (Change.lastWritten? changes name).or (first.find? name) := by
  induction h with
  | start => rfl
  | @executed changes j service world p n g database asked h finds ih =>
    rw [Change.lastWritten?_append_singleton, Option.or_assoc, ← ih]
    exact Change.find?_apply (.executed n g)
  | answered h further ih =>
    rw [Change.lastWritten?_append_singleton, Option.or_assoc, ← ih]
    exact Change.find?_apply (.answered further)

/-- A visit is such a change. -/
def Journey.Visit.Makes (v : Journey.Visit) (change : Change) : Prop :=
  ∃ g : Finding, change = .executed v.node g ∧ v.result = g.result v.node

namespace Journey

variable {j : Journey} {service : Service} {world : World} {left : Nat} {p q : Point} {n : Node}
  {r : NodeResult} {database : Database.Address} {asked : List Query} {visits : List Visit}
  {ending : Ending}

theorem Executes.accrues (hx : service.executor = execute []) (h : Accrues first changes p.vars)
    (he : j.Executes service world p n (.ok (r, vars)) database asked) :
    ∃ change, Visit.Makes ⟨n, r⟩ change ∧ Accrues first (changes ++ [change]) vars := by
  obtain ⟨g, hg, heq⟩ := he.exists_finds hx
  obtain ⟨rfl, rfl⟩ := Prod.mk.inj (Except.ok.inj heq)
  exact ⟨_, ⟨g, rfl, rfl⟩, .executed h hg⟩

/-- A visit comes first, and then those that are made after it. -/
theorem Executes.accrues_onward (hx : service.executor = execute [])
    (h : Accrues first changes p.vars)
    (he : j.Executes service world p n (.ok (r, vars)) database asked)
    (hrest : ∀ change, Accrues first (changes ++ [change]) vars →
      ∃ more, List.Forall₂ Visit.Makes visits more ∧
        Accrues first (changes ++ [change] ++ more) q.vars) :
    ∃ more, List.Forall₂ Visit.Makes (⟨n, r⟩ :: visits) more ∧
      Accrues first (changes ++ more) q.vars := by
  obtain ⟨change, hchange, hnext⟩ := he.accrues hx h
  obtain ⟨more, hmore, hq⟩ := hrest change hnext
  refine ⟨change :: more, .cons hchange hmore, ?_⟩
  rwa [List.append_assoc] at hq

/-- What a walk makes of the variables that a run has come to, the run has come to. -/
theorem Walks.accrues (hx : service.executor = execute []) (h : Accrues first changes p.vars)
    (hw : j.Walks service world left p visits ending q) :
    ∃ more, List.Forall₂ Visit.Makes visits more ∧ Accrues first (changes ++ more) q.vars := by
  induction hw generalizing changes with
  | onward he ha hs hw ih => exact he.accrues_onward hx h fun _ hnext => ih hnext
  | paused he | stopped he =>
    exact he.accrues_onward hx h fun _ hnext => ⟨[], .nil, by rwa [List.append_nil]⟩
  | _ => exact ⟨[], .nil, by rwa [List.append_nil]⟩

/-- On the way it is so as well. -/
theorem Passes.accrues (hx : service.executor = execute []) (h : Accrues first changes p.vars)
    (hp : j.Passes service world p visits q) :
    ∃ more, List.Forall₂ Visit.Makes visits more ∧ Accrues first (changes ++ more) q.vars := by
  induction hp generalizing changes with
  | here => exact ⟨[], .nil, by rwa [List.append_nil]⟩
  | onward he ha hs hp ih => exact he.accrues_onward hx h fun _ hnext => ih hnext

end Journey

/-- What a resumed run sets out with is what it had come to when it paused, and what the reply adds. -/
theorem Resumes.accrues {service : Service} {s s₁ : EngineState} {conversation flow : String}
    {further : Entries Value} {p : Pause} {d : Departure}
    (h : Resumes service s conversation flow further (.resumes d) s₁)
    (hp : s.pauses.lookup conversation = some p) (hvars : Accrues first changes p.vars) :
    Accrues first (changes ++ [.answered further]) d.vars := by
  cases h with
  | reopens hp' | renews hp' =>
    obtain rfl := Option.some.inj (hp'.symm.trans hp)
    exact hvars.answered further

end

/-! ### The fields of replies -/

/-- A request that did what it is for has got a reply, and writes what this becomes. -/
theorem Journey.Executes.exists_fetched {j : Journey} {service : Service} {world : World}
    {p : Journey.Point} {n : Node} {r : NodeResult} {vars : Entries Value}
    {database : Database.Address} {asked : List Query} (hx : service.executor = execute [])
    (he : j.Executes service world p n (.ok (r, vars)) database asked)
    (hn : n.type ∈ NodeKind.requestTypes) (hs : r.success = true) :
    ∃ g f reply data, j.Finds service world p n g database asked ∧ r = g.result n ∧
      vars = g.vars n p.vars ∧ n.Fetched world p.asked asked f reply data ∧
      g.writes =
        Services.replyVariables f.replyName reply.status (Http.phraseOf reply.status) data := by
  obtain ⟨g, hg, heq⟩ := he.exists_finds hx
  obtain ⟨rfl, rfl⟩ := Prod.mk.inj (Except.ok.inj heq)
  obtain ⟨f, reply, data, hfetched, hwrites⟩ := fetched_of_run hn hg.run hs
  exact ⟨g, f, reply, data, hg, rfl, rfl, hfetched, hwrites⟩

/-- A request that did what it is for has written the fields of its reply. -/
theorem Change.written?_field {n : Node} {g : Finding} {base name : String} {status : Nat}
    {reason : String} {data : Value}
    (hwrites : g.writes = Services.replyVariables base status reason data) (hdata : data.Keyed)
    (hid : base ++ "." ++ name ≠ n.id) :
    (Change.executed n g).written? (base ++ "." ++ name) =
      (data.field? name).or ((Services.replyHead status reason).find? name) := by
  have hempty : (Entries.merge [] g.writes).find? (base ++ "." ++ name) =
      (data.field? name).or (((Services.replyHead status reason).find? name).or none) := by
    rw [hwrites]
    exact Services.find?_merge_replyVariables_field hdata
  rw [Option.or_none] at hempty
  rw [written?, if_neg hid]
  exact hempty

/-- What is read behind the name of a reply, if it is none of the names of how the reply went. -/
theorem Accrues.read_field {first before : Entries Value} {changes : List Change}
    (h : Accrues first changes before) {n : Node} {g : Finding} {base name : String} {status : Nat}
    {reason : String} {data : Value} {locale : Locale}
    (hwrites : g.writes = Services.replyVariables base status reason data) (hdata : data.Keyed)
    (hdotless : '.' ∉ name.toList) (hown : name ∉ ["status", "statusText"])
    (hstrip : Text.strip (base ++ "." ++ name) = base ++ "." ++ name)
    (hsystem : Scope.systemVariable? locale (base ++ "." ++ name) = none)
    (hdated : Scope.asksClock (base ++ "." ++ name) = true → locale.isDated = true) :
    (Scope.mk (g.vars n before) locale).read (base ++ "." ++ name) = .ok (
      if n.id = base ++ "." ++ name then some (.object (g.result n).output)
      else (data.field? name).or ((Change.lastWritten? changes (base ++ "." ++ name)).or
        ((first.find? (base ++ "." ++ name)).or
          (if n.id = base then (g.result n).output.find? name else none)))) := by
  have hread : (Scope.mk (g.vars n before) locale).read (base ++ "." ++ name) =
      .ok (Scope.resolve (g.vars n before) (base ++ "." ++ name)) :=
    Scope.read_eq_resolve hstrip hsystem hdated
  have hnone : (Services.replyHead status reason).find? name = none := Entries.find?_eq_none hown
  rw [hread, Finding.resolve_vars_field hwrites hdata hdotless, hnone, Option.none_or, h.find?_eq,
    Option.or_assoc]

/-- **A field of a reply is read until its name is written again.**  After a request that did what it is
for, in whatever run and however often replies were kept under its name before, a name without a dot
behind it is read as the field of this reply if it has one.  If it has none, then as what was written
last under the whole name since the run set out, be it by an earlier reply, by another node or by what
the user sent, and else as what the run set out with.  Nothing is read if there is no such thing either,
but that a node which is named like the reply has put its record there.  The names of how a reply went
are set apart, and the path must have no blanks around it, mean no system variable and, if it asks the
clock, be read while this shows a date. -/
theorem field_read_until_rewritten {first : Entries Value} {changes : List Change} {j : Journey}
    {service : Service} {world : World} {p : Journey.Point} {n : Node} {r : NodeResult}
    {vars : Entries Value} {database : Database.Address} {asked : List Query}
    (hx : service.executor = execute []) (h : Accrues first changes p.vars)
    (he : j.Executes service world p n (.ok (r, vars)) database asked)
    (hn : n.type ∈ NodeKind.requestTypes) (hs : r.success = true) :
    ∃ f reply data, n.Fetched world p.asked asked f reply data ∧
      ∀ name path, path = f.replyName ++ "." ++ name → '.' ∉ name.toList →
        name ∉ ["status", "statusText"] → Text.strip path = path →
        Scope.systemVariable? service.locale path = none →
        (Scope.asksClock path = true → service.locale.isDated = true) →
        (j.context service vars).scope.read path = .ok (
          if n.id = path then some (.object r.output)
          else (data.field? name).or ((Change.lastWritten? changes path).or
            ((first.find? path).or (if n.id = f.replyName then r.output.find? name else none)))) := by
  obtain ⟨g, f, reply, data, -, rfl, rfl, hfetched, hwrites⟩ := he.exists_fetched hx hn hs
  refine ⟨f, reply, data, hfetched, ?_⟩
  rintro name path rfl hdotless hown hstrip hsystem hdated
  exact h.read_field hwrites hfetched.said.keyed hdotless hown hstrip hsystem hdated

/-- A reply with one field. -/
def HttpReply.first : HttpReply := ⟨200, [], "\x7b\"a\":\"1\"\x7d"⟩

/-- A reply with another one. -/
def HttpReply.second : HttpReply := ⟨200, [], "\x7b\"b\":\"2\"\x7d"⟩

theorem HttpReply.first_says {data : Value} (h : first.Says data) :
    data.field? "a" = some (.str "1") := h.field?_eq_str rfl (by decide +kernel)

theorem HttpReply.second_says {data : Value} (h : second.Says data) :
    data.field? "b" = some (.str "2") ∧ data.field? "a" = none :=
  ⟨h.field?_eq_str rfl (by decide +kernel), h.field?_eq_none rfl (by decide +kernel)⟩

/-- A world that gives the one to the first request and the other one to all that follow. -/
def World.inTurn : World := fun asked q =>
  match q with
  | .http _ => some (.replied (if asked.isEmpty then .first else .second))
  | _ => none

/-- A run of a flow that sends two requests and keeps both replies under the same name. -/
def Journey.refetching : Journey where
  flow := "f"
  conversation := "c"
  run := "e"
  document :=
    { nodes := [.fetching "one" "r", .fetching "two" "r"],
      edges := [⟨"one->two", "one", "two", none, none, []⟩], start := none }

/-- Both requests of that run are sent, and both replies are kept. -/
structure Journey.Refetches (one two : NodeResult) (p q : Journey.Point) : Prop where
  first : refetching.Executes .alone .inTurn ⟨some "one", [], none, []⟩ (.fetching "one" "r")
    (.ok (one, p.vars)) p.database p.asked
  second : refetching.Executes .alone .inTurn p (.fetching "two" "r") (.ok (two, q.vars)) q.database
    q.asked
  succeeds : one.success = true ∧ two.success = true

theorem Journey.exists_refetches : ∃ one two p q, Refetches one two p q ∧
    refetching.Passes .alone .inTurn ⟨some "one", [], none, []⟩
      [⟨.fetching "one" "r", one⟩, ⟨.fetching "two" "r", two⟩] q := by
  obtain ⟨one, two, q, hpasses, hone, htwo⟩ : ∃ one two q,
      refetching.Passes .alone .inTurn ⟨some "one", [], none, []⟩
        [⟨.fetching "one" "r", one⟩, ⟨.fetching "two" "r", two⟩] q ∧
        one.success = true ∧ two.success = true :=
    ⟨_, _, _, .onward ⟨by with_unfolding_all rfl, by with_unfolding_all rfl⟩ rfl rfl
      (.onward ⟨by with_unfolding_all rfl, by with_unfolding_all rfl⟩ rfl rfl (.here _)), rfl, rfl⟩
  have hcopy := hpasses
  cases hcopy with
  | onward first _ _ hrest =>
    cases hrest with
    | onward second _ _ hend =>
      cases hend
      exact ⟨one, two, _, _, ⟨first, second, hone, htwo⟩, hpasses⟩

/-- A request of that run gets the first reply if nothing was asked before it, and else the second. -/
theorem Journey.fetched_refetching {asked asked' : List Query} {id : String} {f : Filled}
    {reply : HttpReply} {data : Value}
    (h : (Node.fetching id "r").Fetched .inTurn asked asked' f reply data) :
    f.replyName = "r" ∧ (∃ request, asked' = asked ++ [.http request]) ∧
      reply = if asked.isEmpty then .first else .second := by
  obtain ⟨f', hf, hname⟩ := Node.fetching_filled id
  obtain rfl := Except.ok.inj (hf.symm.trans h.filled)
  obtain ⟨request, hasked, hreplied⟩ := h.replied
  exact ⟨hname, ⟨request, hasked⟩, (HttpOutcome.replied.inj (Option.some.inj hreplied)).symm⟩

/-- After the first request of that run its reply has been written. -/
theorem Journey.Refetches.accrues {one two : NodeResult} {p q : Journey.Point}
    (h : Refetches one two p q) : ∃ change, Accrues [] [change] p.vars ∧
      change.written? "r.a" = some (.str "1") ∧ p.asked.isEmpty = false := by
  obtain ⟨g, f, reply, data, hfinds, -, hvars, hfetched, hwrites⟩ :=
    h.first.exists_fetched rfl List.mem_cons_self h.succeeds.1
  obtain ⟨hname, ⟨request, hasked⟩, rfl⟩ := fetched_refetching hfetched
  refine ⟨.executed (.fetching "one" "r") g, ?_, ?_, ?_⟩
  · rw [hvars]
    exact .executed .start hfinds
  · rw [hname] at hwrites
    show (Change.executed (.fetching "one" "r") g).written? ("r" ++ "." ++ "a") = _
    rw [Change.written?_field hwrites hfetched.said.keyed (by decide),
      HttpReply.first_says hfetched.said]
    rfl
  · rw [hasked]
    rfl

/-- After the second request its field is read. -/
theorem field_read_until_rewritten_second : ∃ one two p q, Journey.Refetches one two p q ∧
    (Journey.refetching.context .alone q.vars).scope.read "r.b" = .ok (some (.str "2")) := by
  obtain ⟨one, two, p, q, h, -⟩ := Journey.exists_refetches
  obtain ⟨change, haccrues, -, hasked⟩ := h.accrues
  obtain ⟨f, reply, data, hfetched, hread⟩ :=
    field_read_until_rewritten rfl haccrues h.second List.mem_cons_self h.succeeds.2
  obtain ⟨hname, -, rfl⟩ := Journey.fetched_refetching hfetched
  rw [hasked] at hfetched
  have hfield := hread "b" "r.b" (by rw [hname]; decide) (by decide) (by decide) (by decide) rfl
    fun hasks => absurd hasks (by decide)
  rw [(HttpReply.second_says hfetched.said).1] at hfield
  exact ⟨one, two, p, q, h, hfield⟩

/-- The second reply has taken the place of the first one, and yet a field is read that only the first
one had. -/
theorem earlier_field_still_read : ∃ (one two : NodeResult) (p q : Journey.Point),
    Journey.refetching.Passes .alone .inTurn ⟨some "one", [], none, []⟩
      [⟨.fetching "one" "r", one⟩, ⟨.fetching "two" "r", two⟩] q ∧
    one.success = true ∧ two.success = true ∧
    (∃ f data, (Node.fetching "two" "r").Fetched .inTurn p.asked q.asked f .second data ∧
      f.replyName = "r" ∧ data.field? "b" = some (.str "2") ∧ data.field? "a" = none) ∧
    (Journey.refetching.context .alone q.vars).scope.read "r.a" = .ok (some (.str "1")) := by
  obtain ⟨one, two, p, q, h, hpasses⟩ := Journey.exists_refetches
  obtain ⟨change, haccrues, hwritten, hasked⟩ := h.accrues
  obtain ⟨g, f, reply, data, -, -, hvars, hfetched, hwrites⟩ :=
    h.second.exists_fetched rfl List.mem_cons_self h.succeeds.2
  obtain ⟨hname, -, rfl⟩ := Journey.fetched_refetching hfetched
  rw [hasked] at hfetched
  have hsaid := HttpReply.second_says hfetched.said
  refine ⟨one, two, p, q, hpasses, h.succeeds.1, h.succeeds.2, ⟨f, data, hfetched, hname, hsaid⟩, ?_⟩
  rw [hname] at hwrites
  rw [hvars]
  have hlast : Change.lastWritten? [change] ("r" ++ "." ++ "a") = some (.str "1") :=
    (Change.lastWritten?_append_singleton [] change).trans (congrArg (Option.or · none) hwritten)
  show (Scope.mk (g.vars (.fetching "two" "r") p.vars) Service.alone.locale).read
    ("r" ++ "." ++ "a") = _
  rw [haccrues.read_field hwrites hfetched.said.keyed (by decide) (by decide) (by decide) rfl
    fun hasks => absurd hasks (by decide), hlast, hsaid.2]
  rfl

end ChatFlow
