import ChatFlow.Proofs.Node.Recording
import ChatFlow.Proofs.Node.Writing
import ChatFlow.Proofs.Value.Keyed
import ChatFlow.Proofs.Variables.Descent

/-!
# What is read after a reply

A request that did what it is for keeps the reply under the name that its settings give:
all of it, its status, and each of its fields under the name, a dot and the name of the
field.  The fields are written after the status, so a field that is named like it takes
its place, as in the end the record of the node does if the node is named so.  All that
is not written stays as it was before (`Finding.resolve_vars_field`).
-/

namespace ChatFlow

/-- A node has sent its one request, and this is the reply that the world gave and what its body says. -/
structure Node.Fetched (n : Node) (world : World) (asked asked' : List Query) (f : Filled)
    (reply : HttpReply) (data : Value) : Prop where
  filled : n.filled = .ok f
  replied : ∃ request, asked' = asked ++ [.http request] ∧
    world asked (.http request) = some (.replied reply)
  said : reply.Says data

/-- What the body of a reply says has been read from a text, or is one. -/
theorem HttpReply.Says.keyed {reply : HttpReply} {data : Value} (h : reply.Says data) :
    data.Keyed := by
  obtain ⟨s, -, rfl⟩ := h
  cases hs : Json.parse? s with
  | none => exact Value.within_of_not_isObject rfl
  | some v => exact Json.keyed_of_parse? hs

/-! ### What a reply leaves behind -/

namespace Services

variable {base name : String} {status : Nat} {reason : String} {data : Value}
  {vars entries : Entries Value}

/-- How a reply went, by the names behind the dot. -/
def replyHead (status : Nat) (reason : String) : Entries Value :=
  [("status", .int status), ("statusText", .str reason)]

/-- Entries under names that go on from another one. -/
def under (base : String) (entries : Entries Value) : Entries Value :=
  entries.map fun e => (base ++ "." ++ e.1, e.2)

theorem replyVariables_eq (base : String) (status : Nat) (reason : String) (data : Value) :
    replyVariables base status reason data =
      (base, data) :: (under base (replyHead status reason) ++ under base data.fields) := by
  have happend (rest : String) : base ++ "." ++ rest = base ++ ("." ++ rest) := String.append_assoc
  have hstatus : base ++ "." ++ "status" = base ++ ".status" := happend _
  have htext : base ++ "." ++ "statusText" = base ++ ".statusText" := happend _
  simp [replyVariables, under, replyHead, hstatus, htext]

theorem find?_under : (under base entries).find? (base ++ "." ++ name) = entries.find? name := by
  induction entries with
  | nil => rfl
  | cons e rest ih =>
    have hcons : under base (e :: rest) = (base ++ "." ++ e.1, e.2) :: under base rest := rfl
    rw [hcons, Entries.find?_cons, ih, Entries.find?_cons]
    simp only [Scope.below_inj]

theorem nodup_keys_under (hn : (Entries.keys entries).Nodup) :
    (Entries.keys (under base entries)).Nodup := by
  have hkeys : Entries.keys (under base entries) =
      (Entries.keys entries).map fun name => base ++ "." ++ name := by
    simp [Entries.keys, under]
  rw [hkeys]
  exact List.pairwise_map.mpr (hn.imp fun hne h => hne (Scope.below_inj.mp h))

theorem find?_merge_under (hn : (Entries.keys entries).Nodup) :
    (vars.merge (under base entries)).find? (base ++ "." ++ name) =
      (entries.find? name).or (vars.find? (base ++ "." ++ name)) := by
  rw [Entries.find?_merge, Entries.find?_ofPairs (nodup_keys_under hn), find?_under]

theorem find?_merge_under_base : (vars.merge (under base entries)).find? base = vars.find? base := by
  refine Entries.find?_merge_of_forall_ne fun e he => ?_
  obtain ⟨e, -, rfl⟩ := List.mem_map.mp he
  exact Scope.below_ne base e.1

/-- A reply is written in three steps: all of it, how it went, and its fields. -/
theorem merge_replyVariables : vars.merge (replyVariables base status reason data) =
    ((vars.put base data).merge (under base (replyHead status reason))).merge
      (under base data.fields) := by
  rw [replyVariables_eq]
  exact Entries.merge_append (vars.put base data) _ _

/-- Behind the dot a field of the reply comes first, then how it went, then what was there before. -/
theorem find?_merge_replyVariables_field (h : data.Keyed) :
    (vars.merge (replyVariables base status reason data)).find? (base ++ "." ++ name) =
      (data.field? name).or (((replyHead status reason).find? name).or
        (vars.find? (base ++ "." ++ name))) := by
  have hhead : (Entries.keys (replyHead status reason)).Nodup := by simp [Entries.keys, replyHead]
  rw [merge_replyVariables, find?_merge_under h.nodup, find?_merge_under hhead, Value.find?_fields,
    Entries.find?_put_ne _ _ (Scope.below_ne base name)]

theorem find?_merge_replyVariables_base :
    (vars.merge (replyVariables base status reason data)).find? base = some data := by
  rw [merge_replyVariables, find?_merge_under_base, find?_merge_under_base, Entries.find?_put_self]

theorem find?_replyHead {entry : String × Value} (h : entry ∈ replyHead status reason) :
    (replyHead status reason).find? entry.1 = some entry.2 := by
  simp only [replyHead, List.mem_cons, List.not_mem_nil, or_false] at h
  rcases h with rfl | rfl <;> rfl

/-- The names of how a reply went can stand at the end of a path. -/
theorem endsPath_of_mem_replyHead {entry : String × Value} (h : entry ∈ replyHead status reason) :
    Scope.EndsPath entry.1 := by
  have hstatus : Scope.EndsPath "status" := ⟨by decide, ⟨'s', by decide⟩, by decide⟩
  have htext : Scope.EndsPath "statusText" := ⟨by decide, ⟨'t', by decide⟩, by decide⟩
  simp only [replyHead, List.mem_cons, List.not_mem_nil, or_false] at h
  rcases h with rfl | rfl
  · exact hstatus
  · exact htext

end Services

/-! ### Requests that did what they are for -/

section

variable {c : NodeContext} {n : Node} {g : Finding} {world : World} {s s' : Database.Address}
  {asked asked' : List Query}

/-- An executed node has come to a finding, and what it leaves is what the finding says. -/
theorem exists_finding_of_run {registered : Registered}
    {v : Except Failure (NodeResult × Entries Value)}
    (h : (execute registered c n).run.run world s asked = ⟨s', asked', .inr v⟩) :
    ∃ g, (findOut registered c n).run world s asked = ⟨s', asked', .inr g⟩ ∧
      v = .ok (g.result n, g.vars n c.scope.vars) := by
  unfold execute at h
  rw [Task.run_lift_bind, Task.run_andThen] at h
  unfold Task.Progress.andThen at h
  split at h
  · rename_i g hg
    obtain ⟨hs, hasked, hv⟩ := Task.Progress.mk.inj h
    refine ⟨g, ?_, (Sum.inr.inj hv).symm⟩
    rw [← hs, ← hasked, ← hg]
  · cases h

theorem NodeKind.ofType?_requestTypes {type : String} (h : type ∈ requestTypes) :
    ofType? type = some .http := by
  have htypes : ∀ type ∈ requestTypes, ofType? type = some .http := by decide
  exact htypes _ h

theorem traces_requested (hn : n.type ∈ NodeKind.requestTypes) :
    (findOut [] c n).Traces fun exchanges g =>
      (∃ e, g = .ofFailure n e) ∨ ∃ f, n.filled = .ok f ∧ g.Requested f exchanges := by
  have hhandler : handlerOf? [] n.type = some Services.http := by
    rw [handlerOf?, NodeKind.ofType?_requestTypes hn]
    rfl
  unfold findOut
  rw [hhandler]
  refine Task.Traces.bind (yields_handled fun f => yields_requested c n f) fun exchanges r hr => ?_
  cases r with
  | error e => exact Task.Traces.pure (Or.inl ⟨e, rfl⟩)
  | ok g =>
    refine Task.Traces.pure (Or.inr ?_)
    rw [List.append_nil]
    exact hr g rfl

/-- A request that did what it is for has got a reply, and writes what the reply becomes. -/
theorem fetched_of_run (hn : n.type ∈ NodeKind.requestTypes)
    (hrun : (findOut [] c n).run world s asked = ⟨s', asked', .inr g⟩) (hs : g.success = true) :
    ∃ f reply data, n.Fetched world asked asked' f reply data ∧
      g.writes = Services.replyVariables f.replyName reply.status (Http.phraseOf reply.status) data := by
  obtain ⟨exchanges, hasked, hgives, htells⟩ := (traces_requested hn).of_run hrun
  rcases htells with ⟨e, rfl⟩ | ⟨f, hf, hg⟩
  · cases hs
  · cases hg with
    | failed success =>
      rw [success] at hs
      cases hs
    | replied success replied said output writes =>
      subst replied
      exact ⟨f, _, _, ⟨hf, ⟨_, hasked, hgives.1⟩, said⟩, writes⟩

end

/-! ### Reading what a reply left behind -/

section

variable {n : Node} {g : Finding} {base name : String} {status : Nat} {reason : String}
  {data : Value}

/-- Behind the dot the record of the node is found if the node is named so, else a field of the reply,
else how it went, else what was there before, else a field of the record if this has taken the place of
the reply. -/
theorem Finding.resolve_vars_field (hwrites : g.writes = Services.replyVariables base status reason data)
    (hdata : data.Keyed) (hname : '.' ∉ name.toList) (before : Entries Value) :
    Scope.resolve (g.vars n before) (base ++ "." ++ name) =
      if n.id = base ++ "." ++ name then some (.object (g.result n).output)
      else (data.field? name).or (((Services.replyHead status reason).find? name).or
        ((before.find? (base ++ "." ++ name)).or
          (if n.id = base then (g.result n).output.find? name else none))) := by
  have hself := g.find?_vars_self n before
  by_cases hid : n.id = base ++ "." ++ name
  · rw [hid] at hself
    unfold Scope.resolve
    rw [hself, if_pos hid]
  · have hfield : (g.vars n before).find? (base ++ "." ++ name) =
        (data.field? name).or (((Services.replyHead status reason).find? name).or
          (before.find? (base ++ "." ++ name))) :=
      calc (g.vars n before).find? (base ++ "." ++ name)
          = (before.merge g.writes).find? (base ++ "." ++ name) :=
            Entries.find?_put_ne _ _ (Ne.symm hid)
        _ = _ := by rw [hwrites, Services.find?_merge_replyVariables_field hdata]
    rw [if_neg hid]
    -- The record may have taken the name of the reply; then what is left to descend into is the record.
    by_cases hbase : n.id = base
    · rw [hbase] at hself
      rw [Scope.resolve_below hself hname, hfield, if_pos hbase, Option.or_assoc, Option.or_assoc]
      rfl
    · have hvar : (g.vars n before).find? base = some data :=
        calc (g.vars n before).find? base
            = (before.merge g.writes).find? base := Entries.find?_put_ne _ _ (Ne.symm hbase)
          _ = some data := by rw [hwrites, Services.find?_merge_replyVariables_base]
      rw [Scope.resolve_below hvar hname, hfield, if_neg hbase, Option.or_none]
      cases data.field? name with
      | some w => rfl
      | none => exact Option.or_none

/-- How a reply went is read unless something of the same name has taken its place. -/
theorem Finding.read_own {own : String × Value} {locale : Locale}
    (hwrites : g.writes = Services.replyVariables base status reason data) (hdata : data.Keyed)
    (hown : own ∈ Services.replyHead status reason) (hflush : Text.Flush base)
    (hdated : Scope.asksClock (base ++ "." ++ own.1) = true → locale.isDated = true)
    (before : Entries Value) :
    (Scope.mk (g.vars n before) locale).read (base ++ "." ++ own.1) =
      .ok (some (if n.id = base ++ "." ++ own.1 then .object (g.result n).output
        else (data.field? own.1).getD own.2)) := by
  have hname : Scope.EndsPath own.1 := Services.endsPath_of_mem_replyHead hown
  have hread : (Scope.mk (g.vars n before) locale).read (base ++ "." ++ own.1) =
      .ok (Scope.resolve (g.vars n before) (base ++ "." ++ own.1)) :=
    Scope.read_eq_resolve (Scope.strip_path hflush hname) (Scope.systemVariable?_path _ hname) hdated
  rw [hread, Finding.resolve_vars_field hwrites hdata hname.dotless, Services.find?_replyHead hown,
    Option.some_or]
  split
  · rfl
  · cases data.field? own.1 <;> rfl

end

/-- A request whose reply is kept under a name. -/
def Node.fetching (id name : String) : Node :=
  ⟨id, "http", [("url", .str "http://x"), ("responseVariable", .str name)], none, "", []⟩

theorem Node.fetching_filled (id : String) :
    ∃ f, (fetching id "r").filled = .ok f ∧ f.replyName = "r" := ⟨_, rfl, rfl⟩

/-- A reply whose body tells of a status of its own. -/
def HttpReply.settled : HttpReply := ⟨201, [], "\x7b\"status\":\"settled\"\x7d"⟩

/-- What the body of a reply says that does not tell of what kind it is. -/
theorem HttpReply.Says.eq_of_parse? {reply : HttpReply} {data v : Value} (h : reply.Says data)
    (hheaders : reply.headers = []) (hparse : Json.parse? reply.body = some v) : data = v := by
  obtain ⟨s, hs, rfl⟩ := h
  obtain ⟨status, headers, body⟩ := reply
  obtain rfl : headers = [] := hheaders
  obtain rfl : body = s := Except.ok.inj hs
  rw [hparse, Option.getD_some]

theorem HttpReply.Says.field?_eq_str {reply : HttpReply} {data : Value} {name text : String}
    (h : reply.Says data) (hheaders : reply.headers = [])
    (hfield : (Json.parse? reply.body).bind (fun v => (v.field? name).bind Value.text?) = some text) :
    data.field? name = some (.str text) := by
  obtain ⟨v, hv, hfield⟩ := Option.bind_eq_some_iff.mp hfield
  obtain ⟨w, hw, htext⟩ := Option.bind_eq_some_iff.mp hfield
  rw [h.eq_of_parse? hheaders hv, hw]
  cases w with
  | str s => exact congrArg (fun s => some (Value.str s)) (Option.some.inj htext)
  | _ => cases htext

theorem HttpReply.Says.field?_eq_none {reply : HttpReply} {data : Value} {name : String}
    (h : reply.Says data) (hheaders : reply.headers = [])
    (hfield : (Json.parse? reply.body).map (fun v => (v.field? name).isSome) = some false) :
    data.field? name = none := by
  obtain ⟨v, hv, hfield⟩ := Option.map_eq_some_iff.mp hfield
  rw [h.eq_of_parse? hheaders hv]
  simpa using hfield

theorem HttpReply.settled_says {data : Value} (h : settled.Says data) :
    data.field? "status" = some (.str "settled") ∧ data.field? "statusText" = none :=
  ⟨h.field?_eq_str rfl (by decide +kernel), h.field?_eq_none rfl (by decide +kernel)⟩

theorem World.answering_replied {reply reply' : HttpReply} {request : HttpRequest}
    {asked : List Query}
    (h : World.answering reply asked (.http request) = some (.replied reply')) : reply' = reply :=
  (HttpOutcome.replied.inj (Option.some.inj h)).symm

/-- What comes of that request, when this reply is given. -/
def Node.settling : Task.Progress Database.Address (Except Failure (NodeResult × Entries Value)) :=
  (execute [] .sending (.fetching "call" "r")).run.run (.answering .settled) none []

theorem Node.settling_succeeds : ∃ r vars, settling.outcome = .inr (.ok (r, vars)) ∧
    r.success = true := ⟨_, _, by with_unfolding_all rfl, rfl⟩

theorem Text.flush_r : Text.Flush "r" := by
  intro c hc
  obtain rfl := Option.some.inj hc
  decide

end ChatFlow
