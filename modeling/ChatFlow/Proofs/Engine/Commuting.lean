import Mathlib.Logic.Equiv.Basic
import ChatFlow.Proofs.Engine.Repeating

/-!
# Calls of different conversations commute

Two calls of different conversations, of which the runs have different ids, come to
the same in either order, and leave the same pauses and the same records
(`calls_commute`).  All conversations share the flows, the pauses, the records and
the address of the database; but a call leaves the flows and what the address is
found to be as they are, and of pauses and records it touches only its own
(`Call.Frame`).  So what the one call finds is alike before and after the other one
(`Call.Frame.alike`), and it does the same (`Call.Opens.repeats`).

Only ids that are made up depend on the order, since they are numbered: if both runs
get one, the two ids change places.
-/

namespace ChatFlow

open Engine

/-- A run sets out on a call. -/
def Call.Departs (call : Call) (service : Service) (s : EngineState) (d : Departure) : Prop :=
  ∃ o s₁, call.Opens service s o s₁ ∧ o.departure? = some d

/-- Two calls one after the other come to these values and leave this state. -/
def Call.InTurn (x y : Call) (service : Service) (world : World) (s : EngineState)
    (asked : List Query) (v w : Except Failure (Option RunResult)) (s' : EngineState) : Prop :=
  ∃ s₁ asked₁ asked₂,
    (x.task service).run.run world s asked = ⟨s₁, asked₁, .inr v⟩ ∧
      (y.task service).run.run world s₁ asked₁ = ⟨s', asked₂, .inr w⟩

section

variable {service : Service} {reply : (q : Query) → q.Reply} {s s₁ t t₁ : EngineState} {x y : Call}
  {o o' : Opening} {f : String → String}

theorem Runs.find?_empty_id (runs : Runs) : runs.find? "" = none := if_pos rfl

/-- What a call finds is alike before and after a call of another conversation. -/
theorem Call.Frame.alike (hy : y.Frame service reply o' s t) (hc : x.conversation ≠ y.conversation)
    (hx : x.Opens service s o s₁) (hk : s.runs.Keyed)
    (apart : ∀ d d', o.departure? = some d → o'.departure? = some d' →
      d.journey.run = d'.journey.run → x.givenId s = "")
    (hid : ∀ d, o.departure? = some d → f (s.runs.idFor (x.givenId s)) =
      t.runs.idFor (x.givenId s)) : x.Alike service reply o f s t where
  flows := hy.flows
  found := hy.found
  pause := hy.pauses _ hc
  record d hd := by
    by_cases hgiven : x.givenId s = ""
    · rw [hgiven, Runs.find?_empty_id, Runs.find?_empty_id]
    · refine hy.runs _ fun d' hd' he => hgiven (apart d d' hd hd' ?_)
      rw [hx.frame.id hk d hd, Runs.idFor, if_neg hgiven]
      exact he
  id := hid

/-- An id is called the same wherever it is given, and where as many ids have been made up. -/
theorem Runs.idFor_eq {runs runs' : Runs} {given : String}
    (h : given = "" → runs'.made = runs.made) : runs'.idFor given = runs.idFor given := by
  unfold idFor
  split
  · rename_i hgiven
    rw [h hgiven]
  · rfl

/-- Two states after two calls agree: they have the same flows, the same pauses and the same records,
but for the names of the runs. -/
structure Call.Agree (x y : Call) (f : String → String) (s₁ s₂ : EngineState) : Prop where
  flows : s₂.flows = s₁.flows
  pauses : ∀ c, s₂.pauses.lookup c = s₁.pauses.lookup c ∨
    (c = x.conversation ∨ c = y.conversation) ∧
      s₂.pauses.lookup c = (s₁.pauses.lookup c).map (Pause.renamed f)
  runs : ∀ id, s₂.runs.find? (f id) = (s₁.runs.find? id).map (RunRecord.renamed f)

theorem Opening.exists_of_renamed {d : Departure} (h : (o.renamed f).departure? = some d) :
    ∃ d', o.departure? = some d' ∧ d = d'.renamed f := by
  rw [o.renamed_departure?, Option.map_eq_some_iff] at h
  obtain ⟨d', hd', rfl⟩ := h
  exact ⟨d', hd', rfl⟩

theorem RunRecord.map_renamed_renamed (hf : ∀ id, f (f id) = id) (r : Option RunRecord) :
    (r.map (renamed f)).map (renamed f) = r := by
  cases r with
  | none => rfl
  | some r => simp only [Option.map_some, renamed, hf]

theorem Pause.map_renamed_renamed (hf : ∀ id, f (f id) = id) (p : Option Pause) :
    (p.map (renamed f)).map (renamed f) = p := by
  cases p with
  | none => rfl
  | some p =>
    have hmap : (p.run.map f).map f = p.run := by cases p.run <;> simp [hf]
    simp only [Option.map_some, renamed, hmap]

theorem Call.renamedValue_renamedValue (hf : ∀ id, f (f id) = id)
    (v : Except Failure (Option RunResult)) : Call.renamedValue f (Call.renamedValue f v) = v := by
  rcases v with e | _ | r
  · rfl
  · rfl
  · have hmap : (r.run.map f).map f = r.run := by cases r.run <;> simp [hf]
    simp only [Call.renamedValue, Except.map, Option.map_some, RunResult.renamed, hmap]

/-- Two calls that find alike what they look for whichever of them is first. -/
theorem Call.Opens.commute (hsteady : service.executor.Steady reply) (hk : s.runs.Keyed)
    (hc : x.conversation ≠ y.conversation) (hx : x.Opens service s o s₁)
    (hy : y.Opens service s o' t₁) (hf : ∀ id, f (f id) = id)
    (hfix : ∀ id, (∀ d, o.departure? = some d → id ≠ d.journey.run) →
      (∀ d, o'.departure? = some d → id ≠ f d.journey.run) → f id = id)
    (apart : ∀ d d', o.departure? = some d → o'.departure? = some d' →
      d.journey.run ≠ f d'.journey.run)
    (ax : ∀ t, y.Frame service reply o' s t → x.Alike service reply o f s t)
    (ay : ∀ t, x.Frame service reply o s t → y.Alike service reply o' f s t) (asked : List Query) :
    ∃ v w s₁ s₂, x.InTurn y service (.replying reply) s asked v w s₁ ∧
      y.InTurn x service (.replying reply) s asked (renamedValue f w) (renamedValue f v) s₂ ∧
      x.Agree y f s₁ s₂ := by
  obtain ⟨t, u, v, hrx⟩ := (x.task service).run.run_ends s asked (World.replying_replies reply)
  obtain ⟨t', u', w, hry⟩ := (y.task service).run.run_ends s asked (World.replying_replies reply)
  have fx := hx.frame_of_run hsteady hk hrx
  have fy := hy.frame_of_run hsteady hk hry
  -- each call again, after the other one
  obtain ⟨s₁, u₁, hry₁, againy⟩ := hy.repeats hsteady hk hry (ay t fx) u
  obtain ⟨s₂, u₂, hrx₂, againx⟩ := hx.repeats hsteady hk hrx (ax t' fy) u'
  obtain ⟨_, hy₁, -⟩ := hy.opens_again hk (ay t fx)
  obtain ⟨_, hx₂, -⟩ := hx.opens_again hk (ax t' fy)
  have fy₁ := hy₁.frame_of_run hsteady fx.keyed hry₁
  have fx₂ := hx₂.frame_of_run hsteady fy.keyed hrx₂
  refine ⟨v, renamedValue f w, s₁, s₂, ⟨t, u, u₁, hrx, hry₁⟩, ⟨t', u', u₂, ?_, hrx₂⟩, ?_, ?_, ?_⟩
  · rw [renamedValue_renamedValue hf]
    exact hry
  · rw [fy₁.flows, fx₂.flows, fx.flows, fy.flows]
  · intro c
    by_cases hcx : c = x.conversation
    · subst hcx
      rw [fy₁.pauses _ hc]
      exact againx.pause.imp id fun h => ⟨Or.inl rfl, h⟩
    by_cases hcy : c = y.conversation
    · subst hcy
      rw [fx₂.pauses _ hcx]
      refine againy.pause.imp Eq.symm fun h => ⟨Or.inr rfl, ?_⟩
      rw [h, Pause.map_renamed_renamed hf]
    · left
      rw [fy₁.pauses _ hcy, fx₂.pauses _ hcx, fx.pauses _ hcx, fy.pauses _ hcy]
  · intro id
    by_cases hidx : ∃ d, o.departure? = some d ∧ id = d.journey.run
    · -- the record of the run of `x`
      obtain ⟨d, hd, rfl⟩ := hidx
      rw [againx.record d hd, fy₁.runs]
      rintro _ h
      obtain ⟨d', hd', rfl⟩ := Opening.exists_of_renamed h
      exact apart d d' hd hd'
    by_cases hidy : ∃ d, o'.departure? = some d ∧ id = f d.journey.run
    · -- the record of the run of `y`
      obtain ⟨d', hd', rfl⟩ := hidy
      rw [hf, againy.record d' hd', RunRecord.map_renamed_renamed hf, fx₂.runs]
      rintro _ h he
      obtain ⟨d, hd, rfl⟩ := Opening.exists_of_renamed h
      refine apart d d' hd hd' ?_
      rw [he]
      exact (hf _).symm
    · -- a record of any other run
      have hx' : ∀ d, o.departure? = some d → id ≠ d.journey.run :=
        fun d hd he => hidx ⟨d, hd, he⟩
      have hy' : ∀ d, o'.departure? = some d → id ≠ f d.journey.run :=
        fun d hd he => hidy ⟨d, hd, he⟩
      have hid : f id = id := hfix id hx' hy'
      have hfirst : s₁.runs.find? id = s.runs.find? id := by
        rw [fy₁.runs, fx.runs id hx']
        rintro _ h
        obtain ⟨d, hd, rfl⟩ := Opening.exists_of_renamed h
        exact hy' d hd
      have hsecond : s₂.runs.find? id = s.runs.find? id := by
        rw [fx₂.runs, fy.runs]
        · intro d hd he
          exact hy' d hd (hid.symm.trans (congrArg f he))
        · rintro _ h he
          obtain ⟨d, hd, rfl⟩ := Opening.exists_of_renamed h
          exact hx' d hd (hid.symm.trans ((congrArg f he).trans (hf _)))
      rw [hid, hfirst, hsecond]
      cases hr : s.runs.find? id with
      | none => rfl
      | some r =>
        have hrid : r.id = id := hk id r hr
        rw [Option.map_some, RunRecord.renamed, hrid, hid, ← hrid]

/-- Two calls of which not both have a run with a made up id. -/
theorem Call.Opens.commute_of_given (hsteady : service.executor.Steady reply) (hk : s.runs.Keyed)
    (hc : x.conversation ≠ y.conversation) (hx : x.Opens service s o s₁)
    (hy : y.Opens service s o' t₁)
    (apart : ∀ d d', o.departure? = some d → o'.departure? = some d' →
      d.journey.run ≠ d'.journey.run ∧ ¬ (x.givenId s = "" ∧ y.givenId s = ""))
    (asked : List Query) :
    ∃ v w s₁ s₂, x.InTurn y service (.replying reply) s asked v w s₁ ∧
      y.InTurn x service (.replying reply) s asked (renamedValue (fun id => id) w)
        (renamedValue (fun id => id) v) s₂ ∧ x.Agree y (fun id => id) s₁ s₂ := by
  refine hx.commute hsteady hk hc hy (fun id => rfl) (fun id _ _ => rfl)
    (fun d d' hd hd' => (apart d d' hd hd').1) (fun t fy => ?_) (fun t fx => ?_) asked
  · refine fy.alike hc hx hk (fun d d' hd hd' he => absurd he (apart d d' hd hd').1) fun d hd => ?_
    refine (Runs.idFor_eq fun hgiven => fy.made.trans (if_neg ?_)).symm
    rintro ⟨hdeparts, hgiven'⟩
    obtain ⟨d', hd'⟩ := Option.isSome_iff_exists.mp hdeparts
    exact (apart d d' hd hd').2 ⟨hgiven, hgiven'⟩
  · refine fx.alike hc.symm hy hk (fun d' d hd' hd he => absurd he.symm (apart d d' hd hd').1)
      fun d' hd' => ?_
    refine (Runs.idFor_eq fun hgiven' => fx.made.trans (if_neg ?_)).symm
    rintro ⟨hdeparts, hgiven⟩
    obtain ⟨d, hd⟩ := Option.isSome_iff_exists.mp hdeparts
    exact (apart d d' hd hd').2 ⟨hgiven, hgiven'⟩

/-- Two calls of which both have a run with a made up id: the two ids change places. -/
theorem Call.Opens.commute_of_made (hsteady : service.executor.Steady reply) (hk : s.runs.Keyed)
    (hc : x.conversation ≠ y.conversation) (hx : x.Opens service s o s₁)
    (hy : y.Opens service s o' t₁) {d d' : Departure} (hd : o.departure? = some d)
    (hd' : o'.departure? = some d') (hgiven : x.givenId s = "") (hgiven' : y.givenId s = "")
    (asked : List Query) :
    let f := Equiv.swap (Runs.madeId (s.runs.made + 1)) (Runs.madeId (s.runs.made + 2))
    ∃ v w s₁ s₂, x.InTurn y service (.replying reply) s asked v w s₁ ∧
      y.InTurn x service (.replying reply) s asked (renamedValue f w) (renamedValue f v) s₂ ∧
        x.Agree y f s₁ s₂ := by
  intro f
  have hf (id : String) : f (f id) = id := by
    have h := f.apply_symm_apply id
    rwa [Equiv.symm_swap] at h
  have hmade (runs : Runs) : runs.idFor "" = Runs.madeId (runs.made + 1) := if_pos rfl
  have hrun : d.journey.run = Runs.madeId (s.runs.made + 1) := by
    rw [hx.frame.id hk d hd, hgiven, hmade]
  have hrun' : d'.journey.run = Runs.madeId (s.runs.made + 1) := by
    rw [hy.frame.id hk d' hd', hgiven', hmade]
  have hnext {t : EngineState} (ht : t.runs.made = s.runs.made + 1) :
      f (s.runs.idFor "") = t.runs.idFor "" := by
    rw [hmade, hmade, ht]
    exact Equiv.swap_apply_left _ _
  refine hx.commute hsteady hk hc hy hf ?_ ?_ (fun t fy => ?_) (fun t fx => ?_) asked
  · intro id hid hid'
    have hne := hid d hd
    have hne' := hid' d' hd'
    rw [hrun] at hne
    rw [hrun', Equiv.swap_apply_left] at hne'
    exact Equiv.swap_apply_of_ne_of_ne hne hne'
  · intro e e' he he'
    obtain rfl := Option.some.inj (hd.symm.trans he)
    obtain rfl := Option.some.inj (hd'.symm.trans he')
    rw [hrun, hrun', Equiv.swap_apply_left]
    exact fun h => absurd (Runs.madeId_inj.mp h) (by omega)
  · refine fy.alike hc hx hk (fun _ _ _ _ _ => hgiven) fun e _ => ?_
    rw [hgiven]
    refine hnext (fy.made.trans (if_pos ⟨?_, hgiven'⟩))
    rw [hd', Option.isSome_some]
  · refine fx.alike hc.symm hy hk (fun _ _ _ _ _ => hgiven') fun e _ => ?_
    rw [hgiven']
    refine hnext (fx.made.trans (if_pos ⟨?_, hgiven⟩))
    rw [hd, Option.isSome_some]

end

/-- Two calls of different conversations, of which the runs have different ids, come to the same in
either order and leave the same pauses and the same records, but for the names of runs whose ids were
made up for these calls.  Records are kept under their ids, as in every state that can be reached.
The handlers may be those of this library and others whose work depends, in this world, on no more
than what they can see and the address of the database. -/
theorem calls_commute {registered : Registered} {reply : (q : Query) → q.Reply}
    (hr : ∀ type handler, registered.find? type = some handler → handler.Steady reply)
    {service : Service} (hx : service.executor = execute registered) {s : EngineState}
    (hk : s.runs.Keyed) {x y : Call} (hc : x.conversation ≠ y.conversation)
    (apart : ∀ d d', x.Departs service s d → y.Departs service s d' →
      d.journey.run = d'.journey.run → x.givenId s = "" ∧ y.givenId s = "") (asked : List Query) :
    ∃ (f : Equiv.Perm String) (v w : Except Failure (Option RunResult)) (s₁ s₂ : EngineState),
      (∀ id, f id ≠ id → id = Runs.madeId (s.runs.made + 1) ∨ id = Runs.madeId (s.runs.made + 2)) ∧
        x.InTurn y service (.replying reply) s asked v w s₁ ∧
        y.InTurn x service (.replying reply) s asked (Call.renamedValue f w)
          (Call.renamedValue f v) s₂ ∧ x.Agree y f s₁ s₂ := by
  have hsteady : service.executor.Steady reply := hx ▸ execute_steady hr
  obtain ⟨o, s₁, ox⟩ := x.exists_opens service s
  obtain ⟨o', t₁, oy⟩ := y.exists_opens service s
  by_cases hmade : (∃ d, o.departure? = some d) ∧ (∃ d, o'.departure? = some d) ∧
      x.givenId s = "" ∧ y.givenId s = ""
  · obtain ⟨⟨d, hd⟩, ⟨d', hd'⟩, hgiven, hgiven'⟩ := hmade
    obtain ⟨v, w, s₁, s₂, h₁, h₂, h₃⟩ :=
      ox.commute_of_made hsteady hk hc oy hd hd' hgiven hgiven' asked
    refine ⟨_, v, w, s₁, s₂, fun id hid => ?_, h₁, h₂, h₃⟩
    by_contra hne
    obtain ⟨h, h'⟩ := not_or.mp hne
    exact hid (Equiv.swap_apply_of_ne_of_ne h h')
  · have hgiven : ∀ d d', o.departure? = some d → o'.departure? = some d' →
        ¬ (x.givenId s = "" ∧ y.givenId s = "") :=
      fun d d' hd hd' h => hmade ⟨⟨d, hd⟩, ⟨d', hd'⟩, h.1, h.2⟩
    obtain ⟨v, w, s₁, s₂, h₁, h₂, h₃⟩ := ox.commute_of_given hsteady hk hc oy
      (fun d d' hd hd' => ⟨fun he => hgiven d d' hd hd' (apart d d' ⟨o, _, ox, hd⟩ ⟨o', _, oy, hd'⟩ he),
        hgiven d d' hd hd'⟩) asked
    exact ⟨.refl String, v, w, s₁, s₂, fun id hid => absurd rfl hid, h₁, h₂, h₃⟩

/-- What a world says that refuses everything. -/
def World.refusal (q : Query) : q.Reply := (refusing [] q).get (refusing_replies [] q)

/-- A run of one flow for each of two users. -/
theorem calls_commute_waiting :
    ∃ (f : Equiv.Perm String) (v w : Except Failure (Option RunResult)) (s₁ s₂ : EngineState),
      (Call.run "f" "c" [] none none).InTurn (.run "f" "d" [] none none) .alone
          (.replying World.refusal) .waiting [] v w s₁ ∧
        (Call.run "f" "d" [] none none).InTurn (.run "f" "c" [] none none) .alone
          (.replying World.refusal) .waiting [] (Call.renamedValue f w) (Call.renamedValue f v) s₂ ∧
        (Call.run "f" "c" [] none none).Agree (.run "f" "d" [] none none) f s₁ s₂ := by
  have hkeyed : EngineState.waiting.runs.Keyed := fun id r hr => by
    rw [EngineState.waiting, EngineState.start, Runs.find?_empty] at hr
    cases hr
  have hhandlers : ∀ type handler, Entries.find? ([] : Registered) type = some handler →
      handler.Steady World.refusal := fun _ _ hf => by cases hf
  obtain ⟨f, v, w, s₁, s₂, -, h⟩ := calls_commute hhandlers
    (rfl : Service.alone.executor = execute []) hkeyed
    (x := .run "f" "c" [] none none) (y := .run "f" "d" [] none none) (by decide)
    (fun _ _ _ _ _ => ⟨rfl, rfl⟩) []
  exact ⟨f, v, w, s₁, s₂, h⟩

end ChatFlow
