import ChatFlow.Proofs.Engine.Course

/-!
# The limit of a walk

Nothing but the limit makes a walk end: a document may have cycles, and a handler
may send the run anywhere.  A walk reaches its limit exactly when it passes as many
nodes as it may visit and there is still somewhere to go (`walks_limited_iff`,
`walk_ends_within_limit`).

A larger limit changes nothing before the smaller one is reached.  A call that ends
before the limit ends in the same way with any larger one, and a call that reaches
its limit has done what it does first with a larger one (`call_with_larger_limit`).
-/

namespace ChatFlow

/-- In this world a way to execute nodes comes to an end with every node. -/
def Executor.Returns (executor : Executor) (world : World) : Prop :=
  ∀ c n address asked, ∃ address' asked' outcome,
    (executor c n).run.run world address asked = ⟨address', asked', .inr outcome⟩

theorem Executor.returns_of_replies {world : World} (hw : world.Replies) (executor : Executor) :
    executor.Returns world :=
  fun c n address asked => (executor c n).run.run_ends address asked hw

/-- A service that allows a call so many nodes. -/
def Service.allowing (service : Service) (limit : Int) : Service := { service with maxNodes := limit }

namespace Journey

variable {j : Journey} {service : Service} {world : World} {left : Nat} {p q : Point}
  {visits : List Visit} {ending : Ending}

/-! ### Walks and what they pass -/

/-- A walk from where passed nodes lead is a walk from where they begin. -/
theorem Passes.walks (h : j.Passes service world p visits q) {rest : List Visit} {z : Point}
    (hw : j.Walks service world left q rest ending z) :
    j.Walks service world (left + visits.length) p (visits ++ rest) ending z := by
  induction h with
  | here p => exact hw
  | onward h ha hs hp ih => exact .onward h ha hs (ih hw)

/-- A walk reaches its limit exactly when it passes as many nodes as it may visit and there is
somewhere to go on. -/
theorem walks_limited_iff : j.Walks service world left p visits .limited q ↔
    j.Passes service world p visits q ∧ visits.length = left ∧ q.place.getD "" ≠ "" := by
  constructor
  · intro h
    generalize he : Ending.limited = ending at h
    induction h with
    | limited hp => exact ⟨.here _, rfl, hp⟩
    | onward h ha hs hw ih =>
      obtain ⟨hp, hlen, hq⟩ := ih he
      exact ⟨.onward h ha hs hp, congrArg Nat.succ hlen, hq⟩
    | _ => cases he
  · rintro ⟨hp, rfl, hq⟩
    simpa using hp.walks (.limited hq)

theorem Walks.length_le (h : j.Walks service world left p visits ending q) :
    (visitedBy visits ending).length ≤ left := by
  induction h with
  | onward h ha hs hw ih => exact Nat.succ_le_succ ih
  | _ => simp [Ending.broken]

/-- A walk that has not reached its limit is one with any larger limit as well. -/
theorem Walks.mono (h : j.Walks service world left p visits ending q) (he : ending ≠ .limited)
    (more : Nat) : j.Walks service world (left + more) p visits ending q := by
  induction h with
  | arrived hp => exact .arrived hp
  | limited hp => exact absurd rfl he
  | halted hp hid hn =>
    rw [Nat.add_right_comm]
    exact .halted hp hid hn
  | failed h =>
    rw [Nat.add_right_comm]
    exact .failed h
  | paused h ha =>
    rw [Nat.add_right_comm]
    exact .paused h ha
  | stopped h ha hs =>
    rw [Nat.add_right_comm]
    exact .stopped h ha hs
  | onward h ha hs hw ih =>
    rw [Nat.add_right_comm]
    exact .onward h ha hs (ih he)

/-- Where every node comes to an end, every walk comes to an ending. -/
theorem exists_walks (hx : service.executor.Returns world) (j : Journey) (left : Nat) (p : Point) :
    ∃ visits ending q, j.Walks service world left p visits ending q := by
  rcases j.walks_or_stalls service world left p with hw | ⟨visits, q, -, -, n, _, _, t, -, hr⟩
  · exact hw
  · obtain ⟨database, asked, outcome, hr'⟩ :=
      hx (j.context service q.vars) n q.database q.asked
    rw [hr] at hr'
    cases hr'

theorem Ending.outcome_eq_limited_iff : ending.outcome = .limited ↔ ending = .limited := by
  cases ending <;> simp [Ending.outcome]

/-- A walk with an ending returns what that ending says once its record is kept. -/
theorem Walks.ends (h : j.Walks service world left p visits ending q)
    (ha : service.ArchiveReplies world) (visited : List String) (s : EngineState)
    (hs : s.database = p.database) :
    ((j.walk service left p.place ⟨visited, p.vars⟩).run world s p.asked).outcome =
      .inr (j.resultOf ending.outcome ⟨visited ++ visitedBy visits ending, q.vars⟩
        ending.error) := by
  rw [h.run_eq visited s hs]
  exact (j.finish_run ..).ends ha

end Journey

/-- A walk that may visit so many nodes ends, and has visited no more.  It reaches its limit exactly
when it has passed that many nodes and there is somewhere to go on. -/
theorem walk_ends_within_limit {j : Journey} {service : Service} {world : World}
    (hx : service.executor.Returns world) (ha : service.ArchiveReplies world)
    (start : Option String) (vars : Entries Value) (s : EngineState) (asked : List Query) :
    ∃ r, ((j.walk service (Engine.nodeLimit service) start ⟨[], vars⟩).run world s asked).outcome =
        .inr r ∧
      (r.visited.length : Int) ≤ max 0 service.maxNodes ∧
      (r.outcome = .limited ↔ ∃ visits q,
        j.Passes service world ⟨start, vars, s.database, asked⟩ visits q ∧
        r.visited = visits.map (fun v => v.node.id) ∧
        (visits.length : Int) = max 0 service.maxNodes ∧ q.place.getD "" ≠ "") := by
  have hlimit : (Engine.nodeLimit service : Int) = max 0 service.maxNodes := by
    unfold Engine.nodeLimit
    omega
  obtain ⟨visits, ending, q, hw⟩ :=
    Journey.exists_walks hx j (Engine.nodeLimit service) ⟨start, vars, s.database, asked⟩
  have hends := hw.ends ha [] s rfl
  refine ⟨_, hends, ?_, ?_, ?_⟩
  · have hlen := hw.length_le
    simp only [Journey.resultOf, List.nil_append]
    omega
  · intro hlimited
    obtain rfl := Journey.Ending.outcome_eq_limited_iff.mp hlimited
    obtain ⟨hp, hlen, hq⟩ := Journey.walks_limited_iff.mp hw
    refine ⟨visits, q, hp, ?_, by omega, hq⟩
    simp [Journey.resultOf, Journey.visitedBy, Journey.Ending.broken]
  · rintro ⟨visits', q', hp, -, hlen, hq⟩
    have hw' := Journey.walks_limited_iff.mpr ⟨hp, rfl, hq⟩
    have hends' := hw'.ends ha [] s rfl
    have hleft : visits'.length = Engine.nodeLimit service := by omega
    rw [hleft, hends] at hends'
    exact congrArg RunResult.outcome (Sum.inr.inj hends')

/-- The run of a walk round two nodes. -/
def Journey.circling : Journey := ⟨"f", "c", "e", .circling⟩

theorem walk_circling_reaches_limit : ∃ r visits q,
    ((Journey.circling.walk (Service.alone.allowing 3) 3 (some "a") ⟨[], []⟩).run .refusing
        .circling []).outcome = .inr r ∧ r.outcome = .limited ∧
      Journey.circling.Passes (Service.alone.allowing 3) .refusing ⟨some "a", [], none, []⟩ visits q ∧
      r.visited = visits.map (fun v => v.node.id) ∧ (visits.length : Int) = max 0 3 ∧
      q.place.getD "" ≠ "" := by
  have hx : (Service.alone.allowing 3).executor.Returns .refusing :=
    Executor.returns_of_replies World.refusing_replies _
  have ha : (Service.alone.allowing 3).ArchiveReplies .refusing := fun store h => (nomatch h)
  obtain ⟨r, hr, -, hlimited⟩ :=
    walk_ends_within_limit (j := .circling) hx ha (some "a") [] .circling []
  have ho : ((Journey.circling.walk (Service.alone.allowing 3) 3 (some "a") ⟨[], []⟩).run .refusing
      .circling []).outcome.elim (fun _ => .failed) RunResult.outcome = .limited := by decide +kernel
  replace ho : r.outcome = .limited := (congrArg (Sum.elim _ _) hr).symm.trans ho
  obtain ⟨visits, q, hp⟩ := hlimited.mp ho
  exact ⟨r, visits, q, hr, ho, hp⟩

/-! ### Larger limits -/

namespace Journey

/-- A walk does not look at the limit of the service but at the number that it is given. -/
theorem walk_allowing (j : Journey) (service : Service) (limit : Int) (left : Nat)
    (place : Option String) (p : Position) :
    j.walk (service.allowing limit) left place p = j.walk service left place p := by
  induction left generalizing place p with
  | zero => cases place <;> rfl
  | succ left ih =>
    cases place with
    | none => rfl
    | some id =>
      simp only [walk, ih]
      rfl

variable {j : Journey} {service : Service} {world : World} {p : Point}

/-- A walk that ends before its limit runs in the same way with any larger limit. -/
theorem Walks.run_larger {few : Nat} {visits : List Visit} {ending : Ending} {q : Point}
    (h : j.Walks service world few p visits ending q) (he : ending ≠ .limited) {more : Nat}
    (hle : few ≤ more) (visited : List String) {s : EngineState} (hs : s.database = p.database) :
    (j.walk service more p.place ⟨visited, p.vars⟩).run world s p.asked =
      (j.walk service few p.place ⟨visited, p.vars⟩).run world s p.asked := by
  have hmore := h.mono he (more - few)
  rw [Nat.add_sub_cancel' hle] at hmore
  rw [h.run_eq visited s hs, hmore.run_eq visited s hs]

/-- What a walk that reaches its limit has done is what it does first with any larger limit. -/
theorem Walks.run_limited {few : Nat} {visits : List Visit} {q : Point}
    (h : j.Walks service world few p visits .limited q) {more : Nat} (hle : few ≤ more)
    (visited : List String) {s : EngineState} (hs : s.database = p.database) :
    q.asked <+: ((j.walk service more p.place ⟨visited, p.vars⟩).run world s p.asked).asked ∧
      ∀ r, ((j.walk service more p.place ⟨visited, p.vars⟩).run world s p.asked).outcome = .inr r →
        visited ++ visitedBy visits .limited <+: r.visited := by
  obtain ⟨hp, rfl, -⟩ := walks_limited_iff.mp h
  have hrun := hp.run_eq (more - visits.length) visited s hs
  rw [Nat.sub_add_cancel hle] at hrun
  rw [hrun]
  refine ⟨Task.asked_prefix .., fun r hr => ?_⟩
  obtain ⟨rest, ending, q', -, rfl⟩ := exists_walks_of_result rfl hr
  simp [visitedBy, Ending.broken, resultOf]

/-- What a walk with a larger limit does, by what a walk with a smaller one has come to. -/
theorem walk_with_larger_limit {few more : Nat} (hle : few ≤ more) {s : EngineState}
    (hs : s.database = p.database) {r : RunResult} {a b : Task.Progress EngineState RunResult}
    (ha : (j.walk service few p.place ⟨[], p.vars⟩).run world s p.asked = a)
    (hb : (j.walk service more p.place ⟨[], p.vars⟩).run world s p.asked = b)
    (hr : a.outcome = .inr r) :
    (r.outcome ≠ .limited → b = a) ∧
      (r.outcome = .limited → (∃ before, before <+: b.asked ∧ service.AsksToKeep before a.asked) ∧
        ∀ r', b.outcome = .inr r' → r.visited = r'.visited.take few) := by
  subst ha hb
  obtain ⟨visits, ending, q, hw, rfl⟩ := exists_walks_of_result hs hr
  constructor
  · intro hne
    exact hw.run_larger (fun he => hne (Ending.outcome_eq_limited_iff.mpr he)) hle [] hs
  · intro hlimited
    obtain rfl := Ending.outcome_eq_limited_iff.mp hlimited
    obtain ⟨hasked, hvisited⟩ := hw.run_limited hle [] hs
    refine ⟨⟨q.asked, hasked, ?_⟩, fun r' hr' => ?_⟩
    · rw [hw.run_eq [] s hs]
      exact (j.finish_run ..).asked
    · obtain ⟨-, hlen, -⟩ := walks_limited_iff.mp hw
      have htake := List.prefix_iff_eq_take.mp (hvisited r' hr')
      simpa [visitedBy, Ending.broken, resultOf, hlen] using htake

end Journey

/-- The walk of a call, and then its answer: only the walk is affected by the limit. -/
theorem run_walkFrom_allowing (service : Service) (d : Departure) (limit : Int) (s : EngineState)
    (world : World) (asked : List Query) :
    (do return some (← Engine.walkFrom (service.allowing limit) d.journey d.place d.vars) :
      EngineCall (Option RunResult)).run.run world s asked =
      ((d.journey.walk service limit.toNat d.place ⟨[], d.vars⟩).run world s
        asked).andThen world fun r => pure (.ok (some r)) := by
  rw [run_walkFrom, Journey.walk_allowing]
  rfl

/-- A call that ends without having reached its limit ends in the same way with any larger limit.  A
call that has reached its limit has asked what it asks first with a larger one, apart from keeping
its record, and has visited what it visits first. -/
theorem call_with_larger_limit {service : Service} {few more : Int} (hle : few ≤ more) {call : Call}
    {s : EngineState} {world : World} {asked : List Query}
    {a b : Task.Progress EngineState (Except Failure (Option RunResult))}
    (ha : (call.task (service.allowing few)).run.run world s asked = a)
    (hb : (call.task (service.allowing more)).run.run world s asked = b) :
    (∀ v, a.outcome = .inr v → (∀ r, v = .ok (some r) → r.outcome ≠ .limited) → b = a) ∧
      ∀ r, a.outcome = .inr (.ok (some r)) → r.outcome = .limited →
        (∃ before, before <+: b.asked ∧ service.AsksToKeep before a.asked) ∧
        call.Yields (service.allowing more) s world asked fun r' =>
          r.visited = r'.visited.take few.toNat := by
  obtain ⟨o, s₁, ho⟩ := call.exists_opens (service.allowing few) s
  have hcall := hb
  have ho' : call.Opens (service.allowing more) s o s₁ := ho.of_now rfl
  rw [ho.runsAs world asked] at ha
  rw [ho'.runsAs world asked] at hb
  cases hd : o.departure? with
  | none =>
    -- without a walk the limit plays no part, and no answer says that it was reached
    cases o with
    | failed e =>
      subst ha hb
      exact ⟨fun v hv hne => rfl, fun r hr => (nomatch hr)⟩
    | answered answer =>
      subst ha hb
      refine ⟨fun v hv hne => rfl, fun r hr hlimited => ?_⟩
      obtain rfl := Except.ok.inj (Sum.inr.inj hr)
      obtain ⟨flow, rfl⟩ := ho.eq_unknownFlow
      cases hlimited
    | starts d => cases hd
    | resumes d => cases hd
  | some d =>
    rw [Opening.task_of_departure _ hd, run_walkFrom_allowing] at ha hb
    generalize hfew : (d.journey.walk service few.toNat d.place ⟨[], d.vars⟩).run world s₁ asked =
      short at ha
    generalize hmore : (d.journey.walk service more.toNat d.place ⟨[], d.vars⟩).run world s₁ asked =
      long at hb
    subst ha hb
    have hwalk {r : RunResult} (hr : short.outcome = .inr r) :=
      Journey.walk_with_larger_limit (p := ⟨d.place, d.vars, s₁.database, asked⟩)
        (Int.toNat_le_toNat hle) rfl hfew hmore hr
    refine ⟨fun v hv hne => ?_, fun r hr hlimited => ?_⟩
    · obtain ⟨r, hr, rfl⟩ := Task.andThen_pure_outcome hv
      rw [(hwalk hr).1 (hne r rfl)]
    · obtain ⟨r', hr', he⟩ := Task.andThen_pure_outcome hr
      obtain rfl := Option.some.inj (Except.ok.inj he)
      obtain ⟨hasked, hvisited⟩ := (hwalk hr').2 hlimited
      rw [Task.andThen_pure_asked, Task.andThen_pure_asked]
      refine ⟨hasked, fun v hv => ?_, call.returns _ s asked⟩
      rw [hcall] at hv
      obtain ⟨r', hr', rfl⟩ := Task.andThen_pure_outcome hv
      exact ⟨r', rfl, hvisited r' hr'⟩

/-- What comes of starting a run of the flow that goes round, with a limit. -/
def Call.circling (limit : Int) : Task.Progress EngineState (Except Failure (Option RunResult)) :=
  ((Call.run "f" "c" [] none (some "e")).task (Service.alone.allowing limit)).run.run .silent
    .circling []

theorem call_circling_with_larger_limit : ∃ r r',
    (Call.circling 2).outcome = .inr (.ok (some r)) ∧ r.outcome = .limited ∧
      (Call.circling 3).outcome = .inr (.ok (some r')) ∧ r.visited = r'.visited.take 2 ∧
      ∃ before, before <+: (Call.circling 3).asked ∧
        Service.alone.AsksToKeep before (Call.circling 2).asked := by
  obtain ⟨r, hr, hlimited⟩ : ∃ r, (Call.circling 2).outcome = .inr (.ok (some r)) ∧
      r.outcome = .limited := ⟨_, by with_unfolding_all rfl, by with_unfolding_all rfl⟩
  obtain ⟨v, hv⟩ : ∃ v, (Call.circling 3).outcome = .inr v := ⟨_, by with_unfolding_all rfl⟩
  obtain ⟨hasked, hvisited⟩ :=
    (call_with_larger_limit (by decide : (2 : Int) ≤ 3) rfl rfl).2 r hr hlimited
  obtain ⟨r', rfl, htake⟩ := hvisited.result v hv
  exact ⟨r, r', hr, hlimited, hv, htake, hasked⟩

end ChatFlow
