import Mathlib.Algebra.GroupWithZero.Nat
import ChatFlow.Proofs.Engine.Serial

/-!
# Schedules come to an end

A schedule says for each turn at which place the call stands that has it.  The calls
of one conversation cannot have turns for ever (`Pool.Kept.ends`): with each turn a
call ends or waits for ever, or a call that had not begun has begun or begins to
wait, or the call that holds the conversation has asked one of the questions that
are left to it.
-/

namespace ChatFlow

/-- A turn that ends before the task does has asked something. -/
theorem Task.turn_asked {σ α : Type} {world : World} {t rest : Task σ α} {s s' : σ}
    {asked asked' : List Query} (h : t.turn world s asked = (s', asked', .left rest)) :
    asked.length < asked'.length := by
  induction t generalizing s asked with
  | done a => cases h
  | get next ih => exact ih s h
  | put u next ih => exact ih h
  | ask q next ih =>
    have hq : asked.length < (asked ++ [q]).length := by simp
    simp only [turn] at h
    split at h
    · split at h
      · cases h
        exact hq
      · exact Nat.lt_trans hq (ih _ h)
    · cases h

namespace Engine.Pool

variable {α : Type} {world : World} {calls : List (Started α)} {c : String} {s : EngineState}
  {asked : List Query} {order : List Nat} {done : List (Executed α)} {p q : Pool α}
  {w : Underway α} {place : Nat}

/-- How many calls have neither ended nor come to wait for ever. -/
def size (p : Pool α) : Nat := p.ready.length + p.waiting.length

/-- How many calls have not had a turn. -/
def unbegun (p : Pool α) : Nat := p.ready.countP fun w => !w.holds

/-- How many questions are left to the calls that hold the conversation. -/
def questions (world : World) (p : Pool α) : Nat :=
  ((p.ready.filter Underway.holds).map fun w =>
    (w.left.run world p.state p.asked).asked.length - p.asked.length).sum

/-- Less is left to do in one pool than in another. -/
def Less (world : World) (q p : Pool α) : Prop :=
  q.size < p.size ∨ q.size = p.size ∧
    (q.unbegun < p.unbegun ∨ q.unbegun = p.unbegun ∧ q.questions world < p.questions world)

theorem wellFounded_less (world : World) : WellFounded (Less (α := α) world) := by
  refine Subrelation.wf ?_ (InvImage.wf (fun p : Pool α => (p.size, p.unbegun, p.questions world))
    (Prod.lex ⟨_, Nat.lt_wfRel.wf⟩ (Prod.lex ⟨_, Nat.lt_wfRel.wf⟩ ⟨_, Nat.lt_wfRel.wf⟩)).wf)
  intro q p h
  rcases h with h | ⟨hs, h | ⟨hu, h⟩⟩
  · exact Prod.Lex.left _ _ h
  · simp only [InvImage, hs]
    exact Prod.Lex.right _ (Prod.Lex.left _ _ h)
  · simp only [InvImage, hs, hu]
    exact Prod.Lex.right _ (Prod.Lex.right _ h)

theorem release_size (p : Pool α) (conversation : Option String) :
    (p.release conversation).size ≤ p.size := by
  unfold release
  split
  · exact Nat.le_refl _
  · split
    · rename_i x hx
      have hlt : (p.waiting.filter fun d => d.number != x.number).length < p.waiting.length := by
        refine List.length_filter_lt_length_iff_exists.mpr ⟨x, List.mem_of_find?_eq_some hx, ?_⟩
        simp
      simp only [size, List.length_append, List.length_singleton]
      omega
    · exact Nat.le_refl _

/-- The calls of a pool after a turn are no more than before; if the call that has the turn has not
ended and does not wait for ever, it has asked something. -/
theorem advance_cases (world : World) (p : Pool α) (w : Underway α) :
    (p.advance world w).size ≤ p.size ∨
      ∃ t asked rest, p.asked.length < asked.length ∧
        w.left.run world p.state p.asked = rest.run world t asked ∧
        p.advance world w = { p with
          state := t, asked := asked,
          ready := p.ready ++ [{ w with holds := true, left := rest }] } := by
  have hrun := w.left.run_turn world p.state p.asked
  have hasked : ∀ t u rest, w.left.turn world p.state p.asked = (t, u, .left rest) →
      p.asked.length < u.length := fun _ _ _ => Task.turn_asked
  unfold Pool.advance
  generalize w.left.turn world p.state p.asked = turned at hrun hasked ⊢
  obtain ⟨t, u, turn⟩ := turned
  cases turn with
  | left rest => exact Or.inr ⟨t, u, rest, hasked t u rest rfl, hrun, rfl⟩
  | stuck rest => exact Or.inl (Nat.le_refl _)
  | ended v => exact Or.inl (release_size _ _)

theorem unbegun_without (hw : p.ready[place]? = some w) :
    p.unbegun = (p.without place).unbegun + if w.holds then 0 else 1 := by
  rw [unbegun, (ready_perm hw).countP_eq, List.countP_cons]
  cases w.holds <;> rfl

theorem size_without (hw : p.ready[place]? = some w) : p.size = (p.without place).size + 1 := by
  simp only [size, (ready_perm hw).length_eq, List.length_cons, without]
  omega

/-- A turn that does not end the call that holds the conversation leaves it fewer questions. -/
theorem Stands.questions_less (h : Stands world calls c s asked order done p)
    (hw : p.ready[place]? = some w) (hh : w.holds = true) {t : EngineState} {u : List Query}
    {rest : Task EngineState (Except Failure α)} (hu : p.asked.length < u.length)
    (hrun : w.left.run world p.state p.asked = rest.run world t u) :
    questions world { p.without place with
      state := t, asked := u,
      ready := (p.without place).ready ++ [{ w with holds := true, left := rest }] } <
      p.questions world := by
  obtain ⟨hholders, hrest⟩ := h.busy_of_holds hw hh
  have hends := (rest.asked_prefix t u world).length_le
  simp only [questions, hholders, List.filter_append, hrest, List.map_cons, List.map_nil,
    List.sum_cons, List.sum_nil, List.filter_cons_of_pos, List.filter_nil, List.nil_append]
  rw [← hrun] at hends ⊢
  omega

/-- With every turn less is left to do. -/
theorem Kept.turn_less (h : Kept world calls c s asked order done p)
    (hw : p.ready[place]? = some w) : Less world (p.turn world place) p := by
  have hsize := size_without hw
  have hunbegun := unbegun_without hw
  rw [turn_some world hw]
  cases hheld : p.isHeld w with
  | true =>
    have hh : w.holds = false := by
      simp only [isHeld, Bool.and_eq_true, Bool.not_eq_true'] at hheld
      exact hheld.1
    rw [if_pos rfl]
    refine Or.inr ⟨?_, Or.inl ?_⟩
    · rw [hsize]
      simp only [size, without, List.length_append, List.length_singleton]
      omega
    · rw [hunbegun, hh]
      exact Nat.lt_succ_self _
  | false =>
    rw [if_neg Bool.false_ne_true]
    have hready : ((p.without place).hold w).ready = (p.without place).ready := by
      unfold hold
      split <;> rfl
    have hhold : ((p.without place).hold w).size = (p.without place).size := by
      unfold hold
      split <;> rfl
    rcases advance_cases world ((p.without place).hold w) w with hle | ⟨t, u, rest, hu, hrun, he⟩
    · exact Or.inl (by omega)
    rw [he]
    refine Or.inr ⟨?_, ?_⟩
    · simp only [size, List.length_append, List.length_singleton] at hsize hhold ⊢
      omega
    · simp only [unbegun, hready, List.countP_append] at hunbegun ⊢
      cases hh : w.holds with
      | false =>
        rw [hh] at hunbegun
        refine Or.inl ?_
        simp [hunbegun]
      | true =>
        have hgoes : (p.without place).hold w = p.without place := if_pos hh
        rw [hgoes] at hrun hu ⊢
        rw [hh] at hunbegun
        exact Or.inr ⟨by simpa using hunbegun.symm, h.stands.questions_less hw hh hu hrun⟩

/-- Schedules come to an end: at some turn no call stands at the place that has it. -/
theorem Kept.ends (h : Kept world calls c s asked order done p) (schedule : Nat → Nat) :
    ∃ n, (p.follow world ((List.range n).map schedule)).ready[schedule n]? = none := by
  induction p using (wellFounded_less world).induction generalizing order done schedule with
  | h p ih =>
    cases hw : p.ready[schedule 0]? with
    | none => exact ⟨0, hw⟩
    | some w =>
      obtain ⟨done', h'⟩ := h.turn (schedule 0)
      obtain ⟨n, hn⟩ := ih _ (h.turn_less hw) h' fun k => schedule (k + 1)
      refine ⟨n + 1, ?_⟩
      rw [List.range_succ_eq_map, List.map_cons, List.map_map]
      exact hn

end Engine.Pool

end ChatFlow
