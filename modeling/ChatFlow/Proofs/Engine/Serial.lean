import Mathlib.Data.List.Perm.Basic
import ChatFlow.Engine.Together
import ChatFlow.Proofs.Engine.Pausing
import ChatFlow.Proofs.Outside.Task

/-!
# Calls of one conversation at the same time

Calls that are started at the same time take turns in any order
(`Pool.follow`).  If all of them are about one conversation, they come to what they
come to one after the other, in the order in which they get hold of the
conversation (`Pool.order`): `Pool.follow_serial`.

The proof keeps one invariant over turns, `Pool.Kept`.  At every moment some calls
have been executed one after the other, and then the conversation is free, or one
call holds it and has come so far that what is left of it runs to where its whole
task runs, or the holder waits for a reply that never comes.  Only the holder writes
the state, so a turn of any other call changes nothing but who waits.

What a reply finds is then a matter of single calls (`Call.Leaves`).
-/

namespace ChatFlow.Engine

variable {α : Type}

/-- A call that has been executed: the state in which it began, and what it came to. -/
structure Executed (α : Type) where
  number : Nat
  before : EngineState
  value : Except Failure α

/-- Calls that are executed one after the other, each of them to its end, lead from one state to
another. -/
inductive OneByOne (world : World) (calls : List (Started α)) :
    EngineState → List Query → List (Executed α) → EngineState → List Query → Prop
  | nothing (s : EngineState) (asked : List Query) : OneByOne world calls s asked [] s asked
  | next {s s' t : EngineState} {asked asked' u : List Query} {i : Nat} {call : Started α}
      {v : Except Failure α} {done : List (Executed α)} (hc : calls[i]? = some call)
      (hr : call.task.run.run world s asked = ⟨s', asked', .inr v⟩)
      (h : OneByOne world calls s' asked' done t u) :
      OneByOne world calls s asked (⟨i, s, v⟩ :: done) t u

namespace OneByOne

variable {world : World} {calls : List (Started α)} {s t t' : EngineState}
  {asked u u' : List Query} {done before after : List (Executed α)} {i : Nat} {call : Started α}
  {v : Except Failure α}

/-- One more call. -/
theorem concat (h : OneByOne world calls s asked done t u) (hc : calls[i]? = some call)
    (hr : call.task.run.run world t u = ⟨t', u', .inr v⟩) :
    OneByOne world calls s asked (done ++ [⟨i, t, v⟩]) t' u' := by
  induction h with
  | nothing s asked => exact .next hc hr (.nothing t' u')
  | next hc' hr' _ ih => exact .next hc' hr' (ih hr)

theorem split (h : OneByOne world calls s asked (before ++ after) t u) :
    ∃ t₁ u₁, OneByOne world calls s asked before t₁ u₁ ∧ OneByOne world calls t₁ u₁ after t u := by
  induction before generalizing s asked with
  | nil => exact ⟨s, asked, .nothing s asked, h⟩
  | cons e before ih =>
    cases h with
    | next hc hr h =>
      obtain ⟨t₁, u₁, h₁, h₂⟩ := ih h
      exact ⟨t₁, u₁, .next hc hr h₁, h₂⟩

end OneByOne

namespace Pool

/-- The calls that have not got hold of their conversation. -/
def pending (p : Pool α) : List Nat :=
  ((p.ready.filter fun w => !w.holds) ++ p.waiting).map Underway.number

/-- The calls that get hold of their conversation in a turn. -/
def granted (world : World) (p : Pool α) (place : Nat) : List Nat :=
  p.pending.filter fun i => !(p.turn world place).pending.contains i

/-- Turns of the calls at these places, one after the other. -/
def follow (world : World) (p : Pool α) : List Nat → Pool α
  | [] => p
  | place :: places => (p.turn world place).follow world places

theorem turn_of_ready_nil (world : World) {p : Pool α} (h : p.ready = []) (place : Nat) :
    p.turn world place = p := by
  simp [turn, h]

theorem follow_of_ready_nil (world : World) {p : Pool α} (h : p.ready = []) (places : List Nat) :
    p.follow world places = p := by
  induction places with
  | nil => rfl
  | cons place places ih => rw [follow, turn_of_ready_nil world h, ih]

/-- Giving turns to the call that has waited for the longest time is one of the orders. -/
theorem turns_eq_follow (world : World) (left : Nat) (p : Pool α) :
    turns world left p = p.follow world (List.replicate left 0) := by
  induction left generalizing p with
  | zero => rfl
  | succ left ih =>
    rw [turns, List.replicate_succ, follow]
    split
    · rename_i h
      have hready : p.ready = [] := List.isEmpty_iff.mp h
      rw [turn_of_ready_nil world hready, follow_of_ready_nil world hready]
    · exact ih _

/-- The calls that get hold of their conversation in these turns, in the order in which they do. -/
def order (world : World) (p : Pool α) : List Nat → List Nat
  | [] => []
  | place :: places => p.granted world place ++ (p.turn world place).order world places

/-- Calls of which no one can go on have come to what they come to in this order one after the
other: all of them have ended, or the last of the order waits for a reply that never comes. -/
inductive Serial (world : World) (calls : List (Started α)) (s : EngineState)
    (asked : List Query) (order : List Nat) (p : Pool α) (done : List (Executed α)) : Prop
  | ended (executed : OneByOne world calls s asked done p.state p.asked)
      (values : p.values = done.map fun e => (e.number, e.value))
      (numbers : order = done.map Executed.number)
      (all : order.Perm (List.range calls.length))
  | blocked {t : EngineState} {u : List Query} {i : Nat} {call : Started α}
      {left : Task EngineState (Except Failure α)}
      (executed : OneByOne world calls s asked done t u)
      (values : p.values = done.map fun e => (e.number, e.value))
      (numbers : order = done.map Executed.number ++ [i]) (hc : calls[i]? = some call)
      (hr : call.task.run.run world t u = ⟨p.state, p.asked, .inl left⟩)

/-! ### What every turn keeps -/

section

variable (world : World) (calls : List (Started α)) (c : String) (s : EngineState)
  (asked : List Query)

/-- A call of the conversation that has not begun. -/
structure Fresh (w : Underway α) : Prop where
  holds : w.holds = false
  conversation : w.conversation = some c
  task : ∃ call, calls[w.number]? = some call ∧ w.left = call.task.run

/-- How the calls stand that have got hold of the conversation. -/
inductive Stands (order : List Nat) (done : List (Executed α)) (p : Pool α) : Prop
  | free (held : p.held = []) (holders : p.ready.filter Underway.holds = [])
      (waiting : p.waiting = []) (executed : OneByOne world calls s asked done p.state p.asked)
      (numbers : order = done.map Executed.number)
  | busy {t : EngineState} {u : List Query} {w : Underway α} {call : Started α}
      (held : p.held = [c]) (holders : p.ready.filter Underway.holds = [w])
      (conversation : w.conversation = some c)
      (executed : OneByOne world calls s asked done t u) (hc : calls[w.number]? = some call)
      (hr : call.task.run.run world t u = w.left.run world p.state p.asked)
      (numbers : order = done.map Executed.number ++ [w.number])
  | stuck {t : EngineState} {u : List Query} {i : Nat} {call : Started α}
      {left : Task EngineState (Except Failure α)} (held : p.held = [c])
      (holders : p.ready.filter Underway.holds = [])
      (executed : OneByOne world calls s asked done t u) (hc : calls[i]? = some call)
      (hr : call.task.run.run world t u = ⟨p.state, p.asked, .inl left⟩)
      (numbers : order = done.map Executed.number ++ [i])

/-- Who can go on, who waits and what the calls that have ended came to. -/
structure Listed (order : List Nat) (done : List (Executed α)) (p : Pool α) : Prop where
  values : p.values = done.map fun e => (e.number, e.value)
  ready : ∀ w ∈ p.ready, w.holds = false → Fresh calls c w
  waiting : ∀ w ∈ p.waiting, Fresh calls c w
  all : (order ++ p.pending).Perm (List.range calls.length)

/-- What every turn keeps. -/
structure Kept (order : List Nat) (done : List (Executed α)) (p : Pool α) : Prop extends
    Listed calls c order done p where
  stands : Stands world calls c s asked order done p

end

section

variable {world : World} {calls : List (Started α)} {c : String} {s : EngineState}
  {asked : List Query} {order : List Nat} {done : List (Executed α)} {p q : Pool α} {w : Underway α}

theorem Fresh.run {call : Started α} (hw : Fresh calls c w) (hc : calls[w.number]? = some call)
    (t : EngineState) (u : List Query) :
    call.task.run.run world t u = w.left.run world t u := by
  obtain ⟨call', hc', hl⟩ := hw.task
  obtain rfl := Option.some.inj (hc'.symm.trans hc)
  rw [hl]

theorem isHeld_eq (hw : w.conversation = some c) (hh : w.holds = false) :
    p.isHeld w = p.held.contains c := by
  simp [isHeld, hw, hh]

/-- The first call that waits is the one that holds the conversation next. -/
theorem release_cons {w : Underway α} {rest : List (Underway α)}
    (hw : p.waiting = w :: rest) (hc : w.conversation = some c)
    (hn : (p.waiting.map Underway.number).Nodup) :
    p.release (some c) =
      { p with ready := p.ready ++ [{ w with holds := true }], waiting := rest } := by
  rw [hw, List.map_cons, List.nodup_cons, List.mem_map] at hn
  have hf : p.waiting.find? (fun d => d.conversation == some c) = some w := by
    rw [hw, List.find?_cons_of_pos (by simp [hc])]
  have hrest : p.waiting.filter (fun d => d.number != w.number) = rest := by
    rw [hw, List.filter_cons_of_neg (by simp), List.filter_eq_self]
    exact fun d hd => bne_iff_ne.mpr fun he => hn.1 ⟨d, hd, he⟩
  simp only [release, hf, hrest]

theorem release_nil (hw : p.waiting = []) :
    p.release (some c) = { p with held := p.held.erase c } := by
  simp only [release, hw, List.find?_nil]

/-- The call that gets hold of the conversation by a turn is determined by who waits before and
after it. -/
theorem filter_pending {before after got : List Nat} {n : Nat}
    (hb : (order ++ before).Perm (List.range n))
    (ha : (order ++ got ++ after).Perm (List.range n)) (hg : got.length ≤ 1) :
    before.filter (fun i => !after.contains i) = got := by
  have hperm : before.Perm (got ++ after) := by
    rw [List.append_assoc] at ha
    exact (List.perm_append_left_iff order).mp (hb.trans ha.symm)
  have hnodup : (got ++ after).Nodup :=
    (List.nodup_append.mp ((List.append_assoc order got after ▸ ha).nodup_iff.mpr
      List.nodup_range)).2.1
  have hfilter : (got ++ after).filter (fun i => !after.contains i) = got := by
    rw [List.filter_append, List.filter_eq_self.mpr, List.filter_eq_nil_iff.mpr, List.append_nil]
    · exact fun i hi => by simp [hi]
    · intro i hi
      have hni : i ∉ after := fun hi' => (List.nodup_append.mp hnodup).2.2 i hi i hi' rfl
      simp [hni]
  have hgot := hperm.filter fun i => !after.contains i
  rw [hfilter] at hgot
  match got, hg with
  | [], _ => exact List.perm_nil.mp hgot
  | [i], _ => exact List.perm_singleton.mp hgot

theorem fresh_append {ready : List (Underway α)}
    (h : ∀ x ∈ ready, x.holds = false → Fresh calls c x) (hw : w.holds = true) :
    ∀ x ∈ ready ++ [w], x.holds = false → Fresh calls c x := by
  intro x hx hh
  rcases List.mem_append.mp hx with hx | hx
  · exact h x hx hh
  · rw [List.mem_singleton.mp hx, hw] at hh
    cases hh

/-- The conversation is free after the call that held it has ended, or the first call that waits gets
hold of it. -/
theorem Listed.release (h : Listed calls c order done p) (held : p.held = [c])
    (holders : p.ready.filter Underway.holds = [])
    (executed : OneByOne world calls s asked done p.state p.asked)
    (numbers : order = done.map Executed.number) :
    ∃ got, got.length ≤ 1 ∧ (p.waiting = [] → got = []) ∧
      Kept world calls c s asked (order ++ got) done (p.release (some c)) := by
  cases hw : p.waiting with
  | nil =>
    refine ⟨[], Nat.zero_le 1, fun _ => rfl, ?_⟩
    rw [release_nil hw, List.append_nil]
    refine ⟨⟨h.values, h.ready, h.waiting, h.all⟩, .free ?_ holders hw executed numbers⟩
    simp [held]
  | cons x rest =>
    have hx : Fresh calls c x := h.waiting x (hw ▸ List.mem_cons_self)
    obtain ⟨call, hc, hl⟩ := hx.task
    have hn : (p.waiting.map Underway.number).Nodup := by
      have hpending := (List.nodup_append.mp (h.all.nodup_iff.mpr List.nodup_range)).2.1
      rw [pending, List.map_append] at hpending
      exact (List.nodup_append.mp hpending).2.1
    refine ⟨[x.number], Nat.le_refl 1, fun hnil => (nomatch hnil), ?_⟩
    rw [release_cons hw hx.conversation hn]
    refine ⟨⟨h.values, fresh_append h.ready rfl,
      fun y hy => h.waiting y (hw ▸ List.mem_cons_of_mem x hy), ?_⟩, ?_⟩
    · refine List.Perm.trans ?_ h.all
      rw [List.append_assoc]
      refine List.Perm.append_left order ?_
      simpa [pending, List.filter_append, hw] using List.perm_middle.symm
    · refine .busy held (w := { x with holds := true }) ?_ hx.conversation executed hc ?_ ?_
      · simp [List.filter_append, holders]
      · rw [hl]
      · rw [numbers]

/-- The turn of a call that holds the conversation, when it has been taken out for it. -/
theorem Listed.advance {t : EngineState} {u : List Query} {call : Started α}
    (h : Listed calls c order done p) (held : p.held = [c])
    (holders : p.ready.filter Underway.holds = []) (conversation : w.conversation = some c)
    (executed : OneByOne world calls s asked done t u) (hc : calls[w.number]? = some call)
    (hr : call.task.run.run world t u = w.left.run world p.state p.asked)
    (numbers : order = done.map Executed.number ++ [w.number]) :
    ∃ got done', got.length ≤ 1 ∧ (p.waiting = [] → got = []) ∧
      Kept world calls c s asked (order ++ got) done' (p.advance world w) := by
  have hrun := hr.trans (w.left.run_turn world p.state p.asked)
  unfold Pool.advance
  generalize w.left.turn world p.state p.asked = turned at hrun ⊢
  obtain ⟨t', u', turn⟩ := turned
  cases turn with
  | left rest =>
    refine ⟨[], done, Nat.zero_le 1, fun _ => rfl,
      ⟨h.values, fresh_append h.ready rfl, h.waiting, ?_⟩, ?_⟩
    · simpa [pending, List.filter_append] using h.all
    · refine .busy (w := { w with holds := true, left := rest }) held ?_ conversation executed hc
        hrun ?_
      · simp [List.filter_append, holders]
      · rw [List.append_nil, numbers]
  | stuck rest =>
    refine ⟨[], done, Nat.zero_le 1, fun _ => rfl, ⟨h.values, h.ready, h.waiting, ?_⟩, ?_⟩
    · rw [List.append_nil]
      exact h.all
    · refine .stuck held holders executed hc hrun ?_
      rw [List.append_nil, numbers]
  | ended v =>
    have hvalues : p.values ++ [(w.number, v)] =
        (done ++ [Executed.mk w.number t v]).map fun e => (e.number, e.value) := by
      rw [h.values, List.map_append]
      rfl
    have hnumbers : order = (done ++ [Executed.mk w.number t v]).map Executed.number := by
      rw [numbers, List.map_append]
      rfl
    rw [conversation]
    have hlisted : Listed calls c order (done ++ [Executed.mk w.number t v])
        { p with state := t', asked := u', values := p.values ++ [(w.number, v)] } :=
      ⟨hvalues, h.ready, h.waiting, h.all⟩
    obtain ⟨got, hgot, hnil, hkept⟩ :=
      hlisted.release held holders (executed.concat hc hrun) hnumbers
    exact ⟨got, _, hgot, hnil, hkept⟩

/-! ### Turns -/

/-- The pool from which the call at a place is taken out. -/
def without (p : Pool α) (place : Nat) : Pool α := { p with ready := p.ready.eraseIdx place }

variable {place : Nat}

theorem ready_perm (hw : p.ready[place]? = some w) :
    p.ready.Perm (w :: (p.without place).ready) := by
  obtain ⟨hlt, rfl⟩ := List.getElem?_eq_some_iff.mp hw
  exact (List.getElem_cons_eraseIdx_perm hlt).symm

theorem pending_perm (hw : p.ready[place]? = some w) :
    p.pending.Perm ((if w.holds then [] else [w.number]) ++ (p.without place).pending) := by
  have hfilter := ((ready_perm hw).filter fun w => !w.holds).append_right p.waiting
  refine (hfilter.map Underway.number).trans (List.Perm.of_eq ?_)
  cases hh : w.holds <;> simp [pending, without, hh]

theorem holders_perm (hw : p.ready[place]? = some w) :
    (p.ready.filter Underway.holds).Perm
      ((if w.holds then [w] else []) ++ (p.without place).ready.filter Underway.holds) := by
  refine ((ready_perm hw).filter Underway.holds).trans (List.Perm.of_eq ?_)
  cases hh : w.holds <;> simp [hh]

theorem turn_some (world : World) (hw : p.ready[place]? = some w) :
    p.turn world place =
      if p.isHeld w then { p.without place with waiting := p.waiting ++ [w] }
      else ((p.without place).hold w).advance world w := by
  simp only [Pool.turn, hw]
  rfl

theorem Stands.held_cases (h : Stands world calls c s asked order done p) :
    p.held = [] ∨ p.held = [c] := by
  cases h with
  | free held => exact Or.inl held
  | busy held => exact Or.inr held
  | stuck held => exact Or.inr held

/-- A call that can go on and holds the conversation is the only one that does. -/
theorem Stands.busy_of_holds (h : Stands world calls c s asked order done p)
    (hw : p.ready[place]? = some w) (hh : w.holds = true) :
    p.ready.filter Underway.holds = [w] ∧
      (p.without place).ready.filter Underway.holds = [] := by
  have hholders := holders_perm hw
  rw [if_pos hh, List.singleton_append] at hholders
  cases h with
  | free held holders =>
    rw [holders] at hholders
    cases List.nil_perm.mp hholders
  | stuck held holders =>
    rw [holders] at hholders
    cases List.nil_perm.mp hholders
  | busy held holders =>
    rw [holders, List.singleton_perm] at hholders
    obtain ⟨rfl, hrest⟩ := List.cons.inj hholders
    exact ⟨holders, hrest.symm⟩

theorem Listed.ready_without (h : Listed calls c order done p) :
    ∀ x ∈ (p.without place).ready, x.holds = false → Fresh calls c x :=
  fun x hx => h.ready x (List.mem_of_mem_eraseIdx hx)

/-- A turn of the call that holds the conversation. -/
theorem Kept.goes_on (h : Kept world calls c s asked order done p)
    (hw : p.ready[place]? = some w) (hh : w.holds = true) :
    ∃ got done', got.length ≤ 1 ∧
      Kept world calls c s asked (order ++ got) done' ((p.without place).advance world w) := by
  have hpending := pending_perm hw
  rw [if_pos hh, List.nil_append] at hpending
  have hlisted : Listed calls c order done (p.without place) :=
    ⟨h.values, h.ready_without, h.waiting, (hpending.symm.append_left order).trans h.all⟩
  obtain ⟨hready, hrest⟩ := h.stands.busy_of_holds hw hh
  cases h.stands with
  | free held holders => cases hready.symm.trans holders
  | stuck held holders => cases hready.symm.trans holders
  | busy held holders conversation executed hc hr numbers =>
    obtain ⟨rfl, -⟩ := List.cons.inj (hready.symm.trans holders)
    obtain ⟨got, done', hone, -, hkept⟩ :=
      hlisted.advance held hrest conversation executed hc hr numbers
    exact ⟨got, done', hone, hkept⟩

/-- A turn of a call that has not begun, while another one holds the conversation. -/
theorem Kept.waits (h : Kept world calls c s asked order done p)
    (hw : p.ready[place]? = some w) (hh : w.holds = false) (held : p.held ≠ []) :
    Kept world calls c s asked order done
      { p.without place with waiting := p.waiting ++ [w] } := by
  have hpending := pending_perm hw
  have hholders := holders_perm hw
  rw [hh, if_neg Bool.false_ne_true, List.singleton_append] at hpending
  rw [hh, if_neg Bool.false_ne_true, List.nil_append] at hholders
  refine ⟨⟨h.values, h.ready_without, ?_, ?_⟩, ?_⟩
  · intro x hx
    rcases List.mem_append.mp hx with hx | hx
    · exact h.waiting x hx
    · rw [List.mem_singleton.mp hx]
      exact h.ready w (List.mem_of_getElem? hw) hh
  · refine (List.Perm.append_left order ?_).trans h.all
    refine List.Perm.trans ?_ hpending.symm
    rw [pending, ← List.append_assoc, List.map_append]
    exact List.perm_append_singleton w.number _
  · cases h.stands with
    | free free holders waiting executed numbers => exact absurd free held
    | busy held holders conversation executed hc hr numbers =>
      rw [holders, List.singleton_perm] at hholders
      exact .busy held hholders.symm conversation executed hc hr numbers
    | stuck held holders executed hc hr numbers =>
      rw [holders, List.nil_perm] at hholders
      exact .stuck held hholders executed hc hr numbers

/-- A turn of a call that has not begun, while the conversation is free. -/
theorem Kept.begins (h : Kept world calls c s asked order done p)
    (hw : p.ready[place]? = some w) (hh : w.holds = false) (held : p.held = []) :
    ∃ done', Kept world calls c s asked (order ++ [w.number]) done'
      (((p.without place).hold w).advance world w) := by
  have hpending := pending_perm hw
  have hholders := holders_perm hw
  rw [hh, if_neg Bool.false_ne_true, List.singleton_append] at hpending
  rw [hh, if_neg Bool.false_ne_true, List.nil_append] at hholders
  have hfresh : Fresh calls c w := h.ready w (List.mem_of_getElem? hw) hh
  obtain ⟨call, hc, hl⟩ := hfresh.task
  have hhold : (p.without place).hold w = { p.without place with held := [c] } := by
    have hnil : (p.without place).held = [] := held
    simp [hold, hh, hfresh.conversation, hnil]
  have hlisted : Listed calls c (order ++ [w.number]) done { p.without place with held := [c] } := by
    refine ⟨h.values, h.ready_without, h.waiting, ?_⟩
    rw [List.append_assoc]
    exact (hpending.symm.append_left order).trans h.all
  cases h.stands with
  | free held holders waiting executed numbers =>
    rw [holders, List.nil_perm] at hholders
    obtain ⟨got, done', -, hnone, hkept⟩ := hlisted.advance rfl hholders hfresh.conversation executed
      hc (hfresh.run hc _ _) (congrArg (· ++ [w.number]) numbers)
    rw [hnone waiting, List.append_nil] at hkept
    exact ⟨done', hhold ▸ hkept⟩
  | busy busy holders conversation executed hc hr numbers =>
    rw [busy] at held
    cases held
  | stuck busy holders executed hc hr numbers =>
    rw [busy] at held
    cases held

/-- A turn is one of the call that holds the conversation, or a call that has not begun gets hold of
it, or such a call begins to wait. -/
theorem Kept.turn (h : Kept world calls c s asked order done p) (place : Nat) :
    ∃ done', Kept world calls c s asked (order ++ p.granted world place) done'
      (p.turn world place) := by
  suffices hgot : ∃ got done', got.length ≤ 1 ∧
      Kept world calls c s asked (order ++ got) done' (p.turn world place) by
    obtain ⟨got, done', hone, hkept⟩ := hgot
    rw [granted, filter_pending h.all hkept.all hone]
    exact ⟨done', hkept⟩
  cases hw : p.ready[place]? with
  | none =>
    refine ⟨[], done, Nat.zero_le 1, ?_⟩
    simpa only [Pool.turn, hw, List.append_nil] using h
  | some w =>
    rw [turn_some world hw]
    cases hh : w.holds with
    | true =>
      have hfree : p.isHeld w = false := by simp [isHeld, hh]
      have hhold : (p.without place).hold w = p.without place := if_pos hh
      rw [hfree, if_neg Bool.false_ne_true, hhold]
      exact h.goes_on hw hh
    | false =>
      rw [isHeld_eq (h.ready w (List.mem_of_getElem? hw) hh).conversation hh]
      rcases h.stands.held_cases with held | held
      · rw [held, if_neg (by simp)]
        obtain ⟨done', hkept⟩ := h.begins hw hh held
        exact ⟨[w.number], done', Nat.le_refl 1, hkept⟩
      · rw [held, if_pos (by simp)]
        refine ⟨[], done, Nat.zero_le 1, ?_⟩
        rw [List.append_nil]
        exact h.waits hw hh (by simp [held])

theorem Kept.follow (h : Kept world calls c s asked order done p) (places : List Nat) :
    ∃ done', Kept world calls c s asked (order ++ p.order world places) done'
      (p.follow world places) := by
  induction places generalizing p order done with
  | nil => exact ⟨done, by rw [Pool.order, List.append_nil]; exact h⟩
  | cons place places ih =>
    obtain ⟨done₁, h₁⟩ := h.turn place
    obtain ⟨done₂, h₂⟩ := ih h₁
    exact ⟨done₂, by rw [Pool.order, ← List.append_assoc]; exact h₂⟩

theorem kept_start (hc : ∀ call ∈ calls, call.conversation = some c) :
    Kept world calls c s asked [] [] (start s asked calls) where
  values := rfl
  ready w hw _ := by
    obtain ⟨⟨call, i⟩, hi, rfl⟩ := List.mem_map.mp hw
    have hcall := List.mem_zipIdx_iff_getElem?.mp hi
    exact ⟨rfl, hc call (List.mem_of_getElem? hcall), call, hcall, rfl⟩
  waiting w hw := nomatch hw
  all := by
    have hnone : (start s asked calls).ready.filter (fun w => !w.holds) =
        (start s asked calls).ready := by
      refine List.filter_eq_self.mpr fun w hw => ?_
      obtain ⟨x, -, rfl⟩ := List.mem_map.mp hw
      rfl
    refine List.Perm.of_eq ?_
    rw [List.nil_append, pending, hnone]
    rw [List.range_eq_range', ← List.zipIdx_map_snd 0 calls, start, List.append_nil, List.map_map]
    rfl
  stands := by
    refine .free rfl (List.filter_eq_nil_iff.mpr fun w hw => ?_) rfl (.nothing s asked) rfl
    obtain ⟨x, -, rfl⟩ := List.mem_map.mp hw
    exact Bool.false_ne_true

/-- When no call can go on, the calls have come to what they come to one after the other. -/
theorem Kept.serial (h : Kept world calls c s asked order done p) (hready : p.ready = []) :
    Serial world calls s asked order p done := by
  cases h.stands with
  | free held holders waiting executed numbers =>
    refine .ended executed h.values numbers ?_
    simpa [pending, hready, waiting] using h.all
  | busy held holders =>
    rw [hready] at holders
    cases holders
  | stuck held holders executed hc hr numbers => exact .blocked executed h.values numbers hc hr

/-- Calls of one conversation that were started at the same time come to what they come to one after
the other, in the order in which they get hold of the conversation. -/
theorem follow_serial (hc : ∀ call ∈ calls, call.conversation = some c) (places : List Nat)
    (hready : ((start s asked calls).follow world places).ready = []) :
    ∃ done, Serial world calls s asked ((start s asked calls).order world places)
      ((start s asked calls).follow world places) done := by
  obtain ⟨done, h⟩ := (kept_start hc : Kept world calls c s asked [] [] (start s asked calls)).follow places
  exact ⟨done, h.serial hready⟩

/-- In a world that replies all calls end. -/
theorem Serial.ended_of_replies (hw : world.Replies)
    (h : Serial world calls s asked order p done) :
    OneByOne world calls s asked done p.state p.asked ∧
      (done.map Executed.number).Perm (List.range calls.length) := by
  cases h with
  | ended executed values numbers all => exact ⟨executed, numbers ▸ all⟩
  | @blocked t u i call left executed values numbers hc hr =>
    obtain ⟨t', u', v, hrun⟩ := call.task.run.run_ends t u hw
    rw [hr] at hrun
    cases hrun

end

end Pool

end ChatFlow.Engine
