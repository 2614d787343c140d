import Mathlib
import ChatFlow.Proofs.Decimal.Limitless
import ChatFlow.Proofs.Decimal.Product
import ChatFlow.Proofs.Node.Requesting

/-!
# The numbers of delays and places

A delay lets some seconds pass, and a place goes out as two coordinates.  These numbers are read from
the settings, and not all that is read is finite.  `finite_unless_spelled_otherwise` says of every
such node which settings let a number out that is not: a coordinate that is read as no finite number,
and a delay that never ends (`Filled.NeverEnds`).  Seconds are never negative and never NaN, and where
a coordinate is no number at all nothing goes out.
-/

namespace ChatFlow

open Decimal

/-! ### Seconds -/

namespace Control

/-- The seconds that a unit has; an unknown word stands for seconds. -/
def secondsIn (word : String) : Nat :=
  ([("seconds", 1), ("minutes", 60), ("hours", 3600), ("days", 86400)].lookup (Text.lower word)).getD 1

/-- A unit is a whole number of seconds, and no more of them than a day has. -/
structure IsUnit (unit : Float) (k : Nat) (d : Decimal.Dyadic) : Prop where
  decoded : decode? unit = some d
  positive : d.negative = false
  magnitude : d.magnitude = k
  pos : 0 < k
  le : k ≤ 86400

theorem isUnit_places {unit : Float} {k j : Nat} (h : decode? unit = some ⟨false, k * 2 ^ j, -(j : ℤ)⟩)
    (hpos : 0 < k) (hle : k ≤ 86400) : ∃ d, IsUnit unit k d :=
  ⟨_, h, rfl, Dyadic.magnitude_places false k j, hpos, hle⟩

theorem IsUnit.mantissa_ne_zero {unit : Float} {k : Nat} {d : Decimal.Dyadic} (h : IsUnit unit k d) :
    d.mantissa ≠ 0 := by
  intro hzero
  have hmagnitude := h.magnitude
  rw [Dyadic.magnitude, hzero, Nat.cast_zero, zero_mul] at hmagnitude
  exact h.pos.ne (Nat.cast_eq_zero.mp hmagnitude.symm).symm

theorem exists_isUnit (word : String) : ∃ d, IsUnit (unitOf word).2 (secondsIn word) d := by
  have hsecond : ∃ d, IsUnit 1 1 d :=
    isUnit_places (j := 52) (by decide +kernel) (by decide) (by decide)
  have hminute : ∃ d, IsUnit 60 60 d :=
    isUnit_places (j := 47) (by decide +kernel) (by decide) (by decide)
  have hhour : ∃ d, IsUnit 3600 3600 d :=
    isUnit_places (j := 41) (by decide +kernel) (by decide) (by decide)
  have hday : ∃ d, IsUnit 86400 86400 d :=
    isUnit_places (j := 36) (by decide +kernel) (by decide) (by decide)
  unfold unitOf secondsIn units
  generalize Text.lower word = w
  simp only [List.lookup]
  cases w == "seconds" with
  | true => exact hsecond
  | false =>
    cases w == "minutes" with
    | true => exact hminute
    | false =>
      cases w == "hours" with
      | true => exact hhour
      | false =>
        cases w == "days" with
        | true => exact hday
        | false => exact hsecond

/-- Seconds are not negative, and not NaN. -/
theorem secondsOf_nonneg (amount unit : Float) : 0 ≤ secondsOf amount unit := by
  unfold secondsOf
  dsimp only
  split
  · rename_i h
    exact le_of_lt h
  · exact le_iff.mpr (Or.inr (by rfl))

theorem isFinite_secondsOf_eq_false_iff (amount unit : Float) :
    isFinite (secondsOf amount unit) = false ↔
      0 < amount * unit ∧ isFinite (amount * unit) = false := by
  unfold secondsOf
  dsimp only
  split
  · rename_i h
    exact (and_iff_right h).symm
  · rename_i h
    exact iff_of_false (by decide +kernel) fun hpos => h hpos.1

end Control

/-- The delay never ends: its amount is read as the positive infinity, or as a number whose seconds are
too many for a double. -/
def Filled.NeverEnds (f : Filled) : Prop :=
  Endless (f.get "amount").display ∨ ∃ x d, readFloat? (f.get "amount").display = some x ∧
    decode? x = some d ∧ d.negative = false ∧
    leastTooLarge ≤ d.magnitude * Control.secondsIn (f.text "unit")

/-- The seconds that a delay lets pass. -/
def Filled.seconds (f : Filled) : Float :=
  Control.secondsOf (Control.amountOf (f.get "amount")) (Control.unitOf (f.text "unit")).2

/-- Five of any unit are not too many. -/
theorem five_units_lt {k : Nat} (h : k ≤ 86400) : (5 * k : ℚ) < leastTooLarge := by
  have hlarge : 5 * 86400 < leastTooLarge := by decide +kernel
  exact_mod_cast (Nat.mul_le_mul_left 5 h).trans_lt hlarge

theorem Filled.isFinite_seconds_eq_false_iff (f : Filled) :
    isFinite f.seconds = false ↔ f.NeverEnds := by
  obtain ⟨u, hunit⟩ := Control.exists_isUnit (f.text "unit")
  unfold seconds NeverEnds
  rw [Control.isFinite_secondsOf_eq_false_iff,
    pos_and_not_isFinite_mul_iff hunit.decoded hunit.positive hunit.mantissa_ne_zero, hunit.magnitude,
    Control.amountOf, endless_iff]
  cases readFloat? (f.get "amount").display with
  | some x =>
    constructor
    · rintro (h | ⟨d, h⟩)
      · exact Or.inl (congrArg some h)
      · exact Or.inr ⟨x, d, rfl, h⟩
    · rintro (h | ⟨y, d, hy, h⟩)
      · exact Or.inl (Option.some.inj h)
      · obtain rfl := Option.some.inj hy
        exact Or.inr ⟨d, h⟩
  | none =>
    -- the amount is five then
    have hfive : decode? 5 = some ⟨false, 5 * 2 ^ 50, -(50 : Nat)⟩ := by decide +kernel
    have hless := not_le.mpr (five_units_lt hunit.le)
    refine iff_of_false ?_ ?_
    · rintro (hinfinite | ⟨d, hd, -, hlarge⟩)
      · have hdecode : decode? 5 = decode? (infinite false) := congrArg decode? hinfinite
        rw [hfive] at hdecode
        cases hdecode
      · obtain rfl := Option.some.inj (hfive.symm.trans hd)
        rw [Dyadic.magnitude_places] at hlarge
        exact hless hlarge
    · rintro (h | ⟨x, d, h, -⟩) <;> cases h

/-! ### Tasks that ask once -/

namespace Task

variable {σ α β ε : Type} {Q : Query → Prop} {P : α → Prop}

/-- A task that ends at once with such a value, or asks one such question and nothing after it. -/
inductive AsksOnce (Q : Query → Prop) (P : α → Prop) : Task σ α → Prop
  | done {a : α} (h : P a) : AsksOnce Q P (done a)
  | ask {q : Query} {next : q.Reply → Task σ α} (hq : Q q)
      (h : ∀ r, (next r).Asks fun _ => False) : AsksOnce Q P (ask q next)

theorem AsksOnce.bind {R : β → Prop} {t : Task σ α} {f : α → Task σ β} (ht : t.AsksOnce Q P)
    (hf : ∀ a, P a → (f a).AsksOnce Q R) (hend : ∀ a, (f a).Asks fun _ => False) :
    (t >>= f).AsksOnce Q R := by
  cases ht with
  | done h => exact hf _ h
  | ask hq h => exact .ask hq fun r => (h r).bind hend

/-- A run asks nothing and ends with such a value, or asks one such question. -/
theorem AsksOnce.run {t : Task σ α} (ht : t.AsksOnce Q P) (world : World) (s : σ)
    (asked : List Query) :
    (∃ a, P a ∧ t.run world s asked = ⟨s, asked, .inr a⟩) ∨
      ∃ q, Q q ∧ (t.run world s asked).asked = asked ++ [q] := by
  cases ht with
  | done h => exact Or.inl ⟨_, h, rfl⟩
  | @ask q next hq h =>
    refine Or.inr ⟨q, hq, ?_⟩
    rw [Task.run]
    cases world asked q with
    | none => rfl
    | some r =>
      obtain ⟨more, hmore, hnone⟩ := (h r).asked world s (asked ++ [q])
      cases more with
      | nil => exact hmore.trans (List.append_nil _)
      | cons q' more => exact (hnone q' List.mem_cons_self).elim

theorem asksOnce_attempt_bind {P : Except ε α → Prop} {r : Except ε β}
    {g : β → ExceptT ε (Task σ) α} (hg : ∀ b, r = .ok b → (g b).run.AsksOnce Q P)
    (he : ∀ e, P (.error e)) : (attempt r >>= g).run.AsksOnce Q P := by
  cases r with
  | error e => exact .done (he e)
  | ok b => exact hg b rfl

theorem AsksOnce.run_bind {P : Except ε β → Prop} {R : Except ε α → Prop}
    {x : ExceptT ε (Task σ) β} {f : β → ExceptT ε (Task σ) α} (hx : x.run.AsksOnce Q P)
    (hf : ∀ b, P (.ok b) → (f b).run.AsksOnce Q R) (he : ∀ e, P (.error e) → R (.error e))
    (hend : ∀ b, (f b).run.Asks fun _ => False) : (x >>= f).run.AsksOnce Q R := by
  rw [ExceptT.run_bind]
  refine hx.bind (fun r hr => ?_) fun r => ?_
  · cases r with
    | error e => exact .done (he e hr)
    | ok b => exact hf b hr
  · cases r with
    | error e => trivial
    | ok b => exact hend b

end Task

/-! ### Places -/

section

variable {c : NodeContext} {n : Node} {f : Filled} {Q : Query → Prop}

/-- A handler has failed, or found that the node did not do what it is for. -/
def Fails (r : Except Failure Finding) : Prop := ∀ g, r = .ok g → g.success = false

theorem fails_error (e : Failure) : Fails (.error e) := nofun

theorem fails_missing (output : Entries Value) (reason : String) (stop : Bool) :
    Fails (.ok (.missing output reason stop)) := by
  rintro _ ⟨⟩
  rfl

/-- A message, unless the account cannot send any. -/
theorem WhatsApp.asksOnce_send {σ : Type} (a : Account) {payload : Value}
    (h : Q (.http (a.request payload))) :
    (send (σ := σ) a payload).run.AsksOnce Q fun r => ∀ d, r = .ok d → d.success = false := by
  unfold send
  split
  · rw [Task.run_lift_bind]
    refine .ask h fun o => Task.asks_run_attempt_bind fun d => ?_
    split
    · exact Task.asks_run_attempt _
    · exact Task.asks_run_pure _
  · refine .done ?_
    rintro _ ⟨⟩
    rfl

theorem asksOnce_sent {payload : Value} (h : Q (.http (c.accounts.whatsapp.request payload)))
    (output : Entries Value) :
    (Send.send c payload >>= fun d => pure (Send.plain output d)).run.AsksOnce Q Fails := by
  refine (WhatsApp.asksOnce_send _ h).run_bind (fun d hd => .done ?_) (fun e _ => fails_error e)
    fun d => Task.asks_run_pure _
  rintro _ ⟨⟩
  exact hd d rfl

/-- A coordinate in the settings is read as this number, once its template is filled. -/
def NodeContext.Reads (c : NodeContext) (v : Value) (x : Float) : Prop :=
  ∃ w, c.scope.fillText v = .ok w ∧ readFloat? w.display = some x

/-- A coordinate in the settings is read as no finite number, once its template is filled. -/
def NodeContext.Unbounded (c : NodeContext) (v : Value) : Prop :=
  ∃ w, c.scope.fillText v = .ok w ∧ Decimal.Unbounded w.display

theorem NodeContext.unbounded_iff {v w : Value} (hw : c.scope.fillText v = .ok w) :
    c.Unbounded v ↔ Decimal.Unbounded w.display := by
  constructor
  · rintro ⟨w', hw', h⟩
    rwa [Except.ok.inj (hw.symm.trans hw')]
  · exact fun h => ⟨w, hw, h⟩

theorem NodeContext.Reads.isFinite_eq_false_iff {v : Value} {x : Float} (h : c.Reads v x) :
    isFinite x = false ↔ c.Unbounded v := by
  obtain ⟨w, hw, hx⟩ := h
  rw [isFinite_eq_false_iff_unbounded hx, NodeContext.unbounded_iff hw]

/-- A message to the user that carries the place which the settings name. -/
structure NodeContext.Places (c : NodeContext) (f : Filled) (latitude longitude : Float) (q : Query) :
    Prop where
  readsLatitude : c.Reads (f.get "latitude") latitude
  readsLongitude : c.Reads (f.get "longitude") longitude
  message : ∃ phone name address : String, q = .http (c.accounts.whatsapp.request
    (WhatsApp.locationPayload phone (.float latitude) (.float longitude) name address))

theorem asksOnce_coordinate {v : Value} {g : Option Float → Handling}
    (hg : ∀ x?, (∀ x, x? = some x → c.Reads v x) → (g x?).run.AsksOnce Q Fails) :
    (Send.coordinate c v >>= g).run.AsksOnce Q Fails := by
  unfold Send.coordinate
  rw [bind_assoc]
  exact Task.asksOnce_attempt_bind (fun w hw => hg _ fun x hx => ⟨w, hw, hx⟩) fails_error

theorem asksOnce_location (h : ∀ latitude longitude q, c.Places f latitude longitude q → Q q) :
    (Send.location c n f).run.AsksOnce Q Fails := by
  unfold Send.location
  refine asksOnce_coordinate fun latitude? hlatitude => ?_
  refine asksOnce_coordinate fun longitude? hlongitude => ?_
  refine Task.asksOnce_attempt_bind (fun name _ => ?_) fails_error
  refine Task.asksOnce_attempt_bind (fun address _ => ?_) fails_error
  dsimp only
  split
  · rename_i latitude longitude
    split
    · rename_i phone _
      exact asksOnce_sent (h latitude longitude _
        ⟨hlatitude _ rfl, hlongitude _ rfl, phone, name, address, rfl⟩) _
    · exact .done (fails_missing _ _ _)
  · exact .done (fails_missing _ _ _)

/-! ### Executing the node -/

/-- A run that asks nothing and has failed. -/
def Task.Progress.Refuses (x : Task.Progress Database.Address (Except Failure (NodeResult × Entries Value)))
    (asked : List Query) : Prop :=
  x.asked = asked ∧ ∃ r vars, x.outcome = .inr (.ok (r, vars)) ∧ r.success = false

theorem asksOnce_handled {handler : Handler}
    (h : ∀ f, n.filled = .ok f → (handler c n f).run.AsksOnce Q Fails) :
    (handled handler c n).run.AsksOnce Q Fails := by
  unfold handled
  refine Task.asksOnce_attempt_bind (fun f hf => ?_) fails_error
  refine (h f hf).run_bind (fun g hg => ?_) (fun e _ => fails_error e) fun g => ?_
  · refine Task.asksOnce_attempt_bind (fun _ _ => .done ?_) fails_error
    rintro _ ⟨⟩
    exact hg g rfl
  · exact Task.asks_run_attempt_bind fun _ => Task.asks_run_pure _

theorem asksOnce_findOut {kind : NodeKind} (hk : NodeKind.ofType? n.type = some kind)
    (h : ∀ f, n.filled = .ok f → (kind.handler c n f).run.AsksOnce Q Fails) :
    (findOut [] c n).AsksOnce Q fun g => g.success = false := by
  unfold findOut
  simp only [handlerOf?, hk]
  refine (asksOnce_handled h).bind (fun r hr => ?_) fun r => ?_
  · cases r with
    | error e => exact .done rfl
    | ok g => exact .done (hr g rfl)
  · cases r <;> exact Task.asks_pure _ _

/-- A node asks what its handler asks, once the settings are read; if they are not, it fails. -/
theorem refuses_or_asks {kind : NodeKind} (hk : NodeKind.ofType? n.type = some kind)
    (h : ∀ f, n.filled = .ok f → (kind.handler c n f).run.AsksOnce Q Fails)
    (world : World) (s : Database.Address) (asked : List Query) :
    ((execute [] c n).run.run world s asked).Refuses asked ∨
      ∃ q, Q q ∧ ((execute [] c n).run.run world s asked).asked = asked ++ [q] := by
  have hexecute : (execute [] c n).run.AsksOnce Q fun r =>
      ∃ g : Finding, g.success = false ∧ r = .ok (g.result n, g.vars n c.scope.vars) := by
    unfold execute
    rw [Task.run_lift_bind]
    exact (asksOnce_findOut hk h).bind (fun g hg => .done ⟨g, hg, rfl⟩) fun g => Task.asks_pure _ _
  rcases hexecute.run world s asked with ⟨_, ⟨g, hg, rfl⟩, hrun⟩ | hasked
  · rw [hrun]
    exact Or.inl ⟨rfl, _, _, rfl, hg⟩
  · exact Or.inr hasked

/-- A delay sleeps, once its settings are read. -/
theorem asked_delay (hk : NodeKind.ofType? n.type = some .delay) (hf : n.filled = .ok f)
    (world : World) (s : Database.Address) (asked : List Query) :
    ((execute [] c n).run.run world s asked).asked = asked ++ [.sleep f.seconds] := by
  have hfind : ∃ g, findOut [] c n = Task.ask (.sleep f.seconds) fun _ => .done g := by
    unfold findOut handled
    simp only [handlerOf?, hk, hf]
    exact ⟨_, rfl⟩
  obtain ⟨g, hg⟩ := hfind
  unfold execute
  rw [Task.run_lift_bind, hg, Task.ask_bind, Task.run]
  cases world asked (.sleep f.seconds) <;> rfl

/-- **A number that leaves the settings is finite unless they spell something else.**  A delay sleeps
for seconds that are not negative, and they are finite unless it never ends.  A place goes out with
the coordinates that its settings are read as, each finite unless its text is read as no finite
number.  Where the settings cannot be read, or a coordinate is no number, nothing goes out and the node
fails. -/
theorem finite_unless_spelled_otherwise (c : NodeContext) (n : Node) (world : World)
    (s : Database.Address) (asked : List Query) :
    let x := (execute [] c n).run.run world s asked
    (NodeKind.ofType? n.type = some .delay →
      (∃ e, n.filled = .error e) ∧ x.Refuses asked ∨
      ∃ f, n.filled = .ok f ∧ x.asked = asked ++ [.sleep f.seconds] ∧ 0 ≤ f.seconds ∧
        (isFinite f.seconds = false ↔ f.NeverEnds)) ∧
    (NodeKind.ofType? n.type = some .location →
      x.Refuses asked ∨
      ∃ f latitude longitude q, n.filled = .ok f ∧ x.asked = asked ++ [q] ∧
        c.Places f latitude longitude q ∧
        (isFinite latitude = false ↔ c.Unbounded (f.get "latitude")) ∧
        (isFinite longitude = false ↔ c.Unbounded (f.get "longitude"))) := by
  intro x
  constructor
  · intro hk
    cases hf : n.filled with
    | ok f =>
      exact Or.inr ⟨f, rfl, asked_delay hk hf world s asked, Control.secondsOf_nonneg _ _,
        f.isFinite_seconds_eq_false_iff⟩
    | error e =>
      refine Or.inl ⟨⟨e, rfl⟩, (refuses_or_asks (Q := fun _ => False) hk ?_ world s asked).resolve_right
        fun ⟨_, h, _⟩ => h⟩
      intro f hf'
      rw [hf] at hf'
      cases hf'
  · intro hk
    have hplaced (f : Filled) (hf : n.filled = .ok f) : (Send.location c n f).run.AsksOnce
        (fun q => ∃ f latitude longitude, n.filled = .ok f ∧ c.Places f latitude longitude q)
        Fails :=
      asksOnce_location fun latitude longitude q hq => ⟨f, latitude, longitude, hf, hq⟩
    refine (refuses_or_asks hk hplaced world s asked).imp_right ?_
    rintro ⟨q, ⟨f, latitude, longitude, hf, hplaces⟩, hasked⟩
    exact ⟨f, latitude, longitude, q, hf, hasked, hplaces,
      hplaces.readsLatitude.isFinite_eq_false_iff, hplaces.readsLongitude.isFinite_eq_false_iff⟩

end

/-- A node that sends a place. -/
def Node.locating (latitude longitude : String) : Node :=
  ⟨"p", "send_location", [("latitude", .str latitude), ("longitude", .str longitude)], none, "", []⟩

/-- What is asked when the place is sent. -/
def Node.located (latitude longitude : String) : List Query :=
  ((execute [] .sending (.locating latitude longitude)).run.run (.answering .accepted) none []).asked

/-- One coordinate can be finite and the other one not. -/
theorem finite_unless_spelled_otherwise_placing : ∃ f latitude longitude q,
    Node.located "52.5" "1e400" = [q] ∧ NodeContext.sending.Places f latitude longitude q ∧
      isFinite latitude = true ∧ isFinite longitude = false := by
  obtain ⟨request, hasked⟩ : ∃ request, Node.located "52.5" "1e400" = [.http request] :=
    ⟨_, by with_unfolding_all rfl⟩
  have hfilled : ∃ f, (Node.locating "52.5" "1e400").filled = .ok f ∧
      f.get "latitude" = .str "52.5" ∧ f.get "longitude" = .str "1e400" := ⟨_, rfl, rfl, rfl⟩
  have hfill : NodeContext.sending.scope.fillText (.str "52.5") = .ok (.str "52.5") ∧
      NodeContext.sending.scope.fillText (.str "1e400") = .ok (.str "1e400") :=
    ⟨by with_unfolding_all rfl, by with_unfolding_all rfl⟩
  rcases (finite_unless_spelled_otherwise .sending (.locating "52.5" "1e400") (.answering .accepted)
    none []).2 rfl with hrefuses | ⟨f, latitude, longitude, q, hf, hq, hplaces, hlatitude, hlongitude⟩
  · have hnone : Node.located "52.5" "1e400" = [] := hrefuses.1
    rw [hasked] at hnone
    cases hnone
  · obtain ⟨f', hf', hget, hget'⟩ := hfilled
    obtain rfl := Except.ok.inj (hf.symm.trans hf')
    rw [hget] at hlatitude
    rw [hget'] at hlongitude
    rw [NodeContext.unbounded_iff hfill.1, unbounded_iff] at hlatitude
    rw [NodeContext.unbounded_iff hfill.2, unbounded_iff] at hlongitude
    refine ⟨f, latitude, longitude, q, hq, hplaces, ?_, hlongitude.mpr ?_⟩
    · have hread : (readFloat? "52.5").map isFinite = some true := by decide +kernel
      rw [← Bool.not_eq_false, hlatitude]
      rintro ⟨x, hx, hinfinite⟩
      rw [← Value.display_str "52.5", hx, Option.map_some, hinfinite] at hread
      cases hread
    · have hread : (readFloat? "1e400").map isFinite = some false := by decide +kernel
      obtain ⟨x, hx, hinfinite⟩ := Option.map_eq_some_iff.mp hread
      exact ⟨x, hx, hinfinite⟩

/-- A delay without an end. -/
def Node.endless : Node := ⟨"d", "delay", [("delay", .str "inf"), ("unit", .str "seconds")], none, "", []⟩

/-- The service sleeps for ever. -/
theorem endless_delay_sleeps : ∃ seconds,
    ((execute [] .sending .endless).run.run (.answering .accepted) none []).asked = [.sleep seconds] ∧
      isFinite seconds = false :=
  ⟨infinite false, by with_unfolding_all rfl, isFinite_infinite false⟩

end ChatFlow
