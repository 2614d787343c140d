import ChatFlow.Condition.Compare
import ChatFlow.Proofs.Decimal.Order

/-!
# Laws of comparing

Each operand is read on its own, as a text or as a number, and only then are the two
compared.  So it does not matter which of them comes first: equality is symmetric
(`looseEquals_symm`), and two operands exchanged are the same pair turned round
(`ordered?_swap`).  What the four order operators have to do with each other is settled on
such pairs, where it is a matter of the order of texts and of the order of doubles.

`comparison_laws` collects the laws of the six operators.
-/

namespace ChatFlow.Condition

/-- Two operands that can be ordered: two texts, when lists and objects are read as texts, or two
numbers, neither of them NaN. -/
def Comparable (a b : Operand) : Prop :=
  (∃ s t, scalar a = some (.str s) ∧ scalar b = some (.str t)) ∨
  ∃ x y, number a = .ok x ∧ number b = .ok y ∧ x.isNaN = false ∧ y.isNaN = false

variable {a b : Operand}

/-! ### Reading one operand -/

theorem eq_tooLarge_of_number {e : Failure} (h : number a = .error e) : e = .tooLarge := by
  unfold number at h
  split at h
  case h_4 =>
    split at h
    · cases h
    · exact (Except.error.inj h).symm
  all_goals cases h

/-- Reading a list or an object as a text first makes no difference to its number. -/
theorem number_scalar (a : Operand) : number (scalar a) = number a := by
  cases a with
  | none => rfl
  | some v =>
    cases v with
    | object fields => exact congrArg Except.ok (by decide +kernel)
    | _ => rfl

/-- It does not matter which of two numbers is asked for first, even if neither can be had. -/
theorem numbers_swap {α : Type} {f g : Float → Float → α} (h : ∀ x y, f y x = g x y)
    (a b : Operand) : (do return f (← number b) (← number a) : Except Failure α) =
      do return g (← number a) (← number b) := by
  cases ha : number a with
  | error e =>
    obtain rfl := eq_tooLarge_of_number ha
    cases hb : number b with
    | error e =>
      obtain rfl := eq_tooLarge_of_number hb
      rfl
    | ok y => rfl
  | ok x =>
    cases number b with
    | error e => rfl
    | ok y => exact congrArg Except.ok (h x y)

/-! ### Equality -/

theorem scalarEquals_symm (a b : Operand) : scalarEquals a b = scalarEquals b a := by
  unfold scalarEquals
  split
  case h_1 s t => exact congrArg Except.ok BEq.comm
  case h_2 p q => exact congrArg Except.ok BEq.comm
  case h_3 htexts hbools =>
    split
    case h_1 t s => exact absurd rfl (htexts s t rfl)
    case h_2 q p => exact absurd rfl (hbools p q rfl)
    case h_3 => exact numbers_swap (f := fun x y => x == y) (fun x y => Decimal.beq_symm y x) b a

theorem looseEquals_symm (same : Bool) (a b : Operand) :
    looseEquals same a b = looseEquals same b a := by
  unfold looseEquals
  rw [Bool.or_comm (isAbsent b), Bool.and_comm (isAbsent b), Bool.and_comm (isCollection b),
    scalarEquals_symm (scalar b)]

/-! ### Pairs that are ordered -/

/-- The same two operands, the other one first. -/
def Ordered.swap : Ordered → Ordered
  | texts a b => texts b a
  | numbers a b => numbers b a

/-- A pair without NaN in it. -/
def Ordered.Real : Ordered → Prop
  | texts _ _ => True
  | numbers a b => a.isNaN = false ∧ b.isNaN = false

namespace Ordered

theorem less_swap (p : Ordered) : p.swap.less = p.greater := by
  cases p <;> rfl

theorem atMost_swap (p : Ordered) : p.swap.atMost = p.atLeast := by
  cases p <;> rfl

theorem not_greater_and_less (p : Ordered) : ¬ (p.greater = true ∧ p.less = true) := by
  rintro ⟨hgreater, hless⟩
  cases p with
  | texts a b => exact List.lt_asymm (of_decide_eq_true hgreater) (of_decide_eq_true hless)
  | numbers a b =>
    exact Decimal.not_lt_of_lt (of_decide_eq_true hgreater) (of_decide_eq_true hless)

theorem atLeast_of_greater {p : Ordered} (h : p.greater = true) : p.atLeast = true := by
  cases p with
  | texts a b => simpa [atLeast] using List.lt_asymm (of_decide_eq_true h)
  | numbers a b => exact decide_eq_true (Decimal.le_of_lt (of_decide_eq_true h))

theorem atLeast_and_atMost_iff {p : Ordered} (hp : p.Real) :
    (p.atLeast = true ∧ p.atMost = true) ↔ p.greater = false ∧ p.less = false := by
  cases p with
  | texts a b =>
    simp only [atLeast, atMost, greater, less, Bool.not_eq_true']
    exact and_comm
  | numbers a b =>
    simp only [atLeast, atMost, greater, less, decide_eq_true_iff, decide_eq_false_iff_not]
    exact Decimal.le_and_le_iff hp.2 hp.1

end Ordered

theorem ordered?_texts {s t : String} (ha : scalar a = some (.str s)) (hb : scalar b = some (.str t)) :
    ordered? a b = .ok (some (.texts s t)) := by
  unfold ordered?
  rw [ha, hb]

/-- Operands that are not both texts are ordered by their numbers. -/
theorem ordered?_numbers (h : ¬ ∃ s t, scalar a = some (.str s) ∧ scalar b = some (.str t)) :
    ordered? a b = do
      let x ← number a
      let y ← number b
      return if x.isNaN || y.isNaN then none else some (.numbers x y) := by
  unfold ordered?
  split
  case h_1 s t ha hb => exact absurd ⟨s, t, ha, hb⟩ h
  case h_2 => rw [number_scalar, number_scalar]

/-- Two operands exchanged are the same pair turned round. -/
theorem ordered?_swap (a b : Operand) :
    ordered? b a = (ordered? a b).map (Option.map Ordered.swap) := by
  by_cases htexts : ∃ s t, scalar a = some (.str s) ∧ scalar b = some (.str t)
  · obtain ⟨s, t, ha, hb⟩ := htexts
    rw [ordered?_texts ha hb, ordered?_texts hb ha]
    rfl
  · have htexts' : ¬ ∃ s t, scalar b = some (.str s) ∧ scalar a = some (.str t) := by
      rintro ⟨s, t, hb, ha⟩
      exact htexts ⟨t, s, ha, hb⟩
    have hpair (x y : Float) :
        (if y.isNaN || x.isNaN then none else some (Ordered.numbers y x)) =
          (if x.isNaN || y.isNaN then none else some (Ordered.numbers x y)).map Ordered.swap := by
      rw [Bool.or_comm]
      cases x.isNaN || y.isNaN <;> rfl
    rw [ordered?_numbers htexts, ordered?_numbers htexts', numbers_swap hpair]
    cases number a <;> cases number b <;> rfl

/-- A pair that is not of texts comes from the numbers of its operands, and has no NaN in it. -/
theorem ordered?_eq_some_iff {p : Ordered}
    (h : ¬ ∃ s t, scalar a = some (.str s) ∧ scalar b = some (.str t)) :
    ordered? a b = .ok (some p) ↔ ∃ x y, number a = .ok x ∧ number b = .ok y ∧
      x.isNaN = false ∧ y.isNaN = false ∧ p = .numbers x y := by
  rw [ordered?_numbers h]
  cases number a with
  | error e => simp [bind, Except.bind]
  | ok x =>
    cases number b with
    | error e => simp [bind, Except.bind]
    | ok y =>
      constructor
      · intro hp
        have hpair : (if (x.isNaN || y.isNaN) = true then none else some (Ordered.numbers x y)) =
            some p := Except.ok.inj hp
        split at hpair
        · cases hpair
        · rename_i hnan
          obtain ⟨hx, hy⟩ := Bool.or_eq_false_iff.mp (Bool.eq_false_iff.mpr hnan)
          exact ⟨x, y, rfl, rfl, hx, hy, (Option.some.inj hpair).symm⟩
      · rintro ⟨x', y', hx', hy', hx, hy, rfl⟩
        obtain rfl := Except.ok.inj hx'
        obtain rfl := Except.ok.inj hy'
        exact congrArg Except.ok (if_neg (by rw [hx, hy]; decide))

theorem real_of_ordered? {p : Ordered} (h : ordered? a b = .ok (some p)) : p.Real := by
  by_cases htexts : ∃ s t, scalar a = some (.str s) ∧ scalar b = some (.str t)
  · obtain ⟨s, t, ha, hb⟩ := htexts
    rw [ordered?_texts ha hb] at h
    obtain rfl := Option.some.inj (Except.ok.inj h)
    trivial
  · obtain ⟨x, y, -, -, hx, hy, rfl⟩ := (ordered?_eq_some_iff htexts).mp h
    exact ⟨hx, hy⟩

theorem comparable_iff : Comparable a b ↔ ∃ p, ordered? a b = .ok (some p) := by
  by_cases htexts : ∃ s t, scalar a = some (.str s) ∧ scalar b = some (.str t)
  · have hcomparable : Comparable a b := Or.inl htexts
    obtain ⟨s, t, ha, hb⟩ := htexts
    simp only [hcomparable, true_iff]
    exact ⟨_, ordered?_texts ha hb⟩
  · rw [Comparable, or_iff_right htexts]
    constructor
    · rintro ⟨x, y, ha, hb, hx, hy⟩
      exact ⟨_, (ordered?_eq_some_iff htexts).mpr ⟨x, y, ha, hb, hx, hy, rfl⟩⟩
    · rintro ⟨p, hp⟩
      obtain ⟨x, y, ha, hb, hx, hy, -⟩ := (ordered?_eq_some_iff htexts).mp hp
      exact ⟨x, y, ha, hb, hx, hy⟩

/-! ### Order operators -/

/-- What a test says of two operands: it is said of the pair that they form, if they form one. -/
def orders (test : Ordered → Bool) (a b : Operand) : Except Failure Bool :=
  (ordered? a b).map fun pair => (pair.map test).getD false

theorem orders_eq (test : Ordered → Bool) (a b : Operand) :
    (do return match ← ordered? a b with
      | some pair => test pair
      | none => false : Except Failure Bool) = orders test a b := by
  unfold orders
  rcases ordered? a b with _ | _ | _ <;> rfl

theorem compare_greater (same : Bool) (a b : Operand) :
    compare same a ">" b = orders Ordered.greater a b := orders_eq Ordered.greater a b

theorem compare_less (same : Bool) (a b : Operand) :
    compare same a "<" b = orders Ordered.less a b := orders_eq Ordered.less a b

theorem compare_greaterOrEqual (same : Bool) (a b : Operand) :
    compare same a ">=" b = orders Ordered.atLeast a b := orders_eq Ordered.atLeast a b

theorem compare_lessOrEqual (same : Bool) (a b : Operand) :
    compare same a "<=" b = orders Ordered.atMost a b := orders_eq Ordered.atMost a b

/-- A test says of two operands what its mirror image says of them exchanged. -/
theorem orders_swap {test mirror : Ordered → Bool} (h : ∀ p : Ordered, mirror p.swap = test p)
    (a b : Operand) : orders mirror b a = orders test a b := by
  unfold orders
  rw [ordered?_swap]
  rcases ordered? a b with _ | _ | p
  · rfl
  · rfl
  · exact congrArg Except.ok (h p)

theorem orders_eq_true_iff {test : Ordered → Bool} :
    orders test a b = .ok true ↔ ∃ p, ordered? a b = .ok (some p) ∧ test p = true := by
  unfold orders
  rcases ordered? a b with _ | _ | p <;> simp [Except.map]

/-- Of operands that can be ordered, a test fails where it fails of their pair. -/
theorem orders_eq_false_iff {test : Ordered → Bool} {p : Ordered} (h : ordered? a b = .ok (some p)) :
    orders test a b = .ok false ↔ test p = false := by
  unfold orders
  rw [h]
  simp [Except.map]

/-- **The laws of comparing.**  Equality is symmetric and inequality is its negation; an order operator
says of two operands what its mirror image says of them exchanged; of two operands, one is not both
greater and less than the other, and what is greater is also at least as great; and operands are at
least and at most each other exactly if they can be ordered and neither is greater or less. -/
theorem comparison_laws (same : Bool) (a b : Operand) :
    compare same a "==" b = compare same b "==" a ∧
    compare same a "!=" b = (compare same a "==" b).map not ∧
    compare same a ">" b = compare same b "<" a ∧
    compare same a ">=" b = compare same b "<=" a ∧
    ¬ (compare same a ">" b = .ok true ∧ compare same a "<" b = .ok true) ∧
    (compare same a ">" b = .ok true → compare same a ">=" b = .ok true) ∧
    ((compare same a ">=" b = .ok true ∧ compare same a "<=" b = .ok true) ↔
      Comparable a b ∧ compare same a ">" b = .ok false ∧ compare same a "<" b = .ok false) := by
  rw [compare_greater, compare_less, compare_less, compare_greaterOrEqual, compare_lessOrEqual,
    compare_lessOrEqual]
  refine ⟨looseEquals_symm same a b, rfl, (orders_swap Ordered.less_swap a b).symm,
    (orders_swap Ordered.atMost_swap a b).symm, ?_, ?_, ?_⟩
  · rintro ⟨hgreater, hless⟩
    obtain ⟨p, hp, hgreater⟩ := orders_eq_true_iff.mp hgreater
    obtain ⟨q, hq, hless⟩ := orders_eq_true_iff.mp hless
    obtain rfl : p = q := Option.some.inj (Except.ok.inj (hp.symm.trans hq))
    exact p.not_greater_and_less ⟨hgreater, hless⟩
  · intro hgreater
    obtain ⟨p, hp, hgreater⟩ := orders_eq_true_iff.mp hgreater
    exact orders_eq_true_iff.mpr ⟨p, hp, Ordered.atLeast_of_greater hgreater⟩
  · constructor
    · rintro ⟨hleast, hmost⟩
      obtain ⟨p, hp, hleast⟩ := orders_eq_true_iff.mp hleast
      obtain ⟨q, hq, hmost⟩ := orders_eq_true_iff.mp hmost
      obtain rfl : p = q := Option.some.inj (Except.ok.inj (hp.symm.trans hq))
      have hreal := real_of_ordered? hp
      rw [orders_eq_false_iff hp, orders_eq_false_iff hp, comparable_iff]
      exact ⟨⟨p, hp⟩, (Ordered.atLeast_and_atMost_iff hreal).mp ⟨hleast, hmost⟩⟩
    · rintro ⟨hcomparable, hneither⟩
      obtain ⟨p, hp⟩ := comparable_iff.mp hcomparable
      rw [orders_eq_false_iff hp, orders_eq_false_iff hp] at hneither
      obtain ⟨hleast, hmost⟩ :=
        (Ordered.atLeast_and_atMost_iff (real_of_ordered? hp)).mpr hneither
      exact ⟨orders_eq_true_iff.mpr ⟨p, hp, hleast⟩, orders_eq_true_iff.mpr ⟨p, hp, hmost⟩⟩

theorem eq_ok_of_toOption {r : Except Failure Bool} {v : Bool} (h : r.toOption = some v) :
    r = .ok v := by
  cases r with
  | error e => cases h
  | ok w => exact congrArg Except.ok (Option.some.inj h)

theorem comparison_laws_of_text_and_number :
    compare false (some (.str "2.5")) ">" (some (.int 2)) = .ok true ∧
    compare false (some (.str "2.5")) ">=" (some (.int 2)) = .ok true := by
  obtain ⟨-, -, -, -, -, hleast, -⟩ := comparison_laws false (some (.str "2.5")) (some (.int 2))
  have hgreater : compare false (some (.str "2.5")) ">" (some (.int 2)) = .ok true :=
    eq_ok_of_toOption (by decide +kernel)
  exact ⟨hgreater, hleast hgreater⟩

end ChatFlow.Condition
