import Mathlib
import ChatFlow.Decimal.Binary

/-!
# The order of doubles

Two doubles compare by the numbers that they stand for: the two zeros are one number, and
NaN compares with nothing, not even with itself.  `order` is this comparison with all its
outcomes, and `<`, `≤` and `==` each ask for some of them.  So what the operators have to do
with each other follows from two facts: exchanging the doubles turns the outcome round
(`order_swap`), and there is an outcome exactly if neither is NaN (`order_eq_none_iff`).
-/

namespace ChatFlow.Decimal

open Float.Model (UnpackedFloat)

/-- How one double compares with another, if it does. -/
def order (x y : Float) : Option Ordering := x.toModel.compare y.toModel

variable {x y : Float}

/-! ### The outcomes -/

/-- Mantissas and exponents that change places compare the other way round. -/
theorem compare_swap (e f : Int) (m n : Nat) :
    ((compare e f).then (compare m n)).swap = (compare f e).then (compare n m) := by
  rw [Ordering.swap_then, Int.compare_swap, Nat.compare_swap]

theorem unpacked_compare_swap (u v : UnpackedFloat) :
    v.compare u = (u.compare v).map Ordering.swap := by
  cases u with
  | notANumber => cases v <;> rfl
  | infinity s =>
    cases v with
    | infinity t => cases s <;> cases t <;> rfl
    | notANumber => cases s <;> rfl
    | zero t => cases s <;> rfl
    | finite t m e h => cases s <;> cases t <;> rfl
  | zero s =>
    cases v with
    | infinity t => cases t <;> rfl
    | notANumber => rfl
    | zero t => rfl
    | finite t m e h => cases t <;> rfl
  | finite s m e h =>
    cases v with
    | infinity t => cases s <;> cases t <;> rfl
    | notANumber => cases s <;> rfl
    | zero t => cases s <;> rfl
    | finite t n f h' =>
      cases s <;> cases t
      · exact congrArg some (congrArg Ordering.swap (compare_swap e f m n).symm)
      · rfl
      · rfl
      · exact congrArg some (compare_swap e f m n).symm

theorem unpacked_compare_eq_none_iff (u v : UnpackedFloat) :
    u.compare v = none ↔ u.isNaN = true ∨ v.isNaN = true := by
  cases u with
  | notANumber => simp [UnpackedFloat.compare, UnpackedFloat.isNaN]
  | infinity s => cases v <;> cases s <;> simp [UnpackedFloat.compare, UnpackedFloat.isNaN]
  | zero s =>
    cases v with
    | infinity t => cases t <;> simp [UnpackedFloat.compare, UnpackedFloat.isNaN]
    | finite t m e h => cases t <;> simp [UnpackedFloat.compare, UnpackedFloat.isNaN]
    | _ => simp [UnpackedFloat.compare, UnpackedFloat.isNaN]
  | finite s m e h =>
    cases v with
    | infinity t => cases s <;> cases t <;> simp [UnpackedFloat.compare, UnpackedFloat.isNaN]
    | finite t n f h' => cases s <;> cases t <;> simp [UnpackedFloat.compare, UnpackedFloat.isNaN]
    | _ => cases s <;> simp [UnpackedFloat.compare, UnpackedFloat.isNaN]

/-- Exchanging the doubles turns the outcome round. -/
theorem order_swap (x y : Float) : order y x = (order x y).map Ordering.swap :=
  unpacked_compare_swap x.toModel.unpack y.toModel.unpack

theorem order_eq_none_iff : order x y = none ↔ x.isNaN = true ∨ y.isNaN = true :=
  unpacked_compare_eq_none_iff x.toModel.unpack y.toModel.unpack

/-! ### The operators -/

theorem lt_iff : x < y ↔ order x y = some .lt := by
  change Float.lt x y = true ↔ _
  rw [Float.lt, decide_eq_true_iff]
  exact beq_iff_eq

theorem le_iff : x ≤ y ↔ order x y = some .lt ∨ order x y = some .eq := by
  change Float.le x y = true ↔ _
  rw [Float.le, decide_eq_true_iff]
  change (order x y).any (·.isLE) = true ↔ _
  rcases order x y with _ | _ | _ | _ <;> simp [Ordering.isLE]

theorem beq_iff : (x == y) = true ↔ order x y = some .eq := by
  change (order x y == some .eq) = true ↔ _
  exact beq_iff_eq

theorem beq_symm (x y : Float) : (x == y) = (y == x) := by
  rw [Bool.eq_iff_iff, beq_iff, beq_iff, order_swap x y]
  rcases order x y with _ | _ | _ | _ <;> decide

theorem not_lt_of_lt (h : x < y) : ¬ y < x := by
  rw [lt_iff] at h ⊢
  rw [order_swap x y, h]
  decide

theorem le_of_lt (h : x < y) : x ≤ y := le_iff.mpr (Or.inl (lt_iff.mp h))

/-- Doubles that are at most each other are numbers of which neither is the lesser one. -/
theorem le_and_le_iff (hx : x.isNaN = false) (hy : y.isNaN = false) :
    (x ≤ y ∧ y ≤ x) ↔ ¬ x < y ∧ ¬ y < x := by
  have hsome : order x y ≠ none := by
    rw [Ne, order_eq_none_iff, hx, hy]
    simp
  rw [le_iff, le_iff, lt_iff, lt_iff, order_swap x y]
  rcases ho : order x y with _ | _ | _ | _
  · exact absurd ho hsome
  all_goals simp

end ChatFlow.Decimal
