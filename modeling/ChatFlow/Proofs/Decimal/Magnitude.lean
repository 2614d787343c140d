import Mathlib
import ChatFlow.Decimal.Reading
import ChatFlow.Proofs.Decimal.Whole

/-!
# Numbers that are too large for a double

A ratio has a nearest double that is finite exactly if it is less than `leastTooLarge`
(`isFinite_nearest_iff`), and so has a decimal `n · 10 ^ e` (`isFinite_ofScaled_iff`).

The bits of the nearest double, the sign apart, are the exponent `q` of its last place and the ratio
in units of `2 ^ q`, rounded.  What this comes to is said about the ratio itself (`Rounded`), so that
three cases of `q` are left to show when there is room for it (`Rounded.le_bits_iff`).
-/

namespace ChatFlow.Decimal

variable {num den : Nat}

/-! ### Powers of two -/

theorem two_zpow_pos (i : ℤ) : (0 : ℚ) < 2 ^ i := zpow_pos (by norm_num) i

theorem two_zpow_le {i j : ℤ} (h : i ≤ j) : (2 : ℚ) ^ i ≤ 2 ^ j :=
  zpow_le_zpow_right₀ (by norm_num) h

theorem two_zpow_add (i j : ℤ) : (2 : ℚ) ^ (i + j) = 2 ^ i * 2 ^ j :=
  zpow_add₀ (by norm_num) i j

theorem twoTo_cast (k : Nat) : (twoTo k : ℚ) = 2 ^ (k : ℤ) := by
  rw [twoTo, zpow_natCast]
  exact Nat.cast_pow 2 k

theorem two_zpow_log2_le {n : Nat} (h : n ≠ 0) : (2 : ℚ) ^ (n.log2 : ℤ) ≤ n := by
  rw [zpow_natCast]
  exact_mod_cast Nat.log2_self_le h

theorem lt_two_zpow_log2 (n : Nat) : (n : ℚ) < 2 ^ ((n.log2 : ℤ) + 1) := by
  have h := Nat.lt_log2_self (n := n)
  exact_mod_cast h

/-- The bound lies in the middle of a unit of the last place of doubles with 1024 binary digits. -/
theorem leastTooLarge_cast : (leastTooLarge : ℚ) = (2 ^ 53 - 1 / 2) * 2 ^ (971 : ℤ) := by
  have h1024 : twoTo 1024 = 2 ^ 54 * twoTo 970 := twoTo_add 54 970
  have hunits : leastTooLarge = (2 ^ 54 - 1) * twoTo 970 := by
    unfold leastTooLarge
    omega
  have h971 : (2 : ℚ) ^ (971 : ℤ) = 2 ^ (1 : ℤ) * 2 ^ ((970 : Nat) : ℤ) := two_zpow_add 1 970
  rw [hunits, Nat.cast_mul, twoTo_cast, h971]
  generalize (2 : ℚ) ^ ((970 : Nat) : ℤ) = unit
  norm_num
  ring

/-! ### Rounded numbers -/

/-- A positive number is rounded to `r` units `2 ^ q` of the last place that a double near it has. -/
structure Rounded (v : ℚ) (q : ℤ) (r : Nat) : Prop where
  place : ∃ top : ℤ, q = max (top - 52) (-1074) ∧ 2 ^ top ≤ v ∧ v < 2 ^ (top + 1)
  /-- Rounding comes to an even number from half a unit below it on. -/
  reaches : ∀ c : Nat, c % 2 = 0 → (c ≤ r ↔ (c - 1 / 2) * 2 ^ q ≤ v)

namespace Rounded

variable {v : ℚ} {q : ℤ} {r : Nat}

theorem less (h : Rounded v q r) : v < 2 ^ 53 * 2 ^ q := by
  obtain ⟨top, hq, -, hhigh⟩ := h.place
  refine hhigh.trans_le ((two_zpow_le (by omega : top + 1 ≤ 53 + q)).trans_eq ?_)
  exact two_zpow_add 53 q

/-- All digits are used, except by the smallest numbers. -/
theorem normal (h : Rounded v q r) : q = -1074 ∨ 2 ^ 52 * 2 ^ q ≤ v ∧ 2 ^ 52 ≤ r := by
  obtain ⟨top, hq, hlow, -⟩ := h.place
  rcases max_choice (top - 52) (-1074) with hmax | hmax
  · have hunit := two_zpow_pos q
    have hhalf : (2 : ℚ) ^ 52 * 2 ^ q ≤ v := by
      refine le_trans (le_of_eq ?_) hlow
      rw [show top = 52 + q by omega]
      exact (two_zpow_add 52 q).symm
    refine Or.inr ⟨hhalf, (h.reaches (2 ^ 52) (by decide)).mpr (le_trans ?_ hhalf)⟩
    push_cast
    linarith
  · exact Or.inl (hq.trans hmax)

/-- There is no room for the exponent exactly if the number is too large. -/
theorem le_bits_iff (h : Rounded v q r) :
    2047 * 2 ^ 52 ≤ (q + 1074).toNat * 2 ^ 52 + r ↔ (leastTooLarge : ℚ) ≤ v := by
  have hunit := two_zpow_pos q
  have hless := h.less
  rw [leastTooLarge_cast]
  rcases lt_trichotomy q 971 with hsmall | rfl | hlarge
  · -- the number does not even have 1024 binary digits
    have hfew : ¬ 3 * 2 ^ 52 ≤ r := by
      rw [h.reaches _ (by decide), not_le]
      refine hless.trans ?_
      push_cast
      linarith
    have hbelow : (2 : ℚ) ^ 53 * 2 ^ q ≤ 2 ^ 52 * 2 ^ (971 : ℤ) := by
      have hstep : (2 : ℚ) ^ (1 + q) ≤ 2 ^ (971 : ℤ) := two_zpow_le (by omega)
      rw [two_zpow_add 1 q] at hstep
      linarith
    refine iff_of_false (by omega) (not_le.mpr (hless.trans_le (hbelow.trans ?_)))
    exact mul_le_mul_of_nonneg_right (by norm_num) (two_zpow_pos 971).le
  · have hcarry := h.reaches (2 ^ 53) (by decide)
    rw [Nat.cast_pow, Nat.cast_ofNat] at hcarry
    rw [← hcarry]
    omega
  · obtain ⟨hhalf, hmany⟩ := h.normal.resolve_left (by omega)
    refine iff_of_true (by omega) (le_trans ?_ hhalf)
    have hstep : (2 : ℚ) ^ (1 + (971 : ℤ)) ≤ 2 ^ q := two_zpow_le (by omega)
    have hpos := two_zpow_pos 971
    rw [two_zpow_add 1 971, zpow_one] at hstep
    generalize (2 : ℚ) ^ (971 : ℤ) = unit at hstep hpos ⊢
    linarith

end Rounded

/-- Rounding a quotient comes to an even number from half a unit below it on. -/
theorem le_roundDiv_iff_cast (hden : den ≠ 0) {c : Nat} (hc : c % 2 = 0) :
    c ≤ roundDiv num den ↔ (c - 1 / 2 : ℚ) ≤ num / den := by
  have hpos : (0 : ℚ) < den := by exact_mod_cast Nat.pos_of_ne_zero hden
  have hcast : 2 * (c * den) ≤ 2 * num + den ↔ 2 * (c * den : ℚ) ≤ 2 * num + den := by
    exact_mod_cast Iff.rfl
  rw [le_roundDiv_iff (Nat.pos_of_ne_zero hden) hc, le_div_iff₀ hpos, hcast]
  constructor <;> intro h <;> linarith

/-! ### The last place -/

theorem lt_iff_div_lt (hden : den ≠ 0) (k : Nat) :
    num < den * twoTo k ↔ (num / den : ℚ) < 2 ^ (k : ℤ) := by
  have hpos : (0 : ℚ) < den := by exact_mod_cast Nat.pos_of_ne_zero hden
  rw [div_lt_iff₀ hpos, ← twoTo_cast, mul_comm]
  exact_mod_cast Iff.rfl

theorem lt_iff_div_lt' (hden : den ≠ 0) (k : Nat) :
    num * twoTo k < den ↔ (num / den : ℚ) < 2 ^ (-(k : ℤ)) := by
  have hpos : (0 : ℚ) < den := by exact_mod_cast Nat.pos_of_ne_zero hden
  rw [div_lt_iff₀ hpos, zpow_neg, inv_mul_eq_div, lt_div_iff₀ (two_zpow_pos _), ← twoTo_cast]
  exact_mod_cast Iff.rfl

/-- The last place comes from the place of the first binary digit of a ratio. -/
theorem lastPlace_eq (hnum : num ≠ 0) (hden : den ≠ 0) : ∃ top : ℤ,
    lastPlace num den = max (top - 52) (-1074) ∧
      (2 : ℚ) ^ top ≤ num / den ∧ (num / den : ℚ) < 2 ^ (top + 1) := by
  have hpos : (0 : ℚ) < den := by exact_mod_cast Nat.pos_of_ne_zero hden
  obtain ⟨guess, hguess⟩ : ∃ guess : ℤ, guess = (num.log2 : ℤ) - den.log2 := ⟨_, rfl⟩
  have hhigh : (num / den : ℚ) < 2 ^ (guess + 1) := by
    rw [div_lt_iff₀ hpos]
    calc (num : ℚ) < 2 ^ ((num.log2 : ℤ) + 1) := lt_two_zpow_log2 num
      _ = 2 ^ (guess + 1) * 2 ^ (den.log2 : ℤ) := by rw [← two_zpow_add, hguess]; congr 1; ring
      _ ≤ 2 ^ (guess + 1) * den :=
        mul_le_mul_of_nonneg_left (two_zpow_log2_le hden) (two_zpow_pos _).le
  have hlow : (2 : ℚ) ^ (guess - 1) ≤ num / den := by
    rw [le_div_iff₀ hpos]
    calc (2 : ℚ) ^ (guess - 1) * den ≤ 2 ^ (guess - 1) * 2 ^ ((den.log2 : ℤ) + 1) :=
          mul_le_mul_of_nonneg_left (lt_two_zpow_log2 den).le (two_zpow_pos _).le
      _ = 2 ^ (num.log2 : ℤ) := by rw [← two_zpow_add, hguess]; congr 1; ring
      _ ≤ num := two_zpow_log2_le hnum
  have hplace : lastPlace num den =
      max ((if (num / den : ℚ) < 2 ^ guess then guess - 1 else guess) - 52) (-1074) := by
    unfold lastPlace
    simp only [← hguess]
    cases guess with
    | ofNat k => simp only [lt_iff_div_lt hden k, Int.ofNat_eq_natCast]
    | negSucc k => simp only [lt_iff_div_lt' hden (k + 1), Int.negSucc_eq, Nat.cast_add, Nat.cast_one]
  refine ⟨_, hplace, ?_⟩
  split
  · rename_i hless
    rw [sub_add_cancel]
    exact ⟨hlow, hless⟩
  · rename_i hmore
    exact ⟨not_lt.mp hmore, hhigh⟩

theorem le_scaledRound_iff (hden : den ≠ 0) {c : Nat} (hc : c % 2 = 0) (q : ℤ) :
    c ≤ scaledRound num den q ↔ (c - 1 / 2) * (2 : ℚ) ^ q ≤ num / den := by
  cases q with
  | ofNat k =>
    have hscaled : den * twoTo k ≠ 0 := Nat.mul_ne_zero hden (twoTo_pos k).ne'
    rw [scaledRound, le_roundDiv_iff_cast hscaled hc, Int.ofNat_eq_natCast, Nat.cast_mul, twoTo_cast,
      ← div_div, le_div_iff₀ (two_zpow_pos _)]
  | negSucc k =>
    rw [scaledRound, le_roundDiv_iff_cast hden hc, Int.negSucc_eq, zpow_neg, ← div_eq_mul_inv,
      div_le_iff₀ (two_zpow_pos _), Nat.cast_mul, twoTo_cast, div_mul_eq_mul_div, Nat.cast_succ]

/-! ### Ratios -/

theorem rounded_ratio (hnum : num ≠ 0) (hden : den ≠ 0) : Rounded (num / den)
    (lastPlace num den) (scaledRound num den (lastPlace num den)) where
  place := lastPlace_eq hnum hden
  reaches _ hc := le_scaledRound_iff hden hc _

/-- The bits of the double nearest to a ratio, the sign apart, if there were room for any exponent. -/
def nearestBits (num den : Nat) : Nat :=
  (lastPlace num den + 1074).toNat * 2 ^ 52 + scaledRound num den (lastPlace num den)

theorem nearest_eq (negative : Bool) (hnum : num ≠ 0) :
    nearest negative num den = Float.ofBits (UInt64.ofNat
      ((if negative then twoTo 63 else 0) + min (nearestBits num den) (2047 * 2 ^ 52))) := by
  rw [nearest, if_neg hnum]
  rfl

/-- **The ratios that are too large for a double.** -/
theorem isFinite_nearest_iff (negative : Bool) (hden : den ≠ 0) :
    isFinite (nearest negative num den) = true ↔ (num / den : ℚ) < leastTooLarge := by
  by_cases hnum : num = 0
  · subst hnum
    have hpos : (0 : ℚ) < leastTooLarge := by exact_mod_cast leastTooLarge_pos
    simp only [Nat.cast_zero, zero_div, hpos, iff_true, nearest, if_pos]
    cases negative <;> decide +kernel
  · have hbits : 2047 * 2 ^ 52 ≤ nearestBits num den ↔ (leastTooLarge : ℚ) ≤ num / den :=
      (rounded_ratio hnum hden).le_bits_iff
    have hpart : min (nearestBits num den) (2047 * 2 ^ 52) / 2 ^ 52 = 2047 ↔
        2047 * 2 ^ 52 ≤ nearestBits num den := by omega
    rw [isFinite, nearest_eq negative hnum, decode?_ofBits negative (Nat.min_le_right _ _),
      ← not_le, ← hbits, ← hpart]
    split
    · rename_i hfull
      exact iff_of_false Bool.false_ne_true (not_not_intro hfull)
    · rename_i hfull
      refine iff_of_true ?_ hfull
      split <;> rfl

/-! ### Infinities -/

theorem isFinite_infinite (negative : Bool) : isFinite (infinite negative) = false := by
  cases negative <;> rfl

theorem infinite_eq_iff {negative : Bool} : infinite negative = infinite false ↔ negative = false := by
  constructor
  · intro h
    have hbits : (infinite negative).toBits = (infinite false).toBits := congrArg Float.toBits h
    revert hbits
    cases negative <;> decide +kernel
  · rintro rfl
    rfl

/-- What is too large becomes infinite. -/
theorem nearest_eq_infinite (negative : Bool) (hden : den ≠ 0)
    (h : isFinite (nearest negative num den) = false) : nearest negative num den = infinite negative := by
  by_cases hnum : num = 0
  · have hfinite : isFinite (nearest negative num den) = true := by
      rw [isFinite_nearest_iff negative hden, hnum, Nat.cast_zero, zero_div]
      exact Nat.cast_pos.mpr leastTooLarge_pos
    exact absurd (hfinite.symm.trans h) (by decide)
  · have hbits : min (nearestBits num den) (2047 * 2 ^ 52) = 2047 * 2 ^ 52 := by
      rw [isFinite, nearest_eq negative hnum, decode?_ofBits negative (Nat.min_le_right _ _)] at h
      split at h
      · omega
      · split at h <;> cases h
    rw [nearest_eq negative hnum, hbits]
    cases negative <;> rfl

/-! ### Decimals -/

theorem ten_zpow_pos (i : ℤ) : (0 : ℚ) < 10 ^ i := zpow_pos (by norm_num) i

theorem tenTo_cast (k : Nat) : (tenTo k : ℚ) = 10 ^ (k : ℤ) := by
  rw [tenTo, zpow_natCast]
  exact Nat.cast_pow 10 k

/-- A number lies between the powers of ten that its digits count. -/
theorem toDigits_bounds {n : Nat} (hn : n ≠ 0) :
    (10 : ℚ) ^ ((Nat.toDigits 10 n).length - 1 : ℤ) ≤ n ∧
      (n : ℚ) < 10 ^ ((Nat.toDigits 10 n).length : ℤ) := by
  have hpos : 0 < (Nat.toDigits 10 n).length := Nat.length_toDigits_pos
  obtain ⟨places, hplaces⟩ : ∃ places, (Nat.toDigits 10 n).length = places + 1 :=
    ⟨_, (Nat.succ_pred_eq_of_pos hpos).symm⟩
  have hhigh : n < 10 ^ (places + 1) :=
    (Nat.length_toDigits_le_iff (by decide) (by omega)).mp hplaces.le
  have hlow : 10 ^ places ≤ n := by
    by_contra hless
    rcases Nat.eq_zero_or_pos places with rfl | hplace
    · exact hless (Nat.one_le_iff_ne_zero.mpr hn)
    · have hfewer := (Nat.length_toDigits_le_iff (by decide) hplace).mpr (Nat.not_le.mp hless)
      omega
  rw [hplaces, Nat.cast_succ, add_sub_cancel_right]
  constructor
  · rw [zpow_natCast]
    exact_mod_cast hlow
  · exact_mod_cast hhigh

/-- The bound has 309 digits. -/
theorem leastTooLarge_le_ten_zpow : (leastTooLarge : ℚ) ≤ 10 ^ ((400 : Nat) : ℤ) := by
  have hle : leastTooLarge ≤ tenTo 400 := by decide +kernel
  rw [← tenTo_cast]
  exact Nat.cast_le.mpr hle

theorem one_le_leastTooLarge : (1 : ℚ) ≤ leastTooLarge := Nat.one_le_cast.mpr leastTooLarge_pos

/-- **The decimals that are too large for a double.** -/
theorem isFinite_ofScaled_iff (negative : Bool) (n : Nat) (e : ℤ) :
    isFinite (ofScaled negative n e) = true ↔ (n * 10 ^ e : ℚ) < leastTooLarge := by
  have hpositive := zero_lt_one.trans_le one_le_leastTooLarge
  unfold ofScaled
  simp only
  by_cases hn : n = 0
  · rw [if_pos hn, isFinite_nearest_iff negative one_ne_zero, hn, Nat.cast_zero, zero_div, zero_mul]
  obtain ⟨hlow, hhigh⟩ := toDigits_bounds hn
  generalize ((Nat.toDigits 10 n).length : ℤ) = places at *
  rw [if_neg hn]
  split
  · rename_i hmany
    have hlarge : (leastTooLarge : ℚ) ≤ n * 10 ^ e := calc
      (leastTooLarge : ℚ) ≤ 10 ^ ((400 : Nat) : ℤ) := leastTooLarge_le_ten_zpow
      _ ≤ 10 ^ (places - 1 + e) := zpow_le_zpow_right₀ (by norm_num) (by omega)
      _ = 10 ^ (places - 1) * 10 ^ e := zpow_add₀ (by norm_num) _ _
      _ ≤ n * 10 ^ e := mul_le_mul_of_nonneg_right hlow (ten_zpow_pos e).le
    refine iff_of_false ?_ (not_lt.mpr hlarge)
    cases negative <;> decide +kernel
  split
  · rename_i hfew
    have hsmall : (n * 10 ^ e : ℚ) < leastTooLarge := calc
      (n * 10 ^ e : ℚ) < 10 ^ places * 10 ^ e := mul_lt_mul_of_pos_right hhigh (ten_zpow_pos e)
      _ = 10 ^ (places + e) := (zpow_add₀ (by norm_num) _ _).symm
      _ ≤ 10 ^ (0 : ℤ) := zpow_le_zpow_right₀ (by norm_num) (by omega)
      _ ≤ leastTooLarge := one_le_leastTooLarge
    rw [isFinite_nearest_iff negative one_ne_zero, Nat.cast_zero, zero_div]
    exact iff_of_true hpositive hsmall
  · cases e with
    | ofNat k =>
      dsimp only
      rw [isFinite_nearest_iff negative one_ne_zero, Nat.cast_mul, tenTo_cast, Nat.cast_one,
        div_one, Int.ofNat_eq_natCast]
    | negSucc k =>
      have hden : tenTo (k + 1) ≠ 0 := pow_ne_zero (k + 1) (by decide : (10 : Nat) ≠ 0)
      dsimp only
      rw [isFinite_nearest_iff negative hden, tenTo_cast, Int.negSucc_eq, zpow_neg, div_eq_mul_inv,
        Nat.cast_succ]

theorem ofScaled_eq_infinite_or_nearest (negative : Bool) (n : Nat) (e : ℤ) :
    ofScaled negative n e = infinite negative ∨
      ∃ num den, den ≠ 0 ∧ ofScaled negative n e = nearest negative num den := by
  unfold ofScaled
  simp only
  split
  · exact Or.inr ⟨0, 1, one_ne_zero, rfl⟩
  split
  · exact Or.inl rfl
  split
  · exact Or.inr ⟨0, 1, one_ne_zero, rfl⟩
  cases e with
  | ofNat k => exact Or.inr ⟨n * tenTo k, 1, one_ne_zero, rfl⟩
  | negSucc k =>
    exact Or.inr ⟨n, tenTo (k + 1), pow_ne_zero (k + 1) (by decide : (10 : Nat) ≠ 0), rfl⟩

/-- A decimal that is too large is read as the infinity of its sign. -/
theorem ofScaled_eq_infinite (negative : Bool) (n : Nat) (e : ℤ)
    (h : isFinite (ofScaled negative n e) = false) : ofScaled negative n e = infinite negative := by
  rcases ofScaled_eq_infinite_or_nearest negative n e with heq | ⟨num, den, hden, heq⟩
  · exact heq
  · rw [heq] at h ⊢
    exact nearest_eq_infinite negative hden h

end ChatFlow.Decimal
