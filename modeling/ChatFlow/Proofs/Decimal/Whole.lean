import Mathlib
import ChatFlow.Decimal.Binary
import ChatFlow.Proofs.Value.Shown

/-!
# Whole numbers as doubles

Every whole number up to a bound is close to a double, and all beyond are too large for
one.  The bound lies in the middle between the greatest double, `2 ^ 1024 - 2 ^ 971`, and
the next power of two, and a tie goes to the latter: so it is too large itself
(`ofInt?_eq_none_iff`).

A double is made of 64 bits: a sign, eleven bits of an exponent and 52 of a mantissa.  The
bits with the greatest exponent and a mantissa other than zero all stand for NaN, which is
kept in one form only.  All other bits are kept as they are (`toBits_ofBits`).
-/

namespace ChatFlow.Decimal

section

/-! ### Bits -/

open Float.Model (Format)
open Float.Model.UnpackedFloat (isNaNBits pack_unpack unpackMantissa unpackExponent)

/-- The bits of a double. -/
abbrev Bits := BitVec Format.binary64.numBits

theorem toNat_unpackMantissa (b : Bits) : (unpackMantissa b).toNat = b.toNat % 2 ^ 52 := by
  simp [unpackMantissa, BitVec.extractLsb_toNat]

theorem toNat_unpackExponent (b : Bits) :
    (unpackExponent b).toNat = b.toNat / 2 ^ 52 % 2 ^ 11 := by
  simp [unpackExponent, BitVec.extractLsb_toNat, Nat.shiftRight_eq_div_pow]

/-- Bits that do not have both the greatest exponent and a mantissa are not those of NaN. -/
theorem isNaNBits_eq_false {b : Bits}
    (h : b.toNat / 2 ^ 52 % 2 ^ 11 ≠ 2047 ∨ b.toNat % 2 ^ 52 = 0) : isNaNBits b = false := by
  refine decide_eq_false ?_
  rintro ⟨hexponent, hmantissa⟩
  rcases h with hfield | hfraction
  · refine hfield ?_
    rw [← toNat_unpackExponent, hexponent]
    rfl
  · refine hmantissa (BitVec.eq_of_toNat_eq ?_)
    rw [toNat_unpackMantissa, hfraction]
    rfl

/-- A double made of bits has these bits, unless they are those of NaN. -/
theorem toBits_ofBits {n : Nat} (hn : n < 2 ^ 64) (h : n / 2 ^ 52 % 2 ^ 11 ≠ 2047 ∨ n % 2 ^ 52 = 0) :
    (Float.ofBits (UInt64.ofNat n)).toBits.toNat = n := by
  have hlt : (UInt64.ofNat n).toBitVec.toNat = n := by
    change n % 2 ^ 64 = n
    exact Nat.mod_eq_of_lt hn
  have hnan : @isNaNBits Format.binary64 (UInt64.ofNat n).toBitVec = false :=
    isNaNBits_eq_false (by rwa [hlt])
  have hpack := @pack_unpack Format.binary64 (UInt64.ofNat n).toBitVec (by decide)
  rw [hnan, if_neg Bool.false_ne_true] at hpack
  exact (congrArg BitVec.toNat hpack).trans hlt

/-- A finite double is read off the two parts of its bits without the sign. -/
theorem decode?_ofBits (negative : Bool) {k : Nat} (hk : k ≤ 2047 * 2 ^ 52) :
    decode? (Float.ofBits (UInt64.ofNat ((if negative then twoTo 63 else 0) + k))) =
      if k / 2 ^ 52 = 2047 then none
      else if k / 2 ^ 52 = 0 then some ⟨negative, k % 2 ^ 52, -1074⟩
      else some ⟨negative, 2 ^ 52 + k % 2 ^ 52, (k / 2 ^ 52 : Nat) - 1075⟩ := by
  have hsign : (if negative then twoTo 63 else 0) = (if negative then 1 else 0) * 2 ^ 63 := by
    cases negative <;> rfl
  have hone : (if negative then 1 else 0 : Nat) ≤ 1 := by
    cases negative <;> decide
  rw [hsign]
  have hbits : (Float.ofBits (UInt64.ofNat ((if negative then 1 else 0) * 2 ^ 63 + k))).toBits.toNat =
      (if negative then 1 else 0) * 2 ^ 63 + k := toBits_ofBits (by omega) (by omega)
  have hfield : ((if negative then 1 else 0) * 2 ^ 63 + k) / twoTo 52 % twoTo 11 = k / 2 ^ 52 := by
    change ((if negative then 1 else 0) * 2 ^ 63 + k) / 2 ^ 52 % 2 ^ 11 = k / 2 ^ 52
    omega
  have hfraction : ((if negative then 1 else 0) * 2 ^ 63 + k) % twoTo 52 = k % 2 ^ 52 := by
    change ((if negative then 1 else 0) * 2 ^ 63 + k) % 2 ^ 52 = k % 2 ^ 52
    omega
  have hnegative : (((if negative then 1 else 0) * 2 ^ 63 + k) / twoTo 63 == 1) = negative := by
    change (((if negative then 1 else 0) * 2 ^ 63 + k) / 2 ^ 63 == 1) = negative
    cases negative
    · exact beq_false_of_ne (by simp; omega)
    · exact beq_iff_eq.mpr (by simp; omega)
  unfold decode?
  simp only [hbits, hfield, hfraction, hnegative]
  rfl

end

/-! ### The bound -/

/-- The least whole number that is too large for a double. -/
def leastTooLarge : Nat := twoTo 1024 - twoTo 970

/-! ### Rounding a quotient -/

variable {num den c : Nat}

theorem div_le_roundDiv (num den : Nat) : num / den ≤ roundDiv num den := by
  unfold roundDiv
  simp only
  split
  · exact Nat.le_refl _
  · split
    · omega
    · split <;> omega

theorem roundDiv_le (num den : Nat) : roundDiv num den ≤ num / den + 1 := by
  unfold roundDiv
  simp only
  split
  · omega
  · split
    · omega
    · split <;> omega

theorem roundDiv_one (num : Nat) : roundDiv num 1 = num := by
  unfold roundDiv
  simp [Nat.mod_one]

/-- Rounding comes to an even number from half a unit below it on. -/
theorem le_roundDiv_iff (hden : 0 < den) (hc : c % 2 = 0) :
    c ≤ roundDiv num den ↔ 2 * (c * den) ≤ 2 * num + den := by
  have hparts := Nat.div_add_mod num den
  have hrest := Nat.mod_lt num hden
  have hlow := div_le_roundDiv num den
  have hhigh := roundDiv_le num den
  rcases Nat.lt_trichotomy c (num / den + 1) with hlt | heq | hgt
  · have hmul : c * den ≤ den * (num / den) := by
      rw [Nat.mul_comm den]
      exact Nat.mul_le_mul_right den (by omega)
    omega
  · have hmul : c * den = den * (num / den) + den := by
      rw [heq, Nat.mul_comm, Nat.mul_succ]
    unfold roundDiv
    simp only
    split
    · omega
    · split
      · omega
      · split <;> omega
  · have hmul : den * (num / den) + 2 * den ≤ c * den := by
      rw [Nat.mul_comm den (num / den), ← Nat.add_mul]
      exact Nat.mul_le_mul_right den (by omega)
    omega

/-! ### The double nearest to a whole number -/

/-- The last binary place of the double nearest to a whole number. -/
theorem lastPlace_one (hnum : num ≠ 0) : lastPlace num 1 = (num.log2 : Int) - 52 := by
  have hguess : (num.log2 : Int) - (Nat.log2 1 : Nat) = Int.ofNat num.log2 := by
    rw [show Nat.log2 1 = 0 by decide]
    exact Int.sub_zero _
  have hle : ¬ num < 1 * twoTo num.log2 := by
    rw [Nat.one_mul, Nat.not_lt]
    exact Nat.log2_self_le hnum
  unfold lastPlace
  simp only [hguess, if_neg hle, Int.ofNat_eq_natCast]
  omega

/-- The digits of the double nearest to a whole number: all of the number's own, and zeros behind them
as far as there is room, or else what is left when the last ones have been rounded away. -/
def wholeMantissa (num : Nat) : Nat :=
  if num.log2 ≤ 52 then num * twoTo (52 - num.log2) else roundDiv num (twoTo (num.log2 - 52))

theorem scaledRound_one (hnum : num ≠ 0) :
    scaledRound num 1 (lastPlace num 1) = wholeMantissa num := by
  rw [lastPlace_one hnum]
  unfold wholeMantissa
  by_cases hlog : num.log2 < 52
  · have hplace : (num.log2 : Int) - 52 = Int.negSucc (51 - num.log2) := by omega
    rw [if_pos (Nat.le_of_lt hlog), hplace]
    change roundDiv (num * twoTo (51 - num.log2 + 1)) 1 = _
    rw [roundDiv_one, show 51 - num.log2 + 1 = 52 - num.log2 by omega]
  · have hplace : (num.log2 : Int) - 52 = Int.ofNat (num.log2 - 52) := by
      rw [Int.ofNat_eq_natCast]
      omega
    rw [hplace]
    change roundDiv num (1 * twoTo (num.log2 - 52)) = _
    rw [Nat.one_mul]
    split
    · rw [show num.log2 = 52 by omega]
      change roundDiv num 1 = num * 1
      rw [roundDiv_one, Nat.mul_one]
    · rfl

theorem twoTo_add (j k : Nat) : twoTo (j + k) = 2 ^ j * twoTo k := Nat.pow_add 2 j k

theorem wholeMantissa_of_small (hlog : num.log2 ≤ 52) :
    wholeMantissa num = num * 2 ^ (52 - num.log2) := if_pos hlog

theorem wholeMantissa_of_large (hlog : 52 < num.log2) :
    wholeMantissa num = roundDiv num (twoTo (num.log2 - 52)) := if_neg (Nat.not_le.mpr hlog)

theorem wholeMantissa_lt_of_small (hlog : num.log2 ≤ 52) : wholeMantissa num < 2 ^ 53 := by
  have hpow : 2 ^ (num.log2 + 1) * 2 ^ (52 - num.log2) = 2 ^ 53 := by
    rw [← Nat.pow_add]
    congr 1
    omega
  rw [wholeMantissa_of_small hlog, ← hpow]
  exact Nat.mul_lt_mul_of_pos_right Nat.lt_log2_self (Nat.two_pow_pos _)

theorem le_wholeMantissa (hnum : num ≠ 0) : 2 ^ 52 ≤ wholeMantissa num := by
  have hlow := Nat.log2_self_le hnum
  by_cases hlog : num.log2 ≤ 52
  · have hpow : 2 ^ num.log2 * 2 ^ (52 - num.log2) = 2 ^ 52 := by
      rw [← Nat.pow_add]
      congr 1
      omega
    rw [wholeMantissa_of_small hlog, ← hpow]
    exact Nat.mul_le_mul_right _ hlow
  · have hpow : 2 ^ 52 * twoTo (num.log2 - 52) = 2 ^ num.log2 := by
      rw [← twoTo_add, show 52 + (num.log2 - 52) = num.log2 by omega]
      rfl
    rw [wholeMantissa_of_large (Nat.not_le.mp hlog)]
    refine Nat.le_trans ?_ (div_le_roundDiv num _)
    rw [Nat.le_div_iff_mul_le (twoTo_pos _), hpow]
    exact hlow

theorem wholeMantissa_le (num : Nat) : wholeMantissa num ≤ 2 ^ 53 := by
  by_cases hlog : num.log2 ≤ 52
  · exact Nat.le_of_lt (wholeMantissa_lt_of_small hlog)
  · have hpow : 2 ^ 53 * twoTo (num.log2 - 52) = 2 ^ (num.log2 + 1) := by
      rw [← twoTo_add, show 53 + (num.log2 - 52) = num.log2 + 1 by omega]
      rfl
    have hquotient : num / twoTo (num.log2 - 52) < 2 ^ 53 := by
      rw [Nat.div_lt_iff_lt_mul (twoTo_pos _), hpow]
      exact Nat.lt_log2_self
    rw [wholeMantissa_of_large (Nat.not_le.mp hlog)]
    exact Nat.le_trans (roundDiv_le num _) hquotient

/-- The bits of the double nearest to a whole number, the sign apart, if there were room for any
exponent. -/
def wholeBits (num : Nat) : Nat := (num.log2 + 1022) * 2 ^ 52 + wholeMantissa num

theorem nearest_one (negative : Bool) (hnum : num ≠ 0) :
    nearest negative num 1 = Float.ofBits (UInt64.ofNat
      ((if negative then twoTo 63 else 0) + min (wholeBits num) (2047 * 2 ^ 52))) := by
  have hplace : ((num.log2 : Int) - 52 + 1074).toNat = num.log2 + 1022 := by omega
  unfold nearest
  simp only [if_neg hnum, scaledRound_one hnum]
  rw [lastPlace_one hnum, hplace]
  rfl

/-- There is no room if the number has more than 1024 binary digits, or 1024 of which the first 53
round up to one more. -/
theorem le_wholeBits_iff (hnum : num ≠ 0) :
    2047 * 2 ^ 52 ≤ wholeBits num ↔
      1024 ≤ num.log2 ∨ num.log2 = 1023 ∧ wholeMantissa num = 2 ^ 53 := by
  have hlow := le_wholeMantissa hnum
  have hhigh := wholeMantissa_le num
  unfold wholeBits
  omega

theorem twoTo_le_iff (hnum : num ≠ 0) (k : Nat) : twoTo k ≤ num ↔ k ≤ num.log2 :=
  (Nat.le_log2 hnum).symm

theorem leastTooLarge_pos : 0 < leastTooLarge := by
  have h1024 : twoTo 1024 = 2 ^ 54 * twoTo 970 := twoTo_add 54 970
  have hunit := twoTo_pos 970
  unfold leastTooLarge
  omega

theorem leastTooLarge_le_iff (hnum : num ≠ 0) :
    leastTooLarge ≤ num ↔ 2047 * 2 ^ 52 ≤ wholeBits num := by
  -- half of the last place of a double with 1024 binary digits is the unit of all these bounds
  have h971 : twoTo 971 = 2 ^ 1 * twoTo 970 := twoTo_add 1 970
  have h1023 : twoTo 1023 = 2 ^ 53 * twoTo 970 := twoTo_add 53 970
  have h1024 : twoTo 1024 = 2 ^ 54 * twoTo 970 := twoTo_add 54 970
  have hunit := twoTo_pos 970
  have hle1023 := twoTo_le_iff hnum 1023
  have hle1024 := twoTo_le_iff hnum 1024
  have hhigh := wholeMantissa_le num
  rw [le_wholeBits_iff hnum, leastTooLarge]
  by_cases hlog : num.log2 = 1023
  · have hmantissa : wholeMantissa num = roundDiv num (twoTo 971) := by
      rw [wholeMantissa_of_large (by omega), hlog]
    have hround : 2 ^ 53 ≤ roundDiv num (twoTo 971) ↔
        2 * (2 ^ 53 * twoTo 971) ≤ 2 * num + twoTo 971 :=
      le_roundDiv_iff (twoTo_pos 971) (by decide)
    rw [← hmantissa] at hround
    omega
  · omega

/-- The exact value of the double nearest to a whole number, if there is one. -/
theorem decode?_nearest_one (negative : Bool) (hnum : num ≠ 0) (h : wholeBits num < 2047 * 2 ^ 52) :
    decode? (nearest negative num 1) = some ⟨negative, 2 ^ 52 + wholeBits num % 2 ^ 52,
      (wholeBits num / 2 ^ 52 : Nat) - 1075⟩ := by
  have hlow := le_wholeMantissa hnum
  have hpositive : wholeBits num / 2 ^ 52 ≠ 0 := by
    unfold wholeBits
    omega
  rw [nearest_one negative hnum, Nat.min_eq_left (Nat.le_of_lt h),
    decode?_ofBits negative (Nat.le_of_lt h), if_neg (by omega), if_neg hpositive]

theorem isSome_decode?_nearest_one (negative : Bool) (num : Nat) :
    (decode? (nearest negative num 1)).isSome = true ↔ num < leastTooLarge := by
  by_cases hnum : num = 0
  · subst hnum
    simp only [leastTooLarge_pos, iff_true]
    cases negative <;> decide +kernel
  · by_cases h : wholeBits num < 2047 * 2 ^ 52
    · simp only [decode?_nearest_one negative hnum h, Option.isSome_some, true_iff]
      exact Nat.not_le.mp (mt (leastTooLarge_le_iff hnum).mp (Nat.not_le.mpr h))
    · have hlarge := (leastTooLarge_le_iff hnum).mpr (Nat.not_lt.mp h)
      rw [nearest_one negative hnum, Nat.min_eq_right (Nat.not_lt.mp h),
        decode?_ofBits negative (Nat.le_refl _)]
      simpa using hlarge

/-- **The whole numbers that are too large for a double.** -/
theorem ofInt?_eq_none_iff (n : Int) : ofInt? n = none ↔ leastTooLarge ≤ n.natAbs := by
  have hsome := isSome_decode?_nearest_one (n < 0) n.natAbs
  unfold ofInt?
  simp only
  split
  · rename_i h
    simpa using hsome.mp h
  · rename_i h
    simpa using mt hsome.mpr h

end ChatFlow.Decimal
