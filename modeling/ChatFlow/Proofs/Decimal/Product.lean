import Mathlib
import ChatFlow.Proofs.Decimal.Magnitude
import ChatFlow.Proofs.Decimal.Order
import ChatFlow.Proofs.Decimal.Spelling

/-!
# Products of doubles

The product of two doubles is their exact product, rounded.  So it is finite exactly if the exact
product is not too large for a double (`isFinite_mul_iff`), and a positive factor leaves the sign of
the other one as it is, also where the product is infinite (`pos_and_not_isFinite_mul_iff`).

Rounding drops binary digits one by one and remembers of them what it takes to round
(`shiftRight_eq`); what comes out is `roundDiv` (`roundedMantissa_shiftRight`), and at most one digit
is carried (`roundWithAccuracy_eq`).
-/

namespace ChatFlow.Decimal

open Float.Model (Format UnpackedFloat totalExponent)
open Float.Model.UnpackedFloat

/-! ### Dropping digits -/

/-- What is left of a mantissa, and what is remembered of the `k` digits dropped: whether they are
half a unit at least, and whether they are something else than nothing or half a unit. -/
theorem shiftRight_eq (m k : Nat) : ExtendedMantissa.ofMantissaAndAccuracy m .exact >>> k =
    ⟨m / 2 ^ k, decide (2 ^ k ≤ 2 * (m % 2 ^ k)),
      decide (m % 2 ^ k ≠ 0 ∧ 2 * (m % 2 ^ k) ≠ 2 ^ k)⟩ := by
  induction k with
  | zero =>
    change ExtendedMantissa.mk m false false = _
    simp [Nat.mod_one]
  | succ k ih =>
    change ExtendedMantissa.shiftRightOne (ExtendedMantissa.ofMantissaAndAccuracy m .exact >>> k) = _
    have hrest := Nat.mod_lt m (Nat.two_pow_pos k)
    have hdigits : m % 2 ^ (k + 1) = m % 2 ^ k + 2 ^ k * (m / 2 ^ k % 2) := Nat.mod_pow_succ
    have hpow : 2 ^ (k + 1) = 2 * 2 ^ k := Nat.pow_succ'
    rw [ih, ExtendedMantissa.shiftRightOne, ExtendedMantissa.mk.injEq]
    refine ⟨by rw [Nat.div_div_eq_div_mul, hpow, Nat.mul_comm], ?_, ?_⟩
    · rcases Nat.mod_two_eq_zero_or_one (m / 2 ^ k) with hdigit | hdigit
      · rw [hdigit, Nat.mul_zero, Nat.add_zero] at hdigits
        rw [hdigits, hdigit, hpow]
        exact (decide_eq_false (by omega)).symm
      · rw [hdigit, Nat.mul_one] at hdigits
        rw [hdigits, hdigit, hpow]
        exact (decide_eq_true (by omega)).symm
    · rw [← Bool.decide_or]
      refine decide_eq_decide.mpr ?_
      rcases Nat.mod_two_eq_zero_or_one (m / 2 ^ k) with hdigit | hdigit
      · rw [hdigit, Nat.mul_zero, Nat.add_zero] at hdigits
        rw [hdigits, hpow]
        omega
      · rw [hdigit, Nat.mul_one] at hdigits
        rw [hdigits, hpow]
        omega

/-- Rounding after digits have been dropped is rounding a quotient. -/
theorem roundedMantissa_shiftRight (m k : Nat) :
    (ExtendedMantissa.ofMantissaAndAccuracy m .exact >>> k).roundedMantissa = roundDiv m (2 ^ k) := by
  have hunit := Nat.two_pow_pos k
  rw [shiftRight_eq, ExtendedMantissa.roundedMantissa, roundDiv]
  simp only
  rcases Nat.lt_trichotomy (2 * (m % 2 ^ k)) (2 ^ k) with hless | hhalf | hmore
  · rw [decide_eq_false (Nat.not_le.mpr hless), if_pos hless]
    by_cases hnone : m % 2 ^ k = 0
    · rw [decide_eq_false (by omega)]
      rfl
    · rw [decide_eq_true (by omega)]
      rfl
  · rw [decide_eq_true hhalf.ge, decide_eq_false (by omega), if_neg (by omega), if_neg (by omega)]
    change m / 2 ^ k + m / 2 ^ k % 2 = _
    split <;> omega
  · rw [decide_eq_true hmore.le, decide_eq_true (by omega), if_neg (by omega), if_pos hmore]
    rfl

/-! ### Rounding a mantissa -/

/-- The exponent of the last place that a double near `m · 2 ^ e` has. -/
def placeOf (m : Nat) (e : ℤ) : ℤ := max (m.log2 + e - 52) (-1074)

theorem targetExponent_eq (m : Nat) (e : ℤ) :
    Format.binary64.targetExponent (totalExponent m e) = placeOf m e := by
  change max ((m.log2 : ℤ) + 1 + e - 53) (-1074) = _
  unfold placeOf
  omega

theorem le_placeOf {m : Nat} {e : ℤ} (h : 2 ^ 52 ≤ m) : e ≤ placeOf m e := by
  have hlog : 52 ≤ m.log2 := (Nat.le_log2 (by omega)).mpr h
  unfold placeOf
  omega

/-- What the digits above the last place come to, rounded. -/
def roundedAt (m : Nat) (e : ℤ) : Nat := roundDiv m (2 ^ (placeOf m e - e).toNat)

theorem roundedAt_le (m : Nat) (e : ℤ) : roundedAt m e ≤ 2 ^ 53 := by
  have hquotient : m / 2 ^ (placeOf m e - e).toNat < 2 ^ 53 := by
    rw [Nat.div_lt_iff_lt_mul (Nat.two_pow_pos _), ← Nat.pow_add]
    refine Nat.lt_log2_self.trans_le (Nat.pow_le_pow_right (by decide) ?_)
    unfold placeOf
    omega
  exact (roundDiv_le m _).trans hquotient

theorem shiftToTargetExponent_of_lt {r : Nat} {e : ℤ} (hr : r < 2 ^ 53) (he : -1074 ≤ e) :
    shiftToTargetExponent Format.binary64 r e .exact = (⟨r, false, false⟩, e) := by
  have hlog : r.log2 ≤ 52 := by
    by_cases hzero : r = 0
    · rw [hzero]
      decide
    · have := (Nat.log2_lt hzero).mpr hr
      omega
  have hnone : (placeOf r e - e).toNat = 0 := by
    unfold placeOf
    omega
  rw [shiftToTargetExponent, targetExponent_eq, shiftToExponent, hnone, shiftRight_eq]
  simp [Nat.mod_one]

/-- One more digit is dropped after a carry. -/
theorem shiftToTargetExponent_carried {e : ℤ} (he : -1074 ≤ e) :
    shiftToTargetExponent Format.binary64 (2 ^ 53) e .exact = (⟨2 ^ 52, false, false⟩, e + 1) := by
  have hone : (placeOf (2 ^ 53) e - e).toNat = 1 := by
    unfold placeOf
    rw [Nat.log2_two_pow]
    omega
  rw [shiftToTargetExponent, targetExponent_eq, shiftToExponent, hone, shiftRight_eq]
  rfl

theorem roundWithAccuracy_eq (s : Sign) (m : Nat) (e : ℤ) :
    roundWithAccuracy Format.binary64 s m e .exact =
      if h : roundedAt m e = 0 then .zero s
      else if roundedAt m e < 2 ^ 53 then
        .finite s (roundedAt m e) (e + (placeOf m e - e).toNat) (Nat.pos_of_ne_zero h)
      else .finite s (2 ^ 52) (e + (placeOf m e - e).toNat + 1) (by decide) := by
  have hplace : -1074 ≤ e + (placeOf m e - e).toNat := by
    unfold placeOf
    omega
  have hfirst : shiftToTargetExponent Format.binary64 m e .exact =
      (ExtendedMantissa.ofMantissaAndAccuracy m .exact >>> (placeOf m e - e).toNat,
        e + (placeOf m e - e).toNat) := by
    rw [shiftToTargetExponent, targetExponent_eq]
    rfl
  have hrounded : (ExtendedMantissa.ofMantissaAndAccuracy m .exact >>>
      (placeOf m e - e).toNat).roundedMantissa = roundedAt m e := roundedMantissa_shiftRight m _
  have hle := roundedAt_le m e
  by_cases hless : roundedAt m e < 2 ^ 53
  · have hsecond := shiftToTargetExponent_of_lt hless hplace
    simp only [roundWithAccuracy, hfirst, hrounded, hsecond, hless, if_true]
  · have hcarry : roundedAt m e = 2 ^ 53 := by omega
    have hsecond := shiftToTargetExponent_carried hplace
    simp only [roundWithAccuracy, hfirst, hrounded, hcarry, hsecond]
    rfl

/-! ### Finite doubles -/

/-- The number that a double is, the sign apart. -/
def Dyadic.magnitude (d : Dyadic) : ℚ := d.mantissa * 2 ^ d.exponent

/-- A whole number with all its binary places behind the point. -/
theorem Dyadic.magnitude_places (negative : Bool) (n k : Nat) :
    (⟨negative, n * 2 ^ k, -(k : ℤ)⟩ : Dyadic).magnitude = n := by
  rw [magnitude, zpow_neg, zpow_natCast, Nat.cast_mul, Nat.cast_pow, Nat.cast_ofNat,
    mul_inv_cancel_right₀ (pow_ne_zero k two_ne_zero)]

variable {x y : Float} {d d' : Dyadic}

/-- The sign of a number. -/
def signOf (negative : Bool) : Sign := if negative then .negative else .positive

theorem signOf_eq_iff {negative : Bool} : signOf negative = .positive ↔ negative = false := by
  cases negative
  · exact iff_of_true rfl rfl
  · refine iff_of_false (fun h => ?_) (by decide)
    cases h

theorem ofBitVec_unpackSign (b : Bits) :
    Sign.ofBitVec (unpackSign b) = signOf (b.toNat / twoTo 63 == 1) := by
  have hbound : b.toNat / twoTo 63 < 2 := Nat.div_lt_of_lt_mul b.isLt
  have hsign : (unpackSign b).toNat = b.toNat / twoTo 63 := by
    rw [unpackSign, BitVec.toNat_cast, BitVec.extractLsb_toNat, Nat.shiftRight_eq_div_pow]
    exact Nat.mod_eq_of_lt hbound
  have hzero : unpackSign b = 0#1 ↔ b.toNat / twoTo 63 = 0 := by
    rw [← hsign]
    exact BitVec.toNat_eq
  rw [Sign.ofBitVec, signOf]
  rcases Nat.lt_succ_iff_lt_or_eq.mp hbound with hless | hone
  · rw [if_pos (hzero.mpr (by omega)), if_neg (by simp; omega)]
  · rw [if_neg (mt hzero.mp (by omega)), if_pos (by simp [hone])]

theorem toNat_implicit (m : BitVec 52) : (1#1 ++ m).toNat = 2 ^ 52 + m.toNat := by
  rw [BitVec.toNat_append, ← Nat.shiftLeft_add_eq_or_of_lt m.isLt]
  rfl

/-- A finite double as it is unpacked. -/
theorem unpack_of_decode? (h : decode? x = some d) : x.toModel.unpack =
    if hm : d.mantissa = 0 then .zero (signOf d.negative)
    else .finite (signOf d.negative) d.mantissa d.exponent (Nat.pos_of_ne_zero hm) := by
  obtain ⟨b, hb⟩ : ∃ b : Bits, b = x.toBits.toBitVec := ⟨_, rfl⟩
  have hnat : x.toBits.toNat = b.toNat := congrArg BitVec.toNat hb.symm
  have hunpack : x.toModel.unpack = UnpackedFloat.unpack Format.binary64 b := by rw [hb]; rfl
  have hexponent : (unpackExponent b).toNat = b.toNat / twoTo 52 % twoTo 11 := toNat_unpackExponent b
  have hmantissa : (unpackMantissa b).toNat = b.toNat % twoTo 52 := toNat_unpackMantissa b
  unfold decode? at h
  simp only [hnat, ← hexponent, ← hmantissa] at h
  rw [hunpack, UnpackedFloat.unpack]
  simp only [ofBitVec_unpackSign]
  split at h
  · cases h
  · rename_i hlarge
    have hfull : ¬ unpackExponent b = -1#11 := fun hfull => hlarge (congrArg BitVec.toNat hfull)
    rw [if_neg hfull]
    split at h
    · rename_i hsmall
      obtain rfl := Option.some.inj h
      rw [if_pos (BitVec.eq_of_toNat_eq hsmall)]
      dsimp only
      have hzero : (unpackMantissa b).toNat = 0 ↔ unpackMantissa b = 0#52 :=
        ⟨fun h => BitVec.eq_of_toNat_eq h, congrArg BitVec.toNat⟩
      by_cases hnone : unpackMantissa b = 0#52
      · rw [dif_pos hnone, dif_pos (hzero.mpr hnone)]
      · rw [dif_neg hnone, dif_neg (mt hzero.mp hnone)]
        congr 1
        rw [hsmall]
        rfl
    · rename_i hnormal
      obtain rfl := Option.some.inj h
      have hzero : ¬ unpackExponent b = 0#11 := fun hzero => hnormal (congrArg BitVec.toNat hzero)
      rw [if_neg hzero, dif_neg (Nat.add_pos_left (twoTo_pos 52) _).ne']
      simp only [toNat_implicit]
      rfl

/-- A double is finite unless it has the greatest exponent. -/
theorem isFinite_iff_unpackExponent (x : Float) :
    isFinite x = true ↔ @unpackExponent Format.binary64 x.toBits.toBitVec ≠ -1#11 := by
  obtain ⟨b, hb⟩ : ∃ b : Bits, b = x.toBits.toBitVec := ⟨_, rfl⟩
  have hnat : x.toBits.toNat = b.toNat := congrArg BitVec.toNat hb.symm
  have hexponent : (unpackExponent b).toNat = b.toNat / twoTo 52 % twoTo 11 := toNat_unpackExponent b
  have hfull : (unpackExponent b).toNat = 2047 ↔ unpackExponent b = -1#11 :=
    ⟨fun h => BitVec.eq_of_toNat_eq h, congrArg BitVec.toNat⟩
  rw [← hb, isFinite, decode?]
  simp only [hnat, ← hexponent]
  split
  · rename_i h
    exact iff_of_false Bool.false_ne_true (not_not_intro (hfull.mp h))
  · rename_i h
    refine iff_of_true ?_ (mt hfull.mpr h)
    split <;> rfl

theorem isFinite_pack_zero (s : Sign) : isFinite ⟨Float.Model.pack (.zero s)⟩ = true := by
  cases s <;> decide +kernel

/-- The double made of a mantissa and an exponent is finite if there is room for the exponent. -/
theorem isFinite_pack_finite (s : Sign) (m : Nat) (e : ℤ) (hm : 0 < m) :
    isFinite ⟨Float.Model.pack (.finite s m e hm)⟩ = true ↔ e ≤ 971 := by
  have hbits : (Float.toBits ⟨Float.Model.pack (.finite s m e hm)⟩).toBitVec =
      UnpackedFloat.pack Format.binary64 (.finite s m e hm) := rfl
  rw [isFinite_iff_unpackExponent, hbits, UnpackedFloat.pack]
  simp only
  change _ ↔ e ≤ 971
  split
  · rename_i hroom
    change 2 ^ 11 ≤ (e + 1023 + 52).toNat + 1 at hroom
    rw [packedInfinity, unpackExponent_packComponents]
    exact iff_of_false (not_not_intro rfl) (by omega)
  · rename_i hroom
    change ¬ 2 ^ 11 ≤ (e + 1023 + 52).toNat + 1 at hroom
    split
    · rw [unpackExponent_packComponents]
      refine iff_of_true (fun hfull => ?_) (by omega)
      have hnat : (e + 1023 + 52).toNat % 2 ^ 11 = 2047 := congrArg BitVec.toNat hfull
      omega
    · rw [unpackExponent_packComponents]
      exact iff_of_true (by decide) (by omega)

/-! ### Rounding finite numbers -/

/-- A mantissa with more digits than a double has is rounded at the last place. -/
theorem rounded_placeOf {m : Nat} {e : ℤ} (hm : m ≠ 0) (he : e ≤ placeOf m e) :
    Rounded (m * 2 ^ e) (placeOf m e) (roundedAt m e) where
  place := by
    refine ⟨m.log2 + e, rfl, ?_, ?_⟩
    · rw [two_zpow_add]
      exact mul_le_mul_of_nonneg_right (two_zpow_log2_le hm) (two_zpow_pos e).le
    · rw [show (m.log2 : ℤ) + e + 1 = m.log2 + 1 + e by ring, two_zpow_add]
      exact mul_lt_mul_of_pos_right (lt_two_zpow_log2 m) (two_zpow_pos e)
  reaches c hc := by
    have hshift : placeOf m e = (placeOf m e - e).toNat + e := by omega
    have hpow : ((2 ^ (placeOf m e - e).toNat : Nat) : ℚ) = 2 ^ ((placeOf m e - e).toNat : ℤ) := by
      rw [zpow_natCast]
      exact Nat.cast_pow 2 _
    rw [roundedAt, le_roundDiv_iff_cast (Nat.two_pow_pos _).ne' hc, hpow,
      le_div_iff₀ (two_zpow_pos _), hshift, two_zpow_add, ← mul_assoc]
    simp only [← hshift]
    exact (mul_le_mul_iff_of_pos_right (two_zpow_pos e)).symm

/-- Rounding comes to a finite double if the number is not too large. -/
theorem isFinite_round_iff (s : Sign) {m : Nat} {e : ℤ} (hm : m ≠ 0)
    (hdigits : e ≤ placeOf m e ∨ e ≤ 971) :
    isFinite ⟨Float.Model.pack (roundWithAccuracy Format.binary64 s m e .exact)⟩ = true ↔
      (m * 2 ^ e : ℚ) < leastTooLarge := by
  have hle := roundedAt_le m e
  rw [roundWithAccuracy_eq]
  by_cases he : e ≤ placeOf m e
  · have hrounded := rounded_placeOf hm he
    have hplace : e + ((placeOf m e - e).toNat : ℤ) = placeOf m e := by omega
    have hleast : -1074 ≤ placeOf m e := le_max_right _ _
    have hnormal := hrounded.normal.imp_right And.right
    have hvalue : (m * 2 ^ e : ℚ) < leastTooLarge ↔
        ¬ 2047 * 2 ^ 52 ≤ (placeOf m e + 1074).toNat * 2 ^ 52 + roundedAt m e := by
      rw [hrounded.le_bits_iff, not_le]
    rw [hvalue]
    simp only [hplace]
    split
    · refine iff_of_true ?_ (by omega)
      cases s <;> decide +kernel
    · split <;> rw [isFinite_pack_finite] <;> omega
  · -- the mantissa has fewer digits than a double, and is kept
    have hkept : (placeOf m e - e).toNat = 0 := by omega
    have hfew : (m.log2 : ℤ) + 1 ≤ 52 := by
      unfold placeOf at he
      omega
    have hrounded : roundedAt m e = m := by rw [roundedAt, hkept, Nat.pow_zero, roundDiv_one]
    have hsmall : (m * 2 ^ e : ℚ) < leastTooLarge := calc
      (m * 2 ^ e : ℚ) < 2 ^ ((m.log2 : ℤ) + 1) * 2 ^ e :=
        mul_lt_mul_of_pos_right (lt_two_zpow_log2 m) (two_zpow_pos e)
      _ = 2 ^ ((m.log2 : ℤ) + 1 + e) := (two_zpow_add _ e).symm
      _ ≤ 2 ^ (52 + (971 : ℤ)) := two_zpow_le (by omega)
      _ = 2 ^ 52 * 2 ^ (971 : ℤ) := two_zpow_add 52 971
      _ ≤ leastTooLarge := by
        rw [leastTooLarge_cast]
        exact mul_le_mul_of_nonneg_right (by norm_num) (two_zpow_pos 971).le
    have hless : m < 2 ^ 53 := by
      refine (Nat.log2_lt hm).mp ?_
      omega
    simp only [hrounded, hkept, hm, hless, dif_neg, if_true, Nat.cast_zero, add_zero, not_false_eq_true]
    rw [isFinite_pack_finite]
    exact iff_of_true (hdigits.resolve_left he) hsmall

/-! ### The product -/

theorem isFinite_mul_iff (h : decode? x = some d) (h' : decode? y = some d') :
    isFinite (x * y) = true ↔ d.magnitude * d'.magnitude < leastTooLarge := by
  have hmul : x * y = ⟨Float.Model.pack
      (UnpackedFloat.mul Format.binary64 x.toModel.unpack y.toModel.unpack)⟩ := rfl
  have hexact : d.magnitude * d'.magnitude =
      (d.mantissa * d'.mantissa : Nat) * 2 ^ (d.exponent + d'.exponent) := by
    rw [Dyadic.magnitude, Dyadic.magnitude, two_zpow_add, Nat.cast_mul, mul_mul_mul_comm]
  rw [hmul, unpack_of_decode? h, unpack_of_decode? h', hexact]
  by_cases hzero : d.mantissa * d'.mantissa = 0
  · have hproduct : ∃ s, UnpackedFloat.mul Format.binary64
        (if hm : d.mantissa = 0 then .zero (signOf d.negative)
          else .finite (signOf d.negative) d.mantissa d.exponent (Nat.pos_of_ne_zero hm))
        (if hm : d'.mantissa = 0 then .zero (signOf d'.negative)
          else .finite (signOf d'.negative) d'.mantissa d'.exponent (Nat.pos_of_ne_zero hm)) =
        .zero s := by
      rcases Nat.mul_eq_zero.mp hzero with hm | hm
      · rw [dif_pos hm]
        split <;> exact ⟨_, rfl⟩
      · rw [dif_pos hm]
        split <;> exact ⟨_, rfl⟩
    obtain ⟨s, hs⟩ := hproduct
    rw [hs, hzero, Nat.cast_zero, zero_mul]
    exact iff_of_true (isFinite_pack_zero s) (Nat.cast_pos.mpr leastTooLarge_pos)
  · obtain ⟨hm, hm'⟩ := not_or.mp (mt Nat.mul_eq_zero.mpr hzero)
    rw [dif_neg hm, dif_neg hm']
    refine isFinite_round_iff _ hzero ?_
    -- a factor with all its binary places fills those of the product
    rcases le_mantissa_of_decode? h with he | hlarge
    · rcases le_mantissa_of_decode? h' with he' | hlarge'
      · exact Or.inr (by omega)
      · exact Or.inl (le_placeOf (hlarge'.trans (Nat.le_mul_of_pos_left _ (Nat.pos_of_ne_zero hm))))
    · exact Or.inl (le_placeOf (hlarge.trans (Nat.le_mul_of_pos_right _ (Nat.pos_of_ne_zero hm'))))

/-! ### Signs -/

/-- The sign of what is not NaN. -/
def sign? : UnpackedFloat → Option Sign
  | .notANumber => none
  | .infinity s => some s
  | .zero s => some s
  | .finite s _ _ _ => some s

theorem sign?_of_decode? (h : decode? x = some d) :
    sign? x.toModel.unpack = some (signOf d.negative) := by
  rw [unpack_of_decode? h]
  split <;> rfl

theorem sign?_unpack {f : Format} (b : BitVec f.numBits)
    (h : unpackExponent b ≠ -1#f.exponentBits ∨
      unpackMantissa b = 0#f.mantissaBitsWithoutImplicit) :
    sign? (UnpackedFloat.unpack f b) = some (Sign.ofBitVec (unpackSign b)) := by
  rw [UnpackedFloat.unpack]
  split
  · rename_i hfull
    rw [if_pos (h.resolve_left (not_not_intro hfull))]
    rfl
  · split
    · split <;> rfl
    · rfl

theorem sign?_unpack_packComponents {f : Format} (s : Sign) (e : BitVec f.exponentBits)
    (m : BitVec f.mantissaBitsWithoutImplicit)
    (h : e ≠ -1#f.exponentBits ∨ m = 0#f.mantissaBitsWithoutImplicit) :
    sign? (UnpackedFloat.unpack f (packComponents f s e m)) = some s := by
  rw [sign?_unpack, unpackSign_packComponents, Sign.ofBitVec_toBitVec]
  rwa [unpackExponent_packComponents, unpackMantissa_packComponents]

/-- A double keeps the sign of what it is made of. -/
theorem sign?_unpack_pack (u : UnpackedFloat) :
    sign? (UnpackedFloat.unpack Format.binary64 (UnpackedFloat.pack Format.binary64 u)) =
      sign? u := by
  cases u with
  | notANumber => rfl
  | infinity t => exact sign?_unpack_packComponents t _ _ (Or.inr rfl)
  | zero t => exact sign?_unpack_packComponents t _ _ (Or.inr rfl)
  | finite t m e hm =>
    rw [UnpackedFloat.pack]
    dsimp only
    split
    · exact sign?_unpack_packComponents t _ _ (Or.inr rfl)
    · rename_i hroom
      change ¬ 2 ^ 11 ≤ (e + 1023 + 52).toNat + 1 at hroom
      split
      · refine sign?_unpack_packComponents t _ _ (Or.inl fun hfull => ?_)
        have hnat : (e + 1023 + 52).toNat % 2 ^ 11 = 2047 := congrArg BitVec.toNat hfull
        omega
      · exact sign?_unpack_packComponents t _ _ (Or.inl (by decide))

/-- Rounding keeps the sign. -/
theorem sign?_round (s : Sign) (m : Nat) (e : ℤ) :
    sign? (roundWithAccuracy Format.binary64 s m e .exact) = some s := by
  rw [roundWithAccuracy_eq]
  split
  · rfl
  · split <;> rfl

/-- A positive factor leaves the sign as it is. -/
theorem sign?_mul_finite (u : UnpackedFloat) (m : Nat) (e : ℤ) (hm : 0 < m) :
    sign? (UnpackedFloat.mul Format.binary64 u (.finite .positive m e hm)) = sign? u := by
  cases u with
  | notANumber => rfl
  | infinity s => cases s <;> rfl
  | zero s => cases s <;> rfl
  | finite s n f hn => cases s <;> exact sign?_round _ _ _

/-! ### Products that are no numbers -/

theorem unpack_infinite (negative : Bool) :
    (infinite negative).toModel.unpack = .infinity (signOf negative) := by
  cases negative <;> rfl

theorem toBits_infinite (negative : Bool) : (infinite negative).toBits.toBitVec =
    UnpackedFloat.pack Format.binary64 (.infinity (signOf negative)) := by
  cases negative <;> rfl

theorem eq_of_toBits (h : x.toBits.toBitVec = y.toBits.toBitVec) : x = y := by
  obtain ⟨b, hb⟩ := x
  obtain ⟨c, hc⟩ := y
  obtain rfl : b = c := UInt64.toBitVec_inj.mp h
  rfl

/-- What is not finite is NaN or one of the infinities. -/
theorem unpack_of_isFinite_eq_false (h : isFinite x = false) :
    x.toModel.unpack = .notANumber ∨ ∃ negative, x = infinite negative := by
  have hunpack : x.toModel.unpack = UnpackedFloat.unpack Format.binary64 x.toBits.toBitVec := rfl
  have hfull : @unpackExponent Format.binary64 x.toBits.toBitVec = -1#11 := by
    by_contra hfull
    exact Bool.false_ne_true (h.symm.trans ((isFinite_iff_unpackExponent x).mpr hfull))
  by_cases hnone : @unpackMantissa Format.binary64 x.toBits.toBitVec = 0#52
  · right
    have hnan : @isNaNBits Format.binary64 x.toBits.toBitVec = false :=
      decide_eq_false fun hnan => hnan.2 hnone
    have hpack := @pack_unpack Format.binary64 x.toBits.toBitVec (by decide)
    rw [hnan, if_neg Bool.false_ne_true, UnpackedFloat.unpack, if_pos hfull, if_pos hnone,
      ofBitVec_unpackSign] at hpack
    exact ⟨_, eq_of_toBits (hpack.symm.trans (toBits_infinite _).symm)⟩
  · left
    rw [hunpack, UnpackedFloat.unpack, if_pos hfull, if_neg hnone]

/-- Of what is not finite, only the infinity of the positive sign is more than nothing. -/
theorem pos_iff_of_isFinite_eq_false (h : isFinite x = false) :
    0 < x ↔ sign? x.toModel.unpack = some .positive := by
  have horder : order 0 x = UnpackedFloat.compare (.zero .positive) x.toModel.unpack := rfl
  rw [lt_iff, horder]
  rcases unpack_of_isFinite_eq_false h with hnan | ⟨negative, rfl⟩
  · rw [hnan]
    refine iff_of_false (fun h => ?_) (fun h => ?_) <;> cases h
  · rw [unpack_infinite]
    cases negative
    · exact iff_of_true rfl rfl
    · refine iff_of_false (fun h => ?_) (fun h => ?_) <;> cases h

section PositiveFactor

variable {m : Nat} {e : ℤ} {hm : 0 < m} (hy : y.toModel.unpack = .finite .positive m e hm)
include hy

/-- The product has the sign of the other factor. -/
theorem sign?_mul : sign? (x * y).toModel.unpack = sign? x.toModel.unpack := by
  change sign? (UnpackedFloat.unpack Format.binary64 (UnpackedFloat.pack Format.binary64
    (UnpackedFloat.mul Format.binary64 x.toModel.unpack y.toModel.unpack))) = _
  rw [hy, sign?_unpack_pack, sign?_mul_finite]

theorem infinite_mul (negative : Bool) : infinite negative * y = infinite negative := by
  refine eq_of_toBits ?_
  change UnpackedFloat.pack Format.binary64
    (UnpackedFloat.mul Format.binary64 _ y.toModel.unpack) = _
  rw [hy, unpack_infinite, toBits_infinite]
  cases negative <;> rfl

end PositiveFactor

theorem unpack_of_positive (h : decode? y = some d) (hpositive : d.negative = false)
    (hm : d.mantissa ≠ 0) :
    y.toModel.unpack = .finite .positive d.mantissa d.exponent (Nat.pos_of_ne_zero hm) := by
  rw [unpack_of_decode? h, dif_neg hm, hpositive]
  rfl

/-- The products with a positive number that are the positive infinity. -/
theorem pos_and_not_isFinite_mul_iff (h' : decode? y = some d') (hpositive : d'.negative = false)
    (hm : d'.mantissa ≠ 0) :
    0 < x * y ∧ isFinite (x * y) = false ↔ x = infinite false ∨
      ∃ d, decode? x = some d ∧ d.negative = false ∧
        leastTooLarge ≤ d.magnitude * d'.magnitude := by
  have hy := unpack_of_positive h' hpositive hm
  have hsplit : 0 < x * y ∧ isFinite (x * y) = false ↔
      sign? x.toModel.unpack = some .positive ∧ isFinite (x * y) = false := by
    rw [and_congr_left_iff, ← sign?_mul hy]
    exact pos_iff_of_isFinite_eq_false
  rw [hsplit]
  cases hx : decode? x with
  | some d =>
    have hlarge : isFinite (x * y) = false ↔ leastTooLarge ≤ d.magnitude * d'.magnitude := by
      rw [← not_lt, ← isFinite_mul_iff hx h', Bool.not_eq_true]
    rw [sign?_of_decode? hx, Option.some_inj, signOf_eq_iff, hlarge]
    constructor
    · intro h
      exact Or.inr ⟨d, rfl, h⟩
    · rintro (rfl | ⟨e, he, h⟩)
      · cases hx
      · rwa [Option.some.inj he]
  | none =>
    have hinfinite : isFinite x = false := by
      rw [isFinite, hx]
      rfl
    rcases unpack_of_isFinite_eq_false hinfinite with hnan | ⟨negative, rfl⟩
    · rw [hnan]
      refine iff_of_false ?_ ?_
      · rintro ⟨hsign, -⟩
        cases hsign
      · rintro (rfl | ⟨d, hd, -⟩)
        · cases hnan
        · cases hd
    · rw [infinite_mul hy, unpack_infinite, infinite_eq_iff]
      constructor
      · rintro ⟨hsign, -⟩
        exact Or.inl (signOf_eq_iff.mp (Option.some.inj hsign))
      · rintro (rfl | ⟨d, hd, -⟩)
        · exact ⟨rfl, rfl⟩
        · cases hd

end ChatFlow.Decimal
