import ChatFlow.Proofs.Decimal.Whole

/-!
# How doubles are spelled

The digits of a double are those of its shortest decimal, whatever the layout; the layout only
places them.  A whole number that is smaller than `2 ^ 53` is the only whole number in its
rounding interval (`holds_iff`), so the shortest decimal is the number itself, and a layout
with room for it writes the digits of the number (`write_whole`).  Other doubles are
written alike by layouts that agree to write them with a point (`write_congr`).
-/

namespace ChatFlow.Decimal

variable {m k c N : Nat} {x : Float} {d : Dyadic} {n : Int} {l l' : Layout}

/-! ### Whole numbers in a rounding interval -/

/-- The rounding interval of a double with `k` binary places, in quarters of the last one. -/
theorem roundingInterval_places (m k : Nat) : ∃ below, 1 ≤ below ∧ below ≤ 2 ∧
    roundingInterval m (-k) = ⟨4 * m - below, 4 * m, 4 * m + 2, 4 * 2 ^ k, m % 2 = 0⟩ := by
  refine ⟨if m = twoTo 52 ∧ (-k : Int) ≠ -1074 then 1 else 2, by split <;> decide, by split <;> decide, ?_⟩
  unfold roundingInterval
  cases k with
  | zero =>
    change Interval.mk _ _ _ _ _ = _
    simp [twoTo]
  | succ k =>
    rw [show (-(k + 1 : Nat) : Int) = .negSucc k from rfl]
    simp [twoTo]

/-- A double with binary places has no whole number in its rounding interval but itself. -/
theorem holds_iff : (roundingInterval m (-k)).holds c 1 = true ↔ c * 2 ^ k = m := by
  obtain ⟨below, hpos, hbelow, hinterval⟩ := roundingInterval_places m k
  rw [hinterval, Interval.holds]
  have hscale : c * (4 * 2 ^ k) = 4 * (c * 2 ^ k) := Nat.mul_left_comm c 4 (2 ^ k)
  simp only [Nat.mul_one, hscale]
  generalize c * 2 ^ k = product
  by_cases heven : m % 2 = 0
  · simp only [heven, decide_true, if_true, Bool.and_eq_true, decide_eq_true_iff]
    omega
  · simp only [heven, decide_false, Bool.false_eq_true, if_false, Bool.and_eq_true,
      decide_eq_true_iff]
    omega

/-! ### The shortest decimal of a whole number -/

theorem scale_of_gridPoint? {i : Interval} {place : Int} {s : Scaled}
    (h : gridPoint? i place = some s) : s.scale = place := by
  unfold gridPoint? at h
  simp only at h
  split at h
  · cases h
  · exact (congrArg Scaled.scale (Option.some.inj h)).symm
  · exact (congrArg Scaled.scale (Option.some.inj h)).symm
  · split at h
    · exact (congrArg Scaled.scale (Option.some.inj h)).symm
    · split at h
      · exact (congrArg Scaled.scale (Option.some.inj h)).symm
      · split at h <;> exact (congrArg Scaled.scale (Option.some.inj h)).symm

/-- On a grid with a point in the interval right below the value there is a hit. -/
theorem gridPoint?_ne_none {i : Interval} {place : Int}
    (h : i.holds (i.value * (tenPower place).2 / (i.den * (tenPower place).1) * (tenPower place).1)
      (tenPower place).2 = true) : gridPoint? i place ≠ none := by
  unfold gridPoint?
  simp only
  rw [h]
  split
  · rename_i hinside _
    cases hinside
  · exact Option.some_ne_none _
  · exact Option.some_ne_none _
  · split
    · exact Option.some_ne_none _
    · split
      · exact Option.some_ne_none _
      · split <;> exact Option.some_ne_none _

/-- A search through the numbers from zero on finds the first hit. -/
theorem exists_of_findSome?_range {α : Type} {f : Nat → Option α} {bound : Nat} {a : α}
    (h : (List.range bound).findSome? f = some a) :
    ∃ i < bound, f i = some a ∧ ∀ j < i, f j = none := by
  induction bound with
  | zero => cases h
  | succ bound ih =>
    rw [List.range_succ, List.findSome?_append] at h
    cases hs : (List.range bound).findSome? f with
    | some b =>
      rw [hs] at h
      obtain ⟨i, hi, hrest⟩ := ih (hs.trans h)
      exact ⟨i, Nat.lt_succ_of_lt hi, hrest⟩
    | none =>
      rw [hs] at h
      refine ⟨bound, Nat.lt_succ_self bound, ?_, fun j hj => ?_⟩
      · simpa using h
      · exact List.findSome?_eq_none_iff.mp hs j (List.mem_range.mpr hj)

/-- A decimal without places behind the point that lies in the interval is the double itself. -/
theorem whole_of_gridPoint? {j : Nat} {s : Scaled}
    (h : gridPoint? (roundingInterval m (-k)) j = some s) :
    s = ⟨s.coefficient, j⟩ ∧ s.coefficient * 10 ^ j * 2 ^ k = m :=
  ⟨congrArg (Scaled.mk s.coefficient) (scale_of_gridPoint? h), holds_iff.mp (gridPoint?_holds h)⟩

section

variable (hpos : 0 < N) (hm : m = N * 2 ^ k)

include hm in
theorem value_div_den : (roundingInterval m (-k)).value / (roundingInterval m (-k)).den = N := by
  obtain ⟨below, -, -, hinterval⟩ := roundingInterval_places m k
  have hunit : 0 < 4 * 2 ^ k := Nat.mul_pos (by decide) (Nat.two_pow_pos k)
  rw [hinterval, hm, Nat.mul_left_comm, Nat.mul_div_cancel _ hunit]

include hm in
/-- A whole number lies on the grid of the whole numbers. -/
theorem gridPoint?_units : gridPoint? (roundingInterval m (-k)) 0 ≠ none := by
  refine gridPoint?_ne_none ?_
  change Interval.holds _ (_ * 1 / (_ * 1) * 1) 1 = true
  rw [Nat.mul_one, Nat.mul_one, Nat.mul_one, holds_iff, value_div_den hm, hm]

include hpos hm in
theorem leadingPlace_whole :
    leadingPlace (roundingInterval m (-k)).value (roundingInterval m (-k)).den 400 =
      ((natChars N).length - 1 : Nat) := by
  have hdiv := value_div_den hm
  have hle : (roundingInterval m (-k)).den ≤ (roundingInterval m (-k)).value := by
    refine Nat.le_of_not_lt fun hlt => ?_
    rw [Nat.div_eq_of_lt hlt] at hdiv
    omega
  have hlength : 0 < (natChars N).length := Nat.length_toDigits_pos
  rw [leadingPlace, if_pos hle, hdiv, digitCount, if_neg (by omega)]
  change ((natChars N).length : Int) - 1 = _
  omega

include hpos hm in
/-- The shortest decimal of a whole number is the number, perhaps without zeros at its end. -/
theorem shortest_whole (hsmall : N < 2 ^ 53) :
    ∃ c j : Nat, shortest m (-k) = ⟨c, j⟩ ∧ c * 10 ^ j = N := by
  have hlength : (natChars N).length ≤ 17 :=
    (Nat.length_toDigits_le_iff (by decide) (by decide)).mpr (by omega)
  have hlength' : 0 < (natChars N).length := Nat.length_toDigits_pos
  have hunits : gridPoint? (roundingInterval m (-k))
      (((natChars N).length - 1 : Nat) - ((natChars N).length - 1 : Nat)) ≠ none := by
    rw [Int.sub_self]
    exact gridPoint?_units hm
  unfold shortest
  simp only
  rw [leadingPlace_whole hpos hm]
  cases hs : (List.range 17).findSome? fun (i : Nat) =>
      gridPoint? (roundingInterval m (-k)) (((natChars N).length - 1 : Nat) - i) with
  | none =>
    have hnone := List.findSome?_eq_none_iff.mp hs ((natChars N).length - 1)
      (List.mem_range.mpr (by omega))
    exact absurd hnone hunits
  | some s =>
    obtain ⟨i, -, hi, hbefore⟩ := exists_of_findSome?_range hs
    -- the search does not go beyond the grid of the whole numbers, on which the number itself lies
    have hfirst : i ≤ (natChars N).length - 1 :=
      Nat.le_of_not_lt fun hlate => hunits (hbefore _ hlate)
    rw [← Int.ofNat_sub hfirst] at hi
    obtain ⟨hscale, hwhole⟩ := whole_of_gridPoint? hi
    rw [hm] at hwhole
    exact ⟨s.coefficient, _, hscale, Nat.eq_of_mul_eq_mul_right (Nat.two_pow_pos k) hwhole⟩

end

/-! ### Digits with zeros at their end -/

theorem exists_zeros (ds : List Char) : ∃ z, ds = dropEndZeros ds ++ List.replicate z '0' := by
  induction ds with
  | nil => exact ⟨0, rfl⟩
  | cons digit rest ih =>
    obtain ⟨z, hz⟩ := ih
    unfold dropEndZeros
    split
    · rename_i hnil
      rw [hnil, List.nil_append] at hz
      split
      · rename_i hzero
        exact ⟨z + 1, by rw [hzero, hz]; rfl⟩
      · exact ⟨z, by rw [hz]; rfl⟩
    · exact ⟨z, congrArg (digit :: ·) hz⟩

theorem intChars_eq (n : Int) :
    intChars n = if n < 0 then '-' :: natChars n.natAbs else natChars n.natAbs := by
  cases n with
  | ofNat n => exact (if_neg (Int.not_lt.mpr (Int.natCast_nonneg n))).symm
  | negSucc n => exact (if_pos (Int.negSucc_lt_zero n)).symm

theorem natChars_mul (hc : 0 < c) (j : Nat) :
    natChars (c * 10 ^ j) = natChars c ++ List.replicate j '0' := by
  induction j with
  | zero => simp
  | succ j ih =>
    have hpos : 0 < c * 10 ^ j := Nat.mul_pos hc (Nat.pow_pos (by decide))
    have hdigit := Nat.toDigits_append_toDigits (b := 10) (by decide) hpos (by decide : 0 < 10)
    rw [show c * 10 ^ (j + 1) = 10 * (c * 10 ^ j) + 0 by rw [Nat.pow_succ, ← Nat.mul_assoc]; omega,
      natChars, ← hdigit, List.replicate_succ', ← List.append_assoc, ← ih]
    rfl

/-- Digits that all stand before the point, in a layout that keeps no zero behind it. -/
theorem placeDigits_whole {ds : List Char} {e : Nat} (hleast : l.leastPlain ≤ 0)
    (hgreatest : e ≤ l.greatestPlain) (hzero : l.keepZero = false) (hds : ds.length ≤ e + 1) :
    placeDigits l ds e = ds ++ List.replicate (e + 1 - ds.length) '0' := by
  have hplain : l.leastPlain ≤ (e : Int) ∧ (e : Int) ≤ l.greatestPlain := ⟨by omega, hgreatest⟩
  unfold placeDigits
  rw [if_pos hplain]
  simp [List.drop_eq_nil_of_le hds, List.take_of_length_le hds, hzero]

/-! ### Written forms -/

/-- The digits of the shortest decimal of a double. -/
def Dyadic.digits (d : Dyadic) : List Char := natChars (shortest d.mantissa d.exponent).coefficient

/-- The place of the first of these digits. -/
def Dyadic.place (d : Dyadic) : Int :=
  (shortest d.mantissa d.exponent).scale + d.digits.length - 1

theorem write_eq (l : Layout) (hd : decode? x = some d) (hm : d.mantissa ≠ 0) :
    write l x = if d.negative then '-' :: placeDigits l (dropEndZeros d.digits) d.place
      else placeDigits l (dropEndZeros d.digits) d.place := by
  unfold write
  rw [hd]
  simp only [if_neg hm]
  rfl

/-- All binary places of the mantissa are used, except by the smallest doubles. -/
theorem le_mantissa_of_decode? (hd : decode? x = some d) :
    d.exponent = -1074 ∨ 2 ^ 52 ≤ d.mantissa := by
  unfold decode? at hd
  simp only at hd
  split at hd
  · cases hd
  · split at hd
    · obtain rfl := Option.some.inj hd
      exact Or.inl rfl
    · obtain rfl := Option.some.inj hd
      exact Or.inr (Nat.le_add_right _ _)

/-- A double that is a whole number smaller than `2 ^ 53` has all its binary places behind the point. -/
theorem exists_places_of_toInt? (hd : decode? x = some d) (hn : toInt? x = some n)
    (hsmall : n.natAbs < 2 ^ 53) : ∃ k : Nat, d.exponent = -k ∧ d.mantissa = n.natAbs * 2 ^ k ∧
      n = if d.negative then -(n.natAbs : Int) else n.natAbs := by
  have hsign (magnitude : Nat) (h : (if d.negative then -(magnitude : Int) else magnitude) = n) :
      magnitude = n.natAbs ∧ n = if d.negative then -(n.natAbs : Int) else n.natAbs := by
    have hmagnitude : magnitude = n.natAbs := by
      rw [← h]
      split <;> omega
    exact ⟨hmagnitude, by rw [← hmagnitude, h]⟩
  unfold toInt? at hn
  rw [hd, Option.bind_some] at hn
  simp only [Option.map_eq_some_iff, Option.bind_eq_bind, Option.bind_eq_some_iff, Option.pure_def,
    Option.some.injEq] at hn
  obtain ⟨-, ⟨magnitude, hmagnitude, rfl⟩, hvalue⟩ := hn
  obtain ⟨rfl, hn⟩ := hsign magnitude hvalue
  split at hmagnitude
  · rename_i j hexponent
    have hmul := Option.some.inj hmagnitude
    cases j with
    | zero =>
      refine ⟨0, hexponent, ?_, hn⟩
      rw [← hmul, show twoTo 0 = 1 from rfl, Nat.pow_zero, Nat.mul_one, Nat.mul_one]
    | succ j =>
      have hfull := (le_mantissa_of_decode? hd).resolve_left (by rw [hexponent]; exact nofun)
      have hlarge : 2 ^ 52 * 2 ≤ d.mantissa * 2 ^ (j + 1) := by
        refine Nat.mul_le_mul hfull ?_
        rw [Nat.pow_succ]
        exact Nat.le_mul_of_pos_left 2 (Nat.two_pow_pos j)
      rw [show 2 ^ (j + 1) = twoTo (j + 1) from rfl, hmul] at hlarge
      omega
  · rename_i j hexponent
    split at hmagnitude
    · rename_i hrest
      refine ⟨j + 1, hexponent, ?_, hn⟩
      rw [← Option.some.inj hmagnitude]
      exact (Nat.div_mul_cancel (Nat.dvd_of_mod_eq_zero hrest)).symm
    · cases hmagnitude

/-- The digits of the shortest decimal of a whole number are those of the number, but for zeros at the
end. -/
theorem exists_digits_whole (hd : decode? x = some d) (hm : d.mantissa ≠ 0)
    (hn : toInt? x = some n) (hsmall : n.natAbs < 2 ^ 53) :
    d.place = ((natChars n.natAbs).length - 1 : Nat) ∧
      ∃ z, natChars n.natAbs = dropEndZeros d.digits ++ List.replicate z '0' := by
  obtain ⟨k, hexponent, hmantissa, -⟩ := exists_places_of_toInt? hd hn hsmall
  have hpos : 0 < n.natAbs := by
    refine Nat.pos_of_ne_zero fun h => hm ?_
    rw [hmantissa, h, Nat.zero_mul]
  obtain ⟨c, j, hshortest, hcj⟩ := shortest_whole hpos hmantissa hsmall
  have hc : 0 < c := by
    refine Nat.pos_of_ne_zero fun h => ?_
    rw [h, Nat.zero_mul] at hcj
    omega
  have hdigits : d.digits = natChars c := by rw [Dyadic.digits, hexponent, hshortest]
  have hchars : natChars n.natAbs = natChars c ++ List.replicate j '0' := by
    rw [← hcj, natChars_mul hc]
  constructor
  · have hfirst : 0 < (natChars c).length := Nat.length_toDigits_pos
    rw [Dyadic.place, hdigits, hexponent, hshortest, hchars, List.length_append,
      List.length_replicate]
    change (j : Int) + _ - 1 = _
    omega
  · obtain ⟨z, hz⟩ := exists_zeros (natChars c)
    refine ⟨z + j, ?_⟩
    rw [hchars, hdigits, ← List.replicate_append_replicate, ← List.append_assoc, ← hz]

/-- **A whole number is written with its digits** by every layout that has room for sixteen digits before
the point and keeps no zero behind it. -/
theorem write_whole (hd : decode? x = some d) (hm : d.mantissa ≠ 0) (hn : toInt? x = some n)
    (hsmall : n.natAbs < 2 ^ 53) (hleast : l.leastPlain ≤ 0) (hgreatest : 15 ≤ l.greatestPlain)
    (hzero : l.keepZero = false) : write l x = intChars n := by
  obtain ⟨hplace, z, hz⟩ := exists_digits_whole hd hm hn hsmall
  have hlength : (natChars n.natAbs).length ≤ 16 :=
    (Nat.length_toDigits_le_iff (by decide) (by decide)).mpr (by omega)
  have hlength' : 0 < (natChars n.natAbs).length := Nat.length_toDigits_pos
  have hcount := congrArg List.length hz
  rw [List.length_append, List.length_replicate] at hcount
  have hbody : placeDigits l (dropEndZeros d.digits) d.place = natChars n.natAbs := by
    rw [hplace, placeDigits_whole hleast (by omega) hzero (by omega), hz]
    congr 2
    rw [← hz]
    omega
  have hsign : (d.negative = true ↔ n < 0) := by
    obtain ⟨k, -, hmantissa, hn⟩ := exists_places_of_toInt? hd hn hsmall
    have hne : n.natAbs ≠ 0 := fun h => hm (by rw [hmantissa, h, Nat.zero_mul])
    cases hnegative : d.negative
    · rw [hnegative, if_neg Bool.false_ne_true] at hn
      simp only [Bool.false_eq_true, false_iff]
      omega
    · rw [hnegative, if_pos rfl] at hn
      simp only [true_iff]
      omega
  rw [write_eq l hd hm, hbody, intChars_eq]
  simp only [hsign]

/-! ### The double of a whole number -/

/-- A whole number below `2 ^ 53` is a double, with binary places that are zeros. -/
theorem exists_decode?_nearest (negative : Bool) (hpos : 0 < N) (hsmall : N < 2 ^ 53) :
    ∃ k : Nat, decode? (nearest negative N 1) = some ⟨negative, N * 2 ^ k, -k⟩ := by
  have hN : N ≠ 0 := Nat.ne_of_gt hpos
  have hlog : N.log2 ≤ 52 := Nat.le_of_lt_succ ((Nat.log2_lt hN).mpr hsmall)
  have hmantissa := wholeMantissa_of_small hlog
  have hlow := le_wholeMantissa hN
  have hhigh := wholeMantissa_lt_of_small hlog
  have hbits : wholeBits N < 2047 * 2 ^ 52 := by
    unfold wholeBits
    omega
  have hfield : wholeBits N / 2 ^ 52 = N.log2 + 1023 := by
    unfold wholeBits
    omega
  have hfraction : 2 ^ 52 + wholeBits N % 2 ^ 52 = wholeMantissa N := by
    unfold wholeBits
    omega
  refine ⟨52 - N.log2, ?_⟩
  rw [decode?_nearest_one negative hN hbits, hfraction, hfield, hmantissa]
  refine congrArg (fun e => some (Dyadic.mk _ _ e)) ?_
  omega

theorem toInt?_of_places {negative : Bool} {k : Nat}
    (hd : decode? x = some ⟨negative, N * 2 ^ k, -k⟩) :
    toInt? x = some (if negative then -(N : Int) else N) := by
  unfold toInt?
  rw [hd, Option.bind_some]
  cases k with
  | zero => simp [twoTo]
  | succ k =>
    have hunit := Nat.two_pow_pos (k + 1)
    rw [show (-(k + 1 : Nat) : Int) = .negSucc k from rfl]
    simp only [twoTo, Nat.pow_eq, Nat.mul_mod_left, if_true, Nat.mul_div_cancel N hunit]
    rfl

/-! ### Doubles that are written with a point -/

/-- The shortest decimal of a double has a digit behind the point, and its first digit is not too far from
there. -/
structure Dyadic.Pointed (d : Dyadic) : Prop where
  least : -4 ≤ d.place
  greatest : d.place ≤ 15
  fraction : d.place + 1 < (dropEndZeros d.digits).length

theorem placeDigits_congr {ds : List Char} {e : Int} (h : l.leastPlain ≤ e ∧ e ≤ l.greatestPlain)
    (h' : l'.leastPlain ≤ e ∧ e ≤ l'.greatestPlain) (hds : e + 1 < ds.length) :
    placeDigits l ds e = placeDigits l' ds e := by
  unfold placeDigits
  rw [if_pos h, if_pos h']
  cases e with
  | ofNat k =>
    have hpart : ds.drop (k + 1) ≠ [] := by
      rw [ne_eq, List.drop_eq_nil_iff]
      change (k : Int) + 1 < _ at hds
      omega
    obtain ⟨digit, rest, hrest⟩ := List.exists_cons_of_ne_nil hpart
    simp only [hrest]
  | negSucc k => rfl

/-- Layouts that have room for such a double write it alike. -/
theorem write_congr (hd : decode? x = some d) (hm : d.mantissa ≠ 0) (h : d.Pointed)
    (hl : l.leastPlain ≤ -4 ∧ 15 ≤ l.greatestPlain)
    (hl' : l'.leastPlain ≤ -4 ∧ 15 ≤ l'.greatestPlain) : write l x = write l' x := by
  have hleast := h.least
  have hgreatest := h.greatest
  have hdigits : placeDigits l (dropEndZeros d.digits) d.place =
      placeDigits l' (dropEndZeros d.digits) d.place :=
    placeDigits_congr (by omega) (by omega) h.fraction
  rw [write_eq l hd hm, write_eq l' hd hm, hdigits]

end ChatFlow.Decimal
