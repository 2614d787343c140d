import Mathlib
import ChatFlow.Proofs.Condition.Numeral
import ChatFlow.Proofs.Decimal.Magnitude

/-!
# Texts that are read as no finite number

People also type what is no finite number: the words for NaN and the infinities in any spelling, and
decimals that are too large.  These are all such texts (`unbounded_iff`), and those of them that have no
minus in front, the word for NaN apart, are read as the positive infinity (`endless_iff`).
-/

namespace ChatFlow.Decimal

open Script (UnsignedDecimal readUnsigned?_eq_some_iff)

/-- The characters of a number that people type: no blanks around, no underscores, digits of ASCII. -/
def typed? (s : String) : Option (List Char) :=
  dropUnderscores ' ' (asciiDigits (Text.stripChars s.toList))

/-- The word for NaN, in any spelling. -/
def NotANumber (s : List Char) : Prop := s.map Char.toLower = "nan".toList

/-- The words for an infinity, in any spelling. -/
def InfinityWord (s : List Char) : Prop :=
  s.map Char.toLower = "inf".toList ∨ s.map Char.toLower = "infinity".toList

/-- What stands after the sign of an infinity: a word for it, or a decimal that is too large for a
double. -/
inductive Limitless (s : List Char) : Prop
  | word (h : InfinityWord s)
  | decimal {n : Nat} {e : ℤ} (h : UnsignedDecimal s n e) (hlarge : leastTooLarge ≤ (n * 10 ^ e : ℚ))

/-- A text that is read as no finite number. -/
def Unbounded (s : String) : Prop :=
  ∃ t, typed? s = some t ∧ (NotANumber (splitSign t).2 ∨ Limitless (splitSign t).2)

/-- A text that is read as the positive infinity. -/
def Endless (s : String) : Prop :=
  ∃ t, typed? s = some t ∧ (splitSign t).1 = false ∧ Limitless (splitSign t).2

variable {negative : Bool} {s : List Char} {n : Nat} {e : ℤ} {x : Float}

theorem isFinite_ofScaled_eq_false_iff :
    isFinite (ofScaled negative n e) = false ↔ leastTooLarge ≤ (n * 10 ^ e : ℚ) := by
  rw [← not_lt, ← isFinite_ofScaled_iff negative, Bool.not_eq_true]

/-! ### What stands after the sign -/

/-- The value of what stands after the sign, as it is read. -/
inductive Reads (negative : Bool) (s : List Char) : Float → Prop
  | notANumber (h : NotANumber s) : Reads negative s nan
  | word (hnan : ¬ NotANumber s) (h : InfinityWord s) : Reads negative s (infinite negative)
  | decimal {n : Nat} {e : ℤ} (hnan : ¬ NotANumber s) (hword : ¬ InfinityWord s)
      (h : UnsignedDecimal s n e) : Reads negative s (ofScaled negative n e)

theorem infinityWord_iff :
    (s.map Char.toLower = "inf".toList || s.map Char.toLower = "infinity".toList) = true ↔
      InfinityWord s := by
  rw [Bool.or_eq_true, decide_eq_true_iff, decide_eq_true_iff, InfinityWord]

theorem reads_of_readNumber? {t : List Char} (h : readNumber? t = some x) :
    Reads (splitSign t).1 (splitSign t).2 x := by
  unfold readNumber? at h
  simp only at h
  split at h
  · rename_i hnan
    obtain rfl := Option.some.inj h
    exact .notANumber hnan
  · rename_i hnan
    split at h
    · rename_i hword
      obtain rfl := Option.some.inj h
      exact .word hnan (infinityWord_iff.mp hword)
    · rename_i hword
      obtain ⟨n, e, hdecimal, rfl⟩ := readUnsigned?_eq_some_iff.mp h
      exact .decimal hnan (mt infinityWord_iff.mpr hword) hdecimal

/-- The value of a decimal does not depend on how it is taken apart. -/
theorem ofScaled_congr {m : Nat} {f : ℤ} (h : UnsignedDecimal s n e) (h' : UnsignedDecimal s m f) :
    ofScaled negative n e = ofScaled negative m f := by
  have hread : readUnsigned? negative s = some (ofScaled negative n e) :=
    readUnsigned?_eq_some_iff.mpr ⟨n, e, h, rfl⟩
  have hread' : readUnsigned? negative s = some (ofScaled negative m f) :=
    readUnsigned?_eq_some_iff.mpr ⟨m, f, h', rfl⟩
  exact Option.some.inj (hread.symm.trans hread')

theorem isFinite_ofScaled_eq_false_iff_limitless (negative : Bool) (hword : ¬ InfinityWord s)
    (h : UnsignedDecimal s n e) : isFinite (ofScaled negative n e) = false ↔ Limitless s := by
  constructor
  · intro hinfinite
    exact .decimal h (isFinite_ofScaled_eq_false_iff.mp hinfinite)
  · intro hlimitless
    cases hlimitless with
    | word h => exact absurd h hword
    | decimal h' hlarge =>
      rw [ofScaled_congr h h']
      exact isFinite_ofScaled_eq_false_iff.mpr hlarge

theorem not_limitless_of_notANumber (h : NotANumber s) : ¬ Limitless s := by
  intro hlimitless
  cases hlimitless with
  | word hword =>
    have h : s.map Char.toLower = "nan".toList := h
    rw [InfinityWord, h] at hword
    revert hword
    decide
  | decimal hdecimal =>
    have hread : readUnsigned? false s = some (ofScaled false _ _) :=
      readUnsigned?_eq_some_iff.mpr ⟨_, _, hdecimal, rfl⟩
    rw [Script.readUnsigned?_nan h] at hread
    cases hread

theorem Reads.isFinite_eq_false_iff (h : Reads negative s x) :
    isFinite x = false ↔ NotANumber s ∨ Limitless s := by
  cases h with
  | notANumber h => exact iff_of_true rfl (Or.inl h)
  | word hnan h => exact iff_of_true (isFinite_infinite negative) (Or.inr (.word h))
  | decimal hnan hword h =>
    rw [or_iff_right hnan]
    exact isFinite_ofScaled_eq_false_iff_limitless negative hword h

theorem Reads.eq_infinite_iff (h : Reads negative s x) :
    x = infinite false ↔ negative = false ∧ Limitless s := by
  cases h with
  | notANumber h =>
    refine iff_of_false (fun heq => ?_) fun hlimitless => not_limitless_of_notANumber h hlimitless.2
    have hbits : nan.toBits = (infinite false).toBits := congrArg Float.toBits heq
    revert hbits
    decide +kernel
  | word hnan h => rw [infinite_eq_iff, and_iff_left (Limitless.word h)]
  | decimal hnan hword h =>
    rw [← isFinite_ofScaled_eq_false_iff_limitless negative hword h]
    constructor
    · intro heq
      have hinfinite : isFinite (ofScaled negative _ _) = false := heq ▸ isFinite_infinite false
      exact ⟨infinite_eq_iff.mp ((ofScaled_eq_infinite negative _ _ hinfinite).symm.trans heq), hinfinite⟩
    · rintro ⟨rfl, hinfinite⟩
      exact ofScaled_eq_infinite false _ _ hinfinite

theorem exists_readNumber? {t : List Char}
    (h : NotANumber (splitSign t).2 ∨ Limitless (splitSign t).2) : ∃ x, readNumber? t = some x := by
  unfold readNumber?
  simp only
  split
  · exact ⟨_, rfl⟩
  · rename_i hnan
    split
    · exact ⟨_, rfl⟩
    · rename_i hword
      cases h.resolve_left hnan with
      | word h => exact absurd (infinityWord_iff.mpr h) hword
      | decimal h => exact ⟨_, readUnsigned?_eq_some_iff.mpr ⟨_, _, h, rfl⟩⟩

/-! ### Texts -/

theorem exists_reads {s : String} (h : readFloat? s = some x) :
    ∃ t, typed? s = some t ∧ Reads (splitSign t).1 (splitSign t).2 x := by
  obtain ⟨t, ht, hx⟩ := Option.bind_eq_some_iff.mp h
  exact ⟨t, ht, reads_of_readNumber? hx⟩

theorem Unbounded.exists_readFloat? {s : String} (h : Unbounded s) : ∃ x, readFloat? s = some x := by
  obtain ⟨t, ht, h⟩ := h
  obtain ⟨x, hx⟩ := exists_readNumber? h
  exact ⟨x, Option.bind_eq_some_iff.mpr ⟨t, ht, hx⟩⟩

theorem isFinite_eq_false_iff_unbounded {s : String} (h : readFloat? s = some x) :
    isFinite x = false ↔ Unbounded s := by
  obtain ⟨t, ht, hx⟩ := exists_reads h
  rw [hx.isFinite_eq_false_iff, Unbounded, ht]
  simp

/-- **The texts that are read as no finite number.** -/
theorem unbounded_iff (s : String) : Unbounded s ↔ ∃ x, readFloat? s = some x ∧ isFinite x = false := by
  constructor
  · intro h
    obtain ⟨x, hx⟩ := h.exists_readFloat?
    exact ⟨x, hx, (isFinite_eq_false_iff_unbounded hx).mpr h⟩
  · rintro ⟨x, hx, hinfinite⟩
    exact (isFinite_eq_false_iff_unbounded hx).mp hinfinite

/-- **The texts that are read as the positive infinity.** -/
theorem endless_iff (s : String) : Endless s ↔ readFloat? s = some (infinite false) := by
  constructor
  · rintro ⟨t, ht, hsign, hlimitless⟩
    obtain ⟨x, hx⟩ := exists_readNumber? (Or.inr hlimitless)
    obtain rfl := (reads_of_readNumber? hx).eq_infinite_iff.mpr ⟨hsign, hlimitless⟩
    exact Option.bind_eq_some_iff.mpr ⟨t, ht, hx⟩
  · intro h
    obtain ⟨t, ht, hx⟩ := exists_reads h
    exact ⟨t, ht, hx.eq_infinite_iff.mp rfl⟩

end ChatFlow.Decimal
