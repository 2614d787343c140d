import ChatFlow.Value.Render

/-!
# What is shown is never empty

The displayed form of a value other than a text has a character at least, since every
number has a digit.  For doubles this is a fact about the search for the shortest
decimal: zero does not lie in the interval of the reals that round to a positive
double (`coefficient_shortest_pos`), and so its coefficient has a digit other than
zero, which `dropEndZeros` keeps.

A value that counts as present is not the empty text either (`display_ne_empty`).
-/

namespace ChatFlow

namespace Decimal

/-! ### Digits -/

theorem natChars_ne_nil (n : Nat) : natChars n ≠ [] := Nat.toDigits_ne_nil

theorem intChars_ne_nil (n : Int) : intChars n ≠ [] := by
  cases n with
  | ofNat n => exact natChars_ne_nil n
  | negSucc n => exact List.cons_ne_nil _ _

theorem ofDigitChars_zeros {ds : List Char} (h : dropEndZeros ds = []) :
    Nat.ofDigitChars 10 ds 0 = 0 := by
  induction ds with
  | nil => rfl
  | cons c rest ih =>
    unfold dropEndZeros at h
    split at h
    · rename_i hrest
      split at h
      · rename_i hc
        rw [hc, Nat.ofDigitChars_cons]
        exact ih hrest
      · cases h
    · cases h

/-- The digits of a positive number are not all zeros. -/
theorem dropEndZeros_natChars_ne_nil {n : Nat} (h : 0 < n) : dropEndZeros (natChars n) ≠ [] := by
  intro he
  have hzero := ofDigitChars_zeros he
  rw [natChars, Nat.ofDigitChars_ten_toDigits] at hzero
  omega

/-! ### The shortest decimal -/

theorem twoTo_pos (k : Nat) : 0 < twoTo k := Nat.pow_pos (by decide)

theorem tenTo_pos (k : Nat) : 0 < tenTo k := Nat.pow_pos (by decide)

theorem tenPower_den_pos (k : Int) : 0 < (tenPower k).2 := by
  cases k with
  | ofNat n => exact Nat.one_pos
  | negSucc n => exact tenTo_pos (n + 1)

/-- The reals that round to a positive double are positive. -/
theorem roundingInterval_low_pos {m : Nat} (hm : 0 < m) (q : Int) :
    0 < (roundingInterval m q).low := by
  have hbelow : (if m = twoTo 52 ∧ q ≠ -1074 then 1 else 2) ≤ 2 := by
    split <;> omega
  have hgap : 0 < 4 * m - if m = twoTo 52 ∧ q ≠ -1074 then 1 else 2 := by omega
  cases q with
  | ofNat k => exact Nat.mul_pos hgap (twoTo_pos k)
  | negSucc k => exact Nat.mul_pos hgap Nat.one_pos

theorem Interval.not_holds_zero {i : Interval} (h : 0 < i.low) {den : Nat} (hden : 0 < den) :
    i.holds 0 den = false := by
  have hlow : 0 < i.low * den := Nat.mul_pos h hden
  unfold Interval.holds
  split <;> simp <;> omega

theorem gridPoint?_holds {i : Interval} {k : Int} {s : Scaled} (h : gridPoint? i k = some s) :
    i.holds (s.coefficient * (tenPower k).1) (tenPower k).2 = true := by
  unfold gridPoint? at h
  simp only at h
  split at h
  · cases h
  · rename_i hc _
    obtain rfl := Option.some.inj h
    exact hc
  · rename_i _ hc
    obtain rfl := Option.some.inj h
    exact hc
  · rename_i hc hc'
    split at h
    · obtain rfl := Option.some.inj h
      exact hc
    · split at h
      · obtain rfl := Option.some.inj h
        exact hc'
      · split at h
        · obtain rfl := Option.some.inj h
          exact hc
        · obtain rfl := Option.some.inj h
          exact hc'

theorem coefficient_shortest_pos {m : Nat} (hm : 0 < m) (q : Int) :
    0 < (shortest m q).coefficient := by
  unfold shortest
  simp only
  cases hs : (List.range 17).findSome? fun (n : Nat) => gridPoint? (roundingInterval m q)
      (leadingPlace (roundingInterval m q).value (roundingInterval m q).den 400 - n) with
  | none => exact hm
  | some s =>
    obtain ⟨n, -, hn⟩ := List.exists_of_findSome?_eq_some hs
    have hholds := gridPoint?_holds hn
    refine Nat.pos_of_ne_zero fun hzero => ?_
    rw [Option.getD_some] at hzero
    rw [hzero, Nat.zero_mul, Interval.not_holds_zero (roundingInterval_low_pos hm q)
      (tenPower_den_pos _)] at hholds
    cases hholds

/-! ### Doubles -/

theorem placeDigits_ne_nil (l : Layout) {ds : List Char} (h : ds ≠ []) (e : Int) :
    placeDigits l ds e ≠ [] := by
  obtain ⟨d, rest, rfl⟩ := List.exists_cons_of_ne_nil h
  unfold placeDigits
  split
  · cases e with
    | ofNat k =>
      simp only [List.take_succ_cons, List.cons_append]
      split
      · split <;> exact List.cons_ne_nil _ _
      · exact List.cons_ne_nil _ _
    | negSucc k => exact List.cons_ne_nil _ _
  · cases rest <;> exact List.cons_ne_nil _ _

theorem write_plain_ne_nil (x : Float) : write plain x ≠ [] := by
  unfold write
  cases decode? x with
  | none =>
    simp only
    split
    · exact List.cons_ne_nil _ _
    · split <;> exact List.cons_ne_nil _ _
  | some d =>
    simp only
    split
    · exact List.cons_ne_nil _ _
    · split
      · exact List.cons_ne_nil _ _
      · rename_i hm
        refine placeDigits_ne_nil plain (dropEndZeros_natChars_ne_nil ?_) _
        exact coefficient_shortest_pos (Nat.pos_of_ne_zero hm) _

end Decimal

namespace Value

/-- A value that is present has a text that is not empty. -/
theorem display_ne_empty {v : Value} (h : v.truthy = true) : v.display ≠ "" := by
  have hshown (chars : List Char) (hc : chars ≠ []) : String.ofList chars ≠ "" := by
    intro he
    exact hc (String.ofList_injective he)
  cases v with
  | null => cases h
  | str s => exact of_decide_eq_true h
  | bool b =>
    cases b with
    | false => cases h
    | true => exact hshown _ (List.cons_ne_nil _ _)
  | int n => exact hshown _ (Decimal.intChars_ne_nil n)
  | float x => exact hshown _ (Decimal.write_plain_ne_nil x)
  | list items => exact hshown _ (List.cons_ne_nil _ _)
  | object fields => exact hshown _ (List.cons_ne_nil _ _)

end Value

end ChatFlow
