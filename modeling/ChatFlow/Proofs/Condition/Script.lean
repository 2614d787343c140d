import ChatFlow.Proofs.Condition.Numeral
import ChatFlow.Proofs.Condition.Overflow
import ChatFlow.Proofs.Decimal.Spelling

/-!
# Loose equality of ECMAScript

Loose equality is meant to be that of ECMAScript: two lists or objects are equal only if they
are the same; beside anything else they become texts, and what is no text beside a text, or a
truth value, becomes a number.  `looselyEquals` follows the rules of that language, with its
own texts for numbers and lists and its own numerals.

Conditions agree with it as long as the items of lists are spelled alike and texts are read alike
where they are compared as numbers (`looseEquals_agrees`).  A list in a list is not spelled
alike (`nested_list_differs`).
-/

namespace ChatFlow.Script

open Condition Decimal

/-! ### Values as texts -/

/-- The written form of numbers: with a point up to twenty-one digits before it and six zeros behind
it. -/
def layout : Layout where
  leastPlain := -6
  greatestPlain := 20
  keepZero := false
  exponentDigits := 1
  nan := "NaN"
  infinity := "Infinity"

/-- The text of a number; zero is written without a sign. -/
def numberText (x : Float) : String :=
  match decode? x with
  | some ⟨_, 0, _⟩ => "0"
  | _ => String.ofList (write layout x)

/-- The number that a whole number is; all numbers are doubles. -/
def wholeNumber (n : Int) : Float := nearest (n < 0) n.natAbs 1

mutual

/-- The text that a value becomes. -/
def text : Value → String
  | .null => "null"
  | .bool b => if b then "true" else "false"
  | .int n => numberText (wholeNumber n)
  | .float x => numberText x
  | .str s => s
  | .list items => Text.join "," (itemTexts items)
  | .object _ => "[object Object]"

/-- The texts of the items of a list; that of null is empty. -/
def itemTexts : List Value → List String
  | [] => []
  | v :: rest => (if v.isNull then "" else text v) :: itemTexts rest

end

/-! ### Equality -/

/-- The values that are neither lists nor objects. -/
inductive Primitive where
  | undefined
  | null
  | boolean (b : Bool)
  | number (x : Float)
  | string (s : String)

/-- A list or an object becomes its text, and a variable that is not set is undefined. -/
def toPrimitive : Operand → Primitive
  | none => .undefined
  | some .null => .null
  | some (.bool b) => .boolean b
  | some (.int n) => .number (wholeNumber n)
  | some (.float x) => .number x
  | some (.str s) => .string s
  | some (.list items) => .string (text (.list items))
  | some (.object fields) => .string (text (.object fields))

namespace Primitive

/-- The number that a primitive value becomes. -/
def toNumber : Primitive → Float
  | undefined => nan
  | null => 0
  | boolean b => if b then 1 else 0
  | number x => x
  | string s => textNumber s

/-- Equality of two primitive values: of their own kind by that kind; undefined and null are equal to each
other and to nothing else; a truth value becomes a number, and so does a text beside a number. -/
def equals : Primitive → Primitive → Bool
  | undefined, undefined => true
  | null, null => true
  | undefined, null => true
  | null, undefined => true
  | undefined, _ => false
  | _, undefined => false
  | null, _ => false
  | _, null => false
  | string s, string t => s == t
  | number x, number y => x == y
  | boolean p, boolean q => p == q
  | number x, string t => x == textNumber t
  | string s, number y => textNumber s == y
  | boolean p, b => (boolean p).toNumber == b.toNumber
  | a, boolean q => a.toNumber == (boolean q).toNumber

end Primitive

/-- Loose equality; `same` says that the two operands are one and the same list or object. -/
def looselyEquals (same : Bool) (a b : Operand) : Bool :=
  if isCollection a && isCollection b then same else (toPrimitive a).equals (toPrimitive b)

/-! ### What is spelled alike -/

/-- An item of a list that conditions spell as scripts do. -/
inductive AlikeItem : Value → Prop
  | null : AlikeItem .null
  | bool (b : Bool) : AlikeItem (.bool b)
  | str (s : String) : AlikeItem (.str s)
  | int {n : Int} (hsmall : n.natAbs < 2 ^ 53) : AlikeItem (.int n)
  | whole {x : Float} {n : Int} (hn : toInt? x = some n) (hsmall : n.natAbs < 2 ^ 53) :
      AlikeItem (.float x)
  | pointed {x : Float} {d : Decimal.Dyadic} (hd : decode? x = some d) (hn : toInt? x = none)
      (h : d.Pointed) : AlikeItem (.float x)

variable {x : Float} {n : Int} {d : Decimal.Dyadic} {same : Bool} {a b : Operand}

theorem numberText_zero (hd : decode? x = some d) (hm : d.mantissa = 0) : numberText x = "0" := by
  obtain ⟨negative, mantissa, exponent⟩ := d
  obtain rfl : mantissa = 0 := hm
  unfold numberText
  rw [hd]
  rfl

theorem numberText_of_ne_zero (hd : decode? x = some d) (hm : d.mantissa ≠ 0) :
    numberText x = String.ofList (write layout x) := by
  unfold numberText
  rw [hd]
  split
  · rename_i heq
    obtain rfl := Option.some.inj heq
    exact absurd rfl hm
  · rfl

theorem exists_decode?_of_toInt? (hn : toInt? x = some n) : ∃ d, decode? x = some d := by
  obtain ⟨d, hd, -⟩ := Option.bind_eq_some_iff.mp hn
  exact ⟨d, hd⟩

theorem numberText_whole (hn : toInt? x = some n) (hsmall : n.natAbs < 2 ^ 53) :
    numberText x = intText n := by
  obtain ⟨d, hd⟩ := exists_decode?_of_toInt? hn
  by_cases hm : d.mantissa = 0
  · obtain ⟨k, -, hmantissa, -⟩ := exists_places_of_toInt? hd hn hsmall
    have hzero : n.natAbs = 0 := by
      rcases Nat.mul_eq_zero.mp (hmantissa.symm.trans hm) with h | h
      · exact h
      · exact absurd h (Nat.ne_of_gt (Nat.two_pow_pos k))
    rw [numberText_zero hd hm, Int.natAbs_eq_zero.mp hzero]
    rfl
  · rw [numberText_of_ne_zero hd hm,
      write_whole hd hm hn hsmall (by decide) (by decide) rfl]
    rfl

theorem toInt?_wholeNumber (hsmall : n.natAbs < 2 ^ 53) : toInt? (wholeNumber n) = some n := by
  by_cases hzero : n = 0
  · subst hzero
    decide +kernel
  · obtain ⟨k, hd⟩ := exists_decode?_nearest (n < 0) (Int.natAbs_pos.mpr hzero) hsmall
    unfold wholeNumber
    rw [toInt?_of_places hd]
    refine congrArg some ?_
    by_cases hneg : n < 0
    · simp only [hneg, decide_true, if_true]
      omega
    · simp only [hneg, decide_false, Bool.false_eq_true, if_false]
      omega

theorem mantissa_ne_zero_of_toInt? (hd : decode? x = some d) (hn : toInt? x = none) :
    d.mantissa ≠ 0 := by
  intro hm
  unfold toInt? at hn
  rw [hd, Option.bind_some, hm] at hn
  split at hn <;> simp at hn

theorem text_of_alikeItem {v : Value} (h : AlikeItem v) :
    (if v.isNull then "" else text v) = if v.isNull then "" else v.render := by
  cases h with
  | null => rfl
  | bool b => cases b <;> rfl
  | str s => rfl
  | int hsmall => exact numberText_whole (toInt?_wholeNumber hsmall) hsmall
  | @whole x n hn hsmall =>
    change numberText x = (Value.float x).render
    rw [numberText_whole hn hsmall, Value.render, hn]
  | @pointed x d hd hn h =>
    have hm := mantissa_ne_zero_of_toInt? hd hn
    change numberText x = (Value.float x).render
    rw [numberText_of_ne_zero hd hm, Value.render, hn,
      write_congr hd hm h (by decide) (by decide : plain.leastPlain ≤ -4 ∧ 15 ≤ plain.greatestPlain)]
    rfl

theorem itemTexts_eq {items : List Value} (h : ∀ v ∈ items, AlikeItem v) :
    itemTexts items = items.map fun v => if v.isNull then "" else v.render := by
  induction items with
  | nil => rfl
  | cons v rest ih =>
    obtain ⟨hv, hrest⟩ := List.forall_mem_cons.mp h
    rw [itemTexts, text_of_alikeItem hv, ih hrest]
    rfl

theorem text_list {items : List Value} (h : ∀ v ∈ items, AlikeItem v) :
    text (.list items) = listText items := by
  rw [text, itemTexts_eq h]
  rfl

/-- Conditions give an operand the text that it becomes. -/
def SpelledAlike : Operand → Prop
  | some (.list items) => ∀ v ∈ items, AlikeItem v
  | _ => True

/-- Conditions give an operand the number that it becomes. -/
def CountedAlike : Operand → Prop
  | some (.int n) => n.natAbs < leastTooLarge
  | some (.str s) => CommonText s
  | some (.list items) => CommonText (listText items)
  | _ => True

/-- What is a text beside a text. -/
def isText : Operand → Bool
  | some (.str _) | some (.list _) | some (.object _) => true
  | _ => false

/-- Two operands of which conditions compare the same as scripts do: nothing, if one of them is absent or
both are lists or objects; else texts, or numbers. -/
inductive Alike (a b : Operand) : Prop
  | absent (h : isAbsent a = true ∨ isAbsent b = true)
  | collections (ha : isCollection a = true) (hb : isCollection b = true)
  | texts (ha : isText a = true) (hb : isText b = true) (hsa : SpelledAlike a) (hsb : SpelledAlike b)
  | numbers (hsa : SpelledAlike a) (hsb : SpelledAlike b) (hca : CountedAlike a)
      (hcb : CountedAlike b)

theorem toPrimitive_scalar (h : SpelledAlike a) : toPrimitive (scalar a) = toPrimitive a := by
  rcases a with _ | _ | _ | _ | _ | _ | items | _
  case some.list => exact congrArg Primitive.string (text_list h).symm
  all_goals rfl

theorem number_eq (h : CountedAlike a) (hs : SpelledAlike a) :
    Condition.number (scalar a) = .ok (toPrimitive a).toNumber := by
  rcases a with _ | _ | b | n | x | s | items | fields
  case some.int =>
    have hsome : ofInt? n = some (wholeNumber n) := by
      have hlarge := mt (ofInt?_eq_none_iff n).mp (Nat.not_le.mpr h)
      unfold ofInt? at hlarge ⊢
      simp only at hlarge ⊢
      split
      · rfl
      · rename_i hnone
        exact absurd (if_neg hnone) hlarge
    change Condition.number (some (.int n)) = _
    rw [Condition.number, hsome]
    rfl
  case some.str => exact congrArg Except.ok (textNumber_eq h)
  case some.list =>
    rw [← toPrimitive_scalar hs]
    exact congrArg Except.ok (textNumber_eq h)
  case some.object =>
    have hnan : Condition.textNumber "[object Object]" = textNumber "[object Object]" := by
      decide +kernel
    exact congrArg Except.ok hnan
  all_goals rfl

/-! ### Agreement -/

theorem isAbsent_iff : isAbsent a = true ↔ a = none ∨ a = some .null := by
  rcases a with _ | _ | _ | _ | _ | _ | _ | _ <;> simp [isAbsent]

/-- Equality with an operand that is absent. -/
theorem equals_absent (h : isAbsent a = true ∨ isAbsent b = true) :
    (toPrimitive a).equals (toPrimitive b) = (isAbsent a && isAbsent b) := by
  rcases h with h | h
  · rcases isAbsent_iff.mp h with rfl | rfl <;>
      rcases b with _ | _ | _ | _ | _ | _ | _ | _ <;> rfl
  · rcases isAbsent_iff.mp h with rfl | rfl <;>
      rcases a with _ | _ | _ | _ | _ | _ | _ | _ <;> rfl

theorem agrees_absent (same : Bool) (h : isAbsent a = true ∨ isAbsent b = true) :
    looseEquals same a b = .ok (looselyEquals same a b) := by
  have hcollections : (isCollection a && isCollection b) = false := by
    rcases h with h | h
    · rcases isAbsent_iff.mp h with rfl | rfl <;> rfl
    · rcases isAbsent_iff.mp h with rfl | rfl <;> exact Bool.and_false _
  unfold looseEquals looselyEquals
  rw [if_pos (Bool.or_eq_true_iff.mpr h), hcollections, if_neg Bool.false_ne_true, equals_absent h]

theorem agrees_collections (same : Bool) (ha : isCollection a = true) (hb : isCollection b = true) :
    looseEquals same a b = .ok (looselyEquals same a b) := by
  have habsent {c : Operand} (hc : isCollection c = true) : isAbsent c = false := by
    rcases c with _ | _ | _ | _ | _ | _ | _ | _ <;> first | rfl | cases hc
  unfold looseEquals looselyEquals
  rw [habsent ha, habsent hb, ha, hb]
  rfl

/-- Two operands become primitive, unless one of them is absent or both are lists or objects. -/
theorem agrees_of_scalars (same : Bool)
    (h : isAbsent a = false → isAbsent b = false →
      scalarEquals (scalar a) (scalar b) = .ok ((toPrimitive a).equals (toPrimitive b))) :
    looseEquals same a b = .ok (looselyEquals same a b) := by
  by_cases habsent : isAbsent a = true ∨ isAbsent b = true
  · exact agrees_absent same habsent
  · by_cases hcollections : isCollection a = true ∧ isCollection b = true
    · exact agrees_collections same hcollections.1 hcollections.2
    · obtain ⟨ha, hb⟩ := not_or.mp habsent
      unfold looseEquals looselyEquals
      rw [if_neg (by simp [ha, hb]), if_neg (by simpa using hcollections),
        if_neg (by simpa using hcollections),
        h (Bool.eq_false_iff.mpr ha) (Bool.eq_false_iff.mpr hb)]

theorem exists_text (h : isText a = true) (hs : SpelledAlike a) :
    ∃ s, scalar a = some (.str s) ∧ toPrimitive a = .string s := by
  rcases a with _ | _ | _ | _ | _ | s | items | fields
  case some.str => exact ⟨s, rfl, rfl⟩
  case some.list => exact ⟨_, rfl, congrArg Primitive.string (text_list hs)⟩
  case some.object => exact ⟨_, rfl, rfl⟩
  all_goals cases h

/-- Values that are neither null nor lists or objects. -/
inductive Scalar : Value → Prop
  | bool (b : Bool) : Scalar (.bool b)
  | int (n : Int) : Scalar (.int n)
  | float (x : Float) : Scalar (.float x)
  | str (s : String) : Scalar (.str s)

theorem exists_scalar (h : isAbsent a = false) : ∃ u, scalar a = some u ∧ Scalar u := by
  rcases a with _ | _ | b | n | x | s | items | fields
  case none => cases h
  case some.null => cases h
  case some.bool => exact ⟨_, rfl, .bool b⟩
  case some.int => exact ⟨_, rfl, .int n⟩
  case some.float => exact ⟨_, rfl, .float x⟩
  all_goals exact ⟨_, rfl, .str _⟩

/-- Once their numbers are the same, scalars are compared by the same rules. -/
theorem scalarEquals_eq {u v : Value} (hu : Scalar u) (hv : Scalar v)
    (hnu : Condition.number (some u) = .ok (toPrimitive (some u)).toNumber)
    (hnv : Condition.number (some v) = .ok (toPrimitive (some v)).toNumber) :
    scalarEquals (some u) (some v) = .ok ((toPrimitive (some u)).equals (toPrimitive (some v))) := by
  have hnumbers : (do return (← Condition.number (some u)) == (← Condition.number (some v)) :
      Except Failure Bool) =
        .ok ((toPrimitive (some u)).toNumber == (toPrimitive (some v)).toNumber) := by
    rw [hnu, hnv]
    rfl
  cases hu with
  | bool p =>
    cases hv with
    | bool q => rfl
    | _ => exact hnumbers
  | str s =>
    cases hv with
    | str t => rfl
    | _ => exact hnumbers
  | int n => cases hv <;> exact hnumbers
  | float x => cases hv <;> exact hnumbers

/-- **Conditions agree with scripts on what is equal**, of all operands that they spell and count alike. -/
theorem looseEquals_agrees (same : Bool) (h : Alike a b) :
    looseEquals same a b = .ok (looselyEquals same a b) := by
  cases h with
  | absent habsent => exact agrees_absent same habsent
  | collections ha hb => exact agrees_collections same ha hb
  | texts ha hb hsa hsb =>
    obtain ⟨s, hs, hps⟩ := exists_text ha hsa
    obtain ⟨t, ht, hpt⟩ := exists_text hb hsb
    refine agrees_of_scalars same fun _ _ => ?_
    rw [hs, ht, hps, hpt]
    rfl
  | numbers hsa hsb hca hcb =>
    refine agrees_of_scalars same fun ha hb => ?_
    obtain ⟨u, hu, hscalar⟩ := exists_scalar ha
    obtain ⟨v, hv, hscalar'⟩ := exists_scalar hb
    have hnu := number_eq hca hsa
    have hnv := number_eq hcb hsb
    rw [← toPrimitive_scalar hsa, hu] at hnu ⊢
    rw [← toPrimitive_scalar hsb, hv] at hnv ⊢
    exact scalarEquals_eq hscalar hscalar' hnu hnv

theorem looseEquals_agrees_list_of_number :
    looseEquals false (some (.list [.int 10])) (some (.float 10)) = .ok true := by
  have hchar (c : Char) (h : c ∈ ['1', '0']) : Common c := by
    simp only [List.mem_cons, List.not_mem_nil, or_false] at h
    rcases h with rfl | rfl <;> exact ⟨by decide, by decide, by decide⟩
  have htext : listText [.int 10] = "10" := by decide +kernel
  have hcommon : CommonText (listText [.int 10]) := by
    rw [htext]
    exact ⟨hchar, rfl, by decide⟩
  have hitems : ∀ v ∈ [Value.int 10], AlikeItem v := by
    intro v hv
    obtain rfl := List.mem_singleton.mp hv
    exact .int (by decide)
  have hequals : looselyEquals false (some (.list [.int 10])) (some (.float 10)) = true := by
    decide +kernel
  rw [← hequals]
  exact looseEquals_agrees false (.numbers hitems trivial hcommon trivial)

/-- A list of a list is not equal to the text that it becomes: conditions give the inner list brackets. -/
theorem nested_list_differs :
    looseEquals false (some (.list [.list [.int 1, .int 2]])) (some (.str "1,2")) = .ok false ∧
    looselyEquals false (some (.list [.list [.int 1, .int 2]])) (some (.str "1,2")) = true := by
  refine ⟨eq_ok_of_toOption (by decide +kernel), by decide +kernel⟩

end ChatFlow.Script
