import ChatFlow.Condition.Compare

/-!
# Numerals of ECMAScript

A text stands for a number by the grammar of string numeric literals: white space around, then a
decimal with a sign, or the word `Infinity` with a sign, or a whole number in base sixteen,
eight or two without one.  `Numeral` is that grammar and `numeral?` a reader of it
(`numeral?_eq_some_iff`); a text that is no numeral stands for NaN.

Conditions read numbers as people type them, and that is another grammar.  The two agree on texts
that have nothing in them which only one of them knows (`textNumber_eq`).
-/

namespace ChatFlow.Script

open Decimal

/-! ### The grammar -/

/-- White space and line ends of the grammar. -/
def isSpace (c : Char) : Bool :=
  let n := c.toNat
  (9 ≤ n && n ≤ 13) || n == 0x20 || n == 0xA0 || n == 0x1680 || (0x2000 ≤ n && n ≤ 0x200A)
    || n == 0x2028 || n == 0x2029 || n == 0x202F || n == 0x205F || n == 0x3000 || n == 0xFEFF

/-- Decimal digits, at least one. -/
def Digits (ds : List Char) : Prop := ds ≠ [] ∧ ∀ c ∈ ds, c.isDigit = true

/-- The value of decimal digits. -/
def valueOf (ds : List Char) : Nat := Nat.ofDigitChars 10 ds 0

/-- Decimal digits with or without a sign. -/
inductive SignedDigits : List Char → Int → Prop
  | unsigned {ds : List Char} (h : Digits ds) : SignedDigits ds (valueOf ds)
  | plus {ds : List Char} (h : Digits ds) : SignedDigits ('+' :: ds) (valueOf ds)
  | minus {ds : List Char} (h : Digits ds) : SignedDigits ('-' :: ds) (-(valueOf ds : Int))

/-- An exponent of ten, which may be missing. -/
inductive ExponentPart : List Char → Int → Prop
  | missing : ExponentPart [] 0
  | marked {mark : Char} {s : List Char} {e : Int} (hmark : mark = 'e' ∨ mark = 'E')
      (h : SignedDigits s e) : ExponentPart (mark :: s) e

/-- A decimal without a sign, which denotes `n · 10 ^ e`. -/
inductive UnsignedDecimal : List Char → Nat → Int → Prop
  | whole {w x : List Char} {e : Int} (hw : Digits w) (hx : ExponentPart x e) :
      UnsignedDecimal (w ++ x) (valueOf w) e
  | point {w p x : List Char} {e : Int} (hw : Digits w) (hp : ∀ c ∈ p, c.isDigit = true)
      (hx : ExponentPart x e) :
      UnsignedDecimal (w ++ '.' :: (p ++ x)) (valueOf (w ++ p)) (e - p.length)
  | fraction {p x : List Char} {e : Int} (hp : Digits p) (hx : ExponentPart x e) :
      UnsignedDecimal ('.' :: (p ++ x)) (valueOf p) (e - p.length)

/-- What may stand after a sign. -/
inductive Unsigned (negative : Bool) : List Char → Float → Prop
  | infinity : Unsigned negative "Infinity".toList (infinite negative)
  | decimal {s : List Char} {n : Nat} {e : Int} (h : UnsignedDecimal s n e) :
      Unsigned negative s (ofScaled negative n e)

/-- The value of a digit in bases up to sixteen. -/
def digitValue (c : Char) : Nat :=
  if c.isDigit then c.toNat - 48
  else if 'a' ≤ c ∧ c ≤ 'f' then c.toNat - 87
  else if 'A' ≤ c ∧ c ≤ 'F' then c.toNat - 55
  else 16

/-- The value of digits in a base. -/
def valueIn (base : Nat) (ds : List Char) : Nat := ds.foldl (fun n c => n * base + digitValue c) 0

/-- The marks of the bases other than ten. -/
def bases : List (Char × Nat) := [('x', 16), ('X', 16), ('o', 8), ('O', 8), ('b', 2), ('B', 2)]

/-- A numeral without white space around it. -/
inductive Numeral : List Char → Float → Prop
  | unsigned {s : List Char} {x : Float} (h : Unsigned false s x) : Numeral s x
  | plus {s : List Char} {x : Float} (h : Unsigned false s x) : Numeral ('+' :: s) x
  | minus {s : List Char} {x : Float} (h : Unsigned true s x) : Numeral ('-' :: s) x
  | inBase {mark : Char} {base : Nat} {ds : List Char} (hbase : bases.lookup mark = some base)
      (hne : ds ≠ []) (hds : ∀ c ∈ ds, digitValue c < base) :
      Numeral ('0' :: mark :: ds) (nearest false (valueIn base ds) 1)

/-! ### A reader of the grammar -/

/-- A whole number in a base other than ten: the base and the digits. -/
def inBase? : List Char → Option (Nat × List Char)
  | '0' :: mark :: ds => (bases.lookup mark).map fun base => (base, ds)
  | _ => none

/-- The value of what stands after a sign. -/
def unsigned? (negative : Bool) (s : List Char) : Option Float :=
  if s = "Infinity".toList then some (infinite negative) else readUnsigned? negative s

/-- The value of a numeral. -/
def numeral? (s : List Char) : Option Float :=
  match inBase? s with
  | some (base, ds) =>
    if !ds.isEmpty && ds.all fun c => digitValue c < base then
      some (nearest false (valueIn base ds) 1)
    else none
  | none => unsigned? (splitSign s).1 (splitSign s).2

/-- A text without the white space around it. -/
def trimmed (s : String) : List Char := Text.trim isSpace s.toList

/-- The number that a text stands for: zero for white space, NaN for what is no numeral. -/
def textNumber (s : String) : Float :=
  if trimmed s = [] then 0 else (numeral? (trimmed s)).getD nan

variable {negative : Bool} {s ds w p x : List Char} {e : Int} {n : Nat} {y : Float}

/-! ### Digits and exponents -/

theorem natOfDigits_eq (acc : Nat) (ds : List Char) :
    natOfDigits acc ds = Nat.ofDigitChars 10 ds acc := by
  induction ds generalizing acc with
  | nil => rfl
  | cons c rest ih =>
    have hstep : natOfDigits acc (c :: rest) = natOfDigits (acc * 10 + (c.toNat - 48)) rest := rfl
    rw [hstep, ih, Nat.mul_comm acc 10]
    exact (Nat.ofDigitChars_cons ..).symm

theorem digits_iff : Digits ds ↔ (ds.isEmpty || !ds.all Char.isDigit) = false := by
  simp [Digits]

/-- A text that begins with a digit has no sign. -/
theorem Digits.splitSign_append (h : Digits ds) (x : List Char) :
    splitSign (ds ++ x) = (false, ds ++ x) := by
  obtain ⟨c, rest, rfl⟩ := List.exists_cons_of_ne_nil h.1
  have hc := h.2 c List.mem_cons_self
  unfold splitSign
  split
  · rename_i heq
    obtain ⟨rfl, -⟩ := List.cons.inj heq
    cases hc
  · rename_i heq
    obtain ⟨rfl, -⟩ := List.cons.inj heq
    cases hc
  · rfl

theorem Digits.splitSign_eq (h : Digits ds) : splitSign ds = (false, ds) := by
  have hsign := h.splitSign_append []
  rwa [List.append_nil] at hsign

theorem readExponent?_eq_some_iff : readExponent? s = some e ↔ SignedDigits s e := by
  have hread (negative : Bool) (ds : List Char) (hs : splitSign s = (negative, ds)) :
      readExponent? s = some e ↔
        Digits ds ∧ e = if negative then -(valueOf ds : Int) else valueOf ds := by
    unfold readExponent?
    rw [hs]
    simp only [natOfDigits_eq, digits_iff]
    split
    · rename_i h
      simp [h]
    · rename_i h
      simp [Bool.eq_false_iff.mpr h, valueOf, eq_comm]
  constructor
  · intro h
    cases hs : splitSign s with
    | mk negative ds =>
      obtain ⟨hds, rfl⟩ := (hread negative ds hs).mp h
      unfold splitSign at hs
      split at hs
      · obtain ⟨rfl, rfl⟩ := Prod.mk.inj hs
        exact .minus hds
      · obtain ⟨rfl, rfl⟩ := Prod.mk.inj hs
        exact .plus hds
      · obtain ⟨rfl, rfl⟩ := Prod.mk.inj hs
        exact .unsigned hds
  · intro h
    cases h with
    | unsigned hds => exact (hread false s hds.splitSign_eq).mpr ⟨hds, rfl⟩
    | plus hds => exact (hread false _ rfl).mpr ⟨hds, rfl⟩
    | minus hds => exact (hread true _ rfl).mpr ⟨hds, rfl⟩

/-- An exponent that may be missing. -/
def exponentPart? : List Char → Option Int
  | [] => some 0
  | c :: rest => if c = 'e' || c = 'E' then readExponent? rest else none

theorem exponentPart?_eq_some_iff : exponentPart? s = some e ↔ ExponentPart s e := by
  constructor
  · intro h
    cases s with
    | nil =>
      obtain rfl := Option.some.inj h
      exact .missing
    | cons c rest =>
      by_cases hmark : (c = 'e' || c = 'E') = true
      · rw [exponentPart?, if_pos hmark] at h
        exact .marked (by simpa using hmark) (readExponent?_eq_some_iff.mp h)
      · rw [exponentPart?, if_neg hmark] at h
        cases h
  · intro h
    cases h with
    | missing => rfl
    | marked hmark hs => exact (if_pos (by simpa using hmark)).trans (readExponent?_eq_some_iff.mpr hs)

/-! ### Decimals -/

/-- Where the digits of a decimal end, no digit follows, and no point after those behind one. -/
theorem ExponentPart.head (h : ExponentPart x e) : ∀ c ∈ x.head?, c = 'e' ∨ c = 'E' := by
  cases h with
  | missing => exact nofun
  | marked hmark =>
    intro c hc
    obtain rfl := Option.some.inj hc
    exact hmark

/-- The digits at the front of a text, and the rest of it. -/
theorem span_append (hw : ∀ c ∈ w, c.isDigit = true) (hx : ∀ c ∈ x.head?, c.isDigit = false) :
    (w ++ x).takeWhile Char.isDigit = w ∧ (w ++ x).dropWhile Char.isDigit = x := by
  have hrest : x.takeWhile Char.isDigit = [] ∧ x.dropWhile Char.isDigit = x := by
    cases x with
    | nil => exact ⟨rfl, rfl⟩
    | cons c rest =>
      have hc := hx c rfl
      simp [hc]
  rw [List.takeWhile_append_of_pos hw, List.dropWhile_append_of_pos hw, hrest.1, hrest.2]
  exact ⟨List.append_nil w, rfl⟩

theorem ExponentPart.head_not_digit (h : ExponentPart x e) :
    ∀ c ∈ x.head?, c.isDigit = false := by
  intro c hc
  rcases h.head c hc with rfl | rfl <;> rfl

/-- The value of a decimal from its three parts. -/
def assemble (negative : Bool) (w p x : List Char) : Option Float :=
  if w.isEmpty && p.isEmpty then none
  else (exponentPart? x).map fun e => ofScaled negative (valueOf (w ++ p)) (e - p.length)

theorem map_exponentPart?_cons (f : Int → Float) (c : Char) (r : List Char) :
    (exponentPart? (c :: r)).map f =
      if c = 'e' || c = 'E' then (readExponent? r).map f else none := by
  rw [exponentPart?, apply_ite (Option.map f)]
  rfl

/-- A decimal is read as digits before a point, digits behind it and an exponent. -/
theorem readUnsigned?_eq (negative : Bool) (s : List Char) : readUnsigned? negative s =
    match s.dropWhile Char.isDigit with
    | '.' :: r =>
      assemble negative (s.takeWhile Char.isDigit) (r.takeWhile Char.isDigit)
        (r.dropWhile Char.isDigit)
    | r => assemble negative (s.takeWhile Char.isDigit) [] r := by
  unfold readUnsigned? assemble
  split
  case h_1 r heq =>
    simp only [heq, natOfDigits_eq]
    cases r.dropWhile Char.isDigit with
    | nil => rfl
    | cons c rest => rw [map_exponentPart?_cons]; rfl
  case h_2 heq =>
    simp only [natOfDigits_eq]
    cases s.dropWhile Char.isDigit with
    | nil => rfl
    | cons c rest => rw [map_exponentPart?_cons]; rfl

theorem assemble_eq_some_iff : assemble negative w p x = some y ↔
    (w ≠ [] ∨ p ≠ []) ∧ ∃ e, ExponentPart x e ∧ y = ofScaled negative (valueOf (w ++ p)) (e - p.length) := by
  unfold assemble
  by_cases hempty : w = [] ∧ p = []
  · obtain ⟨rfl, rfl⟩ := hempty
    simp
  · have hsome : (w.isEmpty && p.isEmpty) = false := by
      simpa [Bool.eq_false_iff] using hempty
    rw [hsome, if_neg Bool.false_ne_true, Option.map_eq_some_iff, ← Decidable.not_and_iff_not_or_not]
    simp only [hempty, not_false_eq_true, true_and]
    exact exists_congr fun e => and_congr exponentPart?_eq_some_iff eq_comm

theorem readUnsigned?_whole (negative : Bool) (hw : ∀ c ∈ w, c.isDigit = true)
    (hx : ExponentPart x e) : readUnsigned? negative (w ++ x) = assemble negative w [] x := by
  obtain ⟨htake, hdrop⟩ := span_append hw hx.head_not_digit
  rw [readUnsigned?_eq, htake, hdrop]
  split
  · rcases hx.head '.' rfl with h | h <;> cases h
  · rfl

theorem readUnsigned?_point (negative : Bool) (hw : ∀ c ∈ w, c.isDigit = true)
    (hp : ∀ c ∈ p, c.isDigit = true) (hx : ExponentPart x e) :
    readUnsigned? negative (w ++ '.' :: (p ++ x)) = assemble negative w p x := by
  have hpoint : ∀ c ∈ ('.' :: (p ++ x)).head?, c.isDigit = false := by
    intro c hc
    obtain rfl := Option.some.inj hc
    rfl
  obtain ⟨htake, hdrop⟩ := span_append hw hpoint
  obtain ⟨htake', hdrop'⟩ := span_append hp hx.head_not_digit
  rw [readUnsigned?_eq, htake, hdrop]
  simp only [htake', hdrop']

/-- **Decimals are read by their grammar.** -/
theorem readUnsigned?_eq_some_iff : readUnsigned? negative s = some y ↔
    ∃ n e, UnsignedDecimal s n e ∧ y = ofScaled negative n e := by
  constructor
  · intro h
    have hs := List.takeWhile_append_dropWhile (p := Char.isDigit) (l := s)
    have hw (c : Char) (hc : c ∈ s.takeWhile Char.isDigit) : c.isDigit = true :=
      List.all_eq_true.mp List.all_takeWhile c hc
    rw [readUnsigned?_eq] at h
    split at h
    case h_1 r heq =>
      have hr := List.takeWhile_append_dropWhile (p := Char.isDigit) (l := r)
      have hp (c : Char) (hc : c ∈ r.takeWhile Char.isDigit) : c.isDigit = true :=
        List.all_eq_true.mp List.all_takeWhile c hc
      obtain ⟨hne, e, hx, rfl⟩ := assemble_eq_some_iff.mp h
      rw [heq, ← hr] at hs
      by_cases hempty : s.takeWhile Char.isDigit = []
      · have hne' := hne.resolve_left (not_not_intro hempty)
        rw [hempty, List.nil_append] at hs ⊢
        refine ⟨_, _, ?_, rfl⟩
        rw [← hs]
        exact .fraction ⟨hne', hp⟩ hx
      · refine ⟨_, _, ?_, rfl⟩
        have hpoint := UnsignedDecimal.point ⟨hempty, hw⟩ hp hx
        rwa [hs] at hpoint
    case h_2 =>
      obtain ⟨hne, e, hx, rfl⟩ := assemble_eq_some_iff.mp h
      have hne' := hne.resolve_right (not_not_intro rfl)
      have hwhole := UnsignedDecimal.whole ⟨hne', hw⟩ hx
      rw [hs] at hwhole
      exact ⟨_, _, hwhole, by simp⟩
  · rintro ⟨n, e, h, rfl⟩
    cases h with
    | @whole w x e hw hx =>
      rw [readUnsigned?_whole negative hw.2 hx]
      exact assemble_eq_some_iff.mpr ⟨Or.inl hw.1, e, hx, by simp⟩
    | @point w p x e hw hp hx =>
      rw [readUnsigned?_point negative hw.2 hp hx]
      exact assemble_eq_some_iff.mpr ⟨Or.inl hw.1, e, hx, rfl⟩
    | @fraction p x e hp hx =>
      have hread := readUnsigned?_point negative (List.forall_mem_nil _) hp.2 hx
      rw [List.nil_append] at hread
      rw [hread]
      exact assemble_eq_some_iff.mpr ⟨Or.inr hp.1, e, hx, rfl⟩

/-! ### Numerals -/

theorem unsigned?_eq_some_iff : unsigned? negative s = some y ↔ Unsigned negative s y := by
  constructor
  · intro h
    unfold unsigned? at h
    split at h
    · rename_i hword
      obtain rfl := Option.some.inj h
      rw [hword]
      exact .infinity
    · obtain ⟨n, e, hdecimal, rfl⟩ := readUnsigned?_eq_some_iff.mp h
      exact .decimal hdecimal
  · intro h
    cases h with
    | infinity => exact if_pos rfl
    | @decimal s n e h =>
      have hread : readUnsigned? negative s = some (ofScaled negative n e) :=
        readUnsigned?_eq_some_iff.mpr ⟨n, e, h, rfl⟩
      refine (if_neg fun hword => ?_).trans hread
      rw [hword] at hread
      cases hread

/-- A number in another base is marked by a letter that no decimal has after its first digit. -/
theorem readUnsigned?_marked {mark : Char} {base : Nat} (hbase : bases.lookup mark = some base)
    (negative : Bool) (ds : List Char) : readUnsigned? negative ('0' :: mark :: ds) = none := by
  obtain ⟨before, after, hlist, -⟩ := List.lookup_eq_some_iff.mp hbase
  have hmem : (mark, base) ∈ before ++ (mark, base) :: after :=
    List.mem_append_right _ List.mem_cons_self
  rw [← hlist] at hmem
  simp only [bases, List.mem_cons, Prod.mk.injEq, List.not_mem_nil, or_false] at hmem
  rcases hmem with ⟨rfl, -⟩ | ⟨rfl, -⟩ | ⟨rfl, -⟩ | ⟨rfl, -⟩ | ⟨rfl, -⟩ | ⟨rfl, -⟩ <;> rfl

theorem inBase?_of_unsigned (h : Unsigned negative s y) : inBase? s = none := by
  have hread := unsigned?_eq_some_iff.mpr h
  unfold inBase?
  split
  · rename_i mark ds
    cases hbase : bases.lookup mark with
    | none => rfl
    | some base =>
      rw [unsigned?, if_neg (by simp), readUnsigned?_marked hbase] at hread
      cases hread
  · rfl

/-- What may stand after a sign does not begin with one. -/
theorem splitSign_of_unsigned (h : Unsigned negative s y) : splitSign s = (false, s) := by
  cases h with
  | infinity => rfl
  | decimal h =>
    cases h with
    | whole hw => exact hw.splitSign_append _
    | point hw => exact hw.splitSign_append _
    | fraction => rfl

theorem digitsIn_iff {base : Nat} :
    (!ds.isEmpty && ds.all fun c => digitValue c < base) = true ↔
      ds ≠ [] ∧ ∀ c ∈ ds, digitValue c < base := by
  simp

/-- **Numerals are read by their grammar.** -/
theorem numeral?_eq_some_iff : numeral? s = some y ↔ Numeral s y := by
  constructor
  · intro h
    unfold numeral? at h
    split at h
    case h_1 base ds hbase =>
      split at h
      · rename_i hds
        obtain rfl := Option.some.inj h
        unfold inBase? at hbase
        split at hbase
        · obtain ⟨base', hlookup, hpair⟩ := Option.map_eq_some_iff.mp hbase
          obtain ⟨rfl, rfl⟩ := Prod.mk.inj hpair
          obtain ⟨hne, hvalues⟩ := digitsIn_iff.mp hds
          exact .inBase hlookup hne hvalues
        · cases hbase
      · cases h
    case h_2 =>
      have hunsigned := unsigned?_eq_some_iff.mp h
      unfold splitSign at hunsigned
      split at hunsigned
      · exact .minus hunsigned
      · exact .plus hunsigned
      · exact .unsigned hunsigned
  · intro h
    cases h with
    | unsigned h =>
      unfold numeral?
      rw [inBase?_of_unsigned h, splitSign_of_unsigned h]
      exact unsigned?_eq_some_iff.mpr h
    | plus h => exact unsigned?_eq_some_iff.mpr h
    | minus h => exact unsigned?_eq_some_iff.mpr h
    | @inBase mark base ds hbase hne hds =>
      unfold numeral?
      rw [show inBase? ('0' :: mark :: ds) = some (base, ds) by rw [inBase?, hbase]; rfl]
      exact if_pos (digitsIn_iff.mpr ⟨hne, hds⟩)

/-! ### The numbers that conditions read

Conditions also know underscores, digits of other scripts and the words for the infinities in any
spelling, but no other bases, and their blanks are not quite the same. -/

/-- A character that means the same in both grammars. -/
structure Common (c : Char) : Prop where
  underscore : c ≠ '_'
  digit : 128 ≤ c.toNat → Text.digitValue? c = none
  blank : Text.isBlank c = isSpace c

/-- A text in which there is nothing that only one of the grammars knows. -/
structure CommonText (s : String) : Prop where
  chars : ∀ c ∈ s.toList, Common c
  base : inBase? (trimmed s) = none
  word : (splitSign (trimmed s)).2.map Char.toLower ∈
      ["inf".toList, "infinity".toList] →
    (splitSign (trimmed s)).2 = "Infinity".toList

theorem mem_of_mem_dropEnd {drop : Char → Bool} {c : Char} (h : c ∈ Text.dropEnd drop s) : c ∈ s := by
  induction s with
  | nil => exact h
  | cons d rest ih =>
    unfold Text.dropEnd at h
    split at h
    · split at h
      · cases h
      · rw [List.mem_singleton.mp h]
        exact List.mem_cons_self
    · rcases List.mem_cons.mp h with rfl | hrest
      · exact List.mem_cons_self
      · exact List.mem_cons_of_mem d (ih hrest)

theorem mem_of_mem_trim {drop : Char → Bool} {c : Char} (h : c ∈ Text.trim drop s) : c ∈ s :=
  (List.dropWhile_sublist drop).mem (mem_of_mem_dropEnd h)

theorem dropEnd_congr {p q : Char → Bool} (h : ∀ c ∈ s, p c = q c) :
    Text.dropEnd p s = Text.dropEnd q s := by
  induction s with
  | nil => rfl
  | cons c rest ih =>
    obtain ⟨hc, hrest⟩ := List.forall_mem_cons.mp h
    rw [Text.dropEnd, Text.dropEnd, ih hrest, hc]

theorem dropWhile_congr {p q : Char → Bool} (h : ∀ c ∈ s, p c = q c) :
    s.dropWhile p = s.dropWhile q := by
  induction s with
  | nil => rfl
  | cons c rest ih =>
    obtain ⟨hc, hrest⟩ := List.forall_mem_cons.mp h
    rw [List.dropWhile_cons, List.dropWhile_cons, hc, ih hrest]

theorem trim_congr {p q : Char → Bool} (h : ∀ c ∈ s, p c = q c) : Text.trim p s = Text.trim q s := by
  unfold Text.trim
  rw [dropWhile_congr h]
  exact dropEnd_congr fun c hc => h c ((List.dropWhile_sublist q).mem hc)

theorem asciiDigits_of_common (h : ∀ c ∈ s, Common c) : asciiDigits s = s := by
  refine (List.map_congr_left fun c hc => ?_).trans (List.map_id s)
  split
  · rfl
  · rename_i hlarge
    rw [(h c hc).digit (Nat.le_of_not_lt hlarge)]
    rfl

theorem dropUnderscores_of_common (h : ∀ c ∈ s, Common c) {previous : Char}
    (hprevious : previous ≠ '_') : dropUnderscores previous s = some s := by
  induction s generalizing previous with
  | nil => simp [dropUnderscores, hprevious]
  | cons c rest ih =>
    obtain ⟨hc, hrest⟩ := List.forall_mem_cons.mp h
    simp [dropUnderscores, hc.underscore, hprevious, ih hrest hc.underscore]

/-- A decimal begins with a digit or a point, in which small letters and capitals make no difference. -/
theorem head_of_readUnsigned? (h : readUnsigned? negative s = some y) :
    ∃ c rest, s = c :: rest ∧ (c.isDigit = true ∨ c = '.') := by
  have hdigits (ds x : List Char) (hds : Digits ds) :
      ∃ c rest, ds ++ x = c :: rest ∧ (c.isDigit = true ∨ c = '.') := by
    obtain ⟨c, rest, rfl⟩ := List.exists_cons_of_ne_nil hds.1
    exact ⟨c, rest ++ x, rfl, Or.inl (hds.2 c List.mem_cons_self)⟩
  obtain ⟨n, e, hdecimal, -⟩ := readUnsigned?_eq_some_iff.mp h
  cases hdecimal with
  | whole hw => exact hdigits _ _ hw
  | point hw => exact hdigits _ _ hw
  | fraction => exact ⟨_, _, rfl, Or.inr rfl⟩

theorem toLower_of_isDigit {c : Char} (h : c.isDigit = true) : c.toLower = c := by
  unfold Char.toLower
  rw [dif_neg]
  rintro ⟨hupper, -⟩
  simp only [Char.isDigit, Bool.and_eq_true, decide_eq_true_eq, UInt32.le_iff_toNat_le, ge_iff_le]
    at h hupper
  exact absurd (Nat.le_trans hupper h.2) (by decide)

/-- The word for NaN is no decimal, in any spelling. -/
theorem readUnsigned?_nan (h : s.map Char.toLower = "nan".toList) : readUnsigned? negative s = none := by
  cases hread : readUnsigned? negative s with
  | none => rfl
  | some y =>
    obtain ⟨c, rest, rfl, hc⟩ := head_of_readUnsigned? hread
    have hlower : c.toLower = 'n' := (List.cons.inj h).1
    rcases hc with hdigit | rfl
    · rw [toLower_of_isDigit hdigit] at hlower
      rw [hlower] at hdigit
      cases hdigit
    · cases hlower

/-- Without the words that only conditions know, a number is read by the grammar. -/
theorem readNumber?_eq {t : List Char}
    (hword : (splitSign t).2.map Char.toLower ∈ ["inf".toList, "infinity".toList] →
      (splitSign t).2 = "Infinity".toList) :
    (readNumber? t).getD nan = (unsigned? (splitSign t).1 (splitSign t).2).getD nan := by
  unfold readNumber?
  generalize splitSign t = signed at hword ⊢
  obtain ⟨negative, body⟩ := signed
  simp only at hword ⊢
  by_cases hnan : body.map Char.toLower = "nan".toList
  · have hbody : body ≠ "Infinity".toList := by
      rintro rfl
      cases hnan
    rw [if_pos hnan, unsigned?, if_neg hbody, readUnsigned?_nan hnan]
    rfl
  · rw [if_neg hnan]
    by_cases hmem : body.map Char.toLower ∈ ["inf".toList, "infinity".toList]
    · obtain rfl := hword hmem
      rfl
    · have hbody : body ≠ "Infinity".toList := by
        rintro rfl
        exact hmem (by decide)
      have hwords : ¬ (body.map Char.toLower = "inf".toList ||
          body.map Char.toLower = "infinity".toList) = true := by
        intro hwords
        rcases Bool.or_eq_true_iff.mp hwords with hinf | hinfinity
        · exact hmem (List.mem_cons.mpr (Or.inl (of_decide_eq_true hinf)))
        · exact hmem (List.mem_cons_of_mem _ (List.mem_singleton.mpr (of_decide_eq_true hinfinity)))
      rw [if_neg hwords, unsigned?, if_neg hbody]

/-- **Where the two grammars agree.**  A text without anything that only one of them knows stands for the
same number in both. -/
theorem textNumber_eq {s : String} (h : CommonText s) : Condition.textNumber s = textNumber s := by
  have htrim : Text.stripChars s.toList = trimmed s :=
    trim_congr fun c hc => (h.chars c hc).blank
  have hcommon : ∀ c ∈ trimmed s, Common c :=
    fun c hc => h.chars c (mem_of_mem_trim hc)
  have hnumeral : numeral? (trimmed s) =
      unsigned? (splitSign (trimmed s)).1
        (splitSign (trimmed s)).2 := by
    unfold numeral?
    rw [h.base]
  unfold Condition.textNumber readFloat? textNumber Text.strip
  rw [htrim, asciiDigits_of_common hcommon, dropUnderscores_of_common hcommon (by decide),
    Option.bind_some, readNumber?_eq h.word, hnumeral]
  by_cases hempty : trimmed s = []
  · simp [hempty]
  · simp [hempty]

end ChatFlow.Script
