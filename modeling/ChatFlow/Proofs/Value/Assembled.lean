import ChatFlow.Proofs.Decimal.Spelling

/-!
# Structured texts and the texts of their parts

A list or an object is shown as compact JSON text, a number as JSON spells it or as a message
spells it, which is not the same: a double that is a whole number keeps its `.0` or its exponent in
JSON text and has neither in a message.  `render_assembled` says that a list or an object is always
put together from the texts of its parts, keys and items in their order, but with doubles as JSON
spells them, and that this is the text with doubles as messages spell them just when no double at
any depth is respelled.

The two texts are told apart by counting marks: what JSON writes of a respelled double has more of
the characters `.`, `e`, `N` and `y` than what a message shows of it, and no part has fewer
(`marks_textWith`).
-/

namespace ChatFlow

/-! ### Values put together from their parts -/

namespace Value

mutual

/-- The compact JSON text of a value, with doubles spelled in this way, texts in quotes, and whatever
else has no parts as it is shown on its own. -/
def textWith (spell : Float → List Char) : Value → List Char
  | null => null.render.toList
  | bool b => (bool b).render.toList
  | int n => (int n).render.toList
  | float x => spell x
  | str s => Json.quotedText false s
  | list items => '[' :: [','].intercalate (itemTexts spell items) ++ [']']
  | object fields => '\x7b' :: [','].intercalate (fieldTexts spell fields) ++ ['\x7d']

/-- The texts of the items, in their order. -/
def itemTexts (spell : Float → List Char) : List Value → List (List Char)
  | [] => []
  | v :: rest => textWith spell v :: itemTexts spell rest

/-- The texts of the fields, each a key and its value, in their order. -/
def fieldTexts (spell : Float → List Char) : List (String × Value) → List (List Char)
  | [] => []
  | (k, v) :: rest => (Json.quotedText false k ++ ':' :: textWith spell v) :: fieldTexts spell rest

end

mutual

/-- Whether a double in a value, at any depth, has a property. -/
def anyDouble (p : Float → Bool) : Value → Bool
  | float x => p x
  | list items => anyDoubleInItems p items
  | object fields => anyDoubleInFields p fields
  | _ => false

/-- Whether a double in one of the items has a property. -/
def anyDoubleInItems (p : Float → Bool) : List Value → Bool
  | [] => false
  | v :: rest => anyDouble p v || anyDoubleInItems p rest

/-- Whether a double in one of the fields has a property. -/
def anyDoubleInFields (p : Float → Bool) : List (String × Value) → Bool
  | [] => false
  | (_, v) :: rest => anyDouble p v || anyDoubleInFields p rest

end

/-! ### JSON text is put together from its parts -/

/-- Texts with a comma in front of each. -/
def afterCommas (texts : List (List Char)) : List Char := texts.flatMap (',' :: ·)

theorem afterCommas_cons (first : List Char) (rest : List (List Char)) :
    afterCommas (first :: rest) = ',' :: (first ++ afterCommas rest) := List.flatMap_cons

theorem intercalate_cons (first : List Char) (rest : List (List Char)) :
    [','].intercalate (first :: rest) = first ++ afterCommas rest := by
  induction rest generalizing first with
  | nil => rw [List.intercalate_singleton]; exact (List.append_nil first).symm
  | cons second rest ih =>
    rw [List.intercalate_cons_cons, ih, List.append_assoc]
    rfl

mutual

theorem write_eq_textWith (v : Value) :
    Json.write Json.compact v = v.textWith (Decimal.write Decimal.structured) := by
  match v with
  | int n => exact String.toList_ofList.symm
  | null | float _ | str _ | bool true | bool false =>
    simp only [Json.write, textWith, render, Json.compact]
  | list [] | object [] => rfl
  | list (v :: rest) =>
    rw [textWith, itemTexts, intercalate_cons, Json.write, Json.writeItems, write_eq_textWith v,
      writeItems_eq_afterCommas rest]
    rfl
  | object ((k, v) :: rest) =>
    rw [textWith, fieldTexts, intercalate_cons, Json.write, Json.writeFields, write_eq_textWith v,
      writeFields_eq_afterCommas rest]
    simp only [Json.compact, List.append_assoc]
    rfl

theorem writeItems_eq_afterCommas (items : List Value) : Json.writeItems Json.compact false items =
    afterCommas (itemTexts (Decimal.write Decimal.structured) items) := by
  match items with
  | [] => rfl
  | v :: rest =>
    rw [Json.writeItems, write_eq_textWith v, writeItems_eq_afterCommas rest]
    rfl

theorem writeFields_eq_afterCommas (fields : List (String × Value)) :
    Json.writeFields Json.compact false fields =
      afterCommas (fieldTexts (Decimal.write Decimal.structured) fields) := by
  match fields with
  | [] => rfl
  | (k, v) :: rest =>
    rw [Json.writeFields, write_eq_textWith v, writeFields_eq_afterCommas rest, fieldTexts,
      afterCommas_cons]
    simp only [Json.compact, List.append_assoc]
    rfl

end

/-! ### Marks -/

/-- How many characters of a text are marks: what doubles have in JSON text and are shown without in a
message if they are whole or no numbers. -/
def marks (text : List Char) : Nat := text.countP fun c => c ∈ ['.', 'e', 'N', 'y']

theorem marks_append (a b : List Char) : marks (a ++ b) = marks a + marks b := List.countP_append

theorem marks_cons (c : Char) (text : List Char) : marks (c :: text) = marks [c] + marks text :=
  marks_append [c] text

theorem marks_pos {c : Char} {text : List Char} (hc : c ∈ text) (h : c ∈ ['.', 'e', 'N', 'y']) :
    0 < marks text :=
  List.countP_pos_iff.mpr ⟨c, hc, decide_eq_true h⟩

theorem marks_afterCommas (texts : List (List Char)) :
    marks (afterCommas texts) = (texts.map marks).sum := by
  induction texts with
  | nil => rfl
  | cons first rest ih =>
    rw [afterCommas_cons, marks_cons, marks_append, ih, List.map_cons, List.sum_cons]
    exact Nat.zero_add _

theorem marks_intercalate (texts : List (List Char)) :
    marks ([','].intercalate texts) = (texts.map marks).sum := by
  cases texts with
  | nil => rfl
  | cons first rest =>
    rw [intercalate_cons, marks_append, marks_afterCommas, List.map_cons, List.sum_cons]

theorem toNat_or_le (a b : Bool) : (a || b).toNat ≤ a.toNat + b.toNat := by
  cases a <;> cases b <;> decide

variable {own other : Float → List Char} {p : Float → Bool}

/-- In the other spelling no double has fewer marks, and those with the property have more. -/
def Outmarked (own other : Float → List Char) (p : Float → Bool) : Prop :=
  ∀ x, marks (own x) + (p x).toNat ≤ marks (other x)

mutual

/-- What is true of doubles in two spellings is true of values, which have more marks if one of their
doubles has. -/
theorem marks_textWith (h : Outmarked own other p) (v : Value) :
    marks (v.textWith own) + (v.anyDouble p).toNat ≤ marks (v.textWith other) := by
  match v with
  | null | bool _ | int _ | str _ => exact Nat.le_refl _
  | float x => exact h x
  | list items =>
    have hitems := marks_itemTexts h items
    rw [textWith, textWith, marks_append, marks_append, marks_cons, marks_cons _ ([','].intercalate _),
      marks_intercalate, marks_intercalate, anyDouble]
    omega
  | object fields =>
    have hfields := marks_fieldTexts h fields
    rw [textWith, textWith, marks_append, marks_append, marks_cons, marks_cons _ ([','].intercalate _),
      marks_intercalate, marks_intercalate, anyDouble]
    omega

theorem marks_itemTexts (h : Outmarked own other p) (items : List Value) :
    ((itemTexts own items).map marks).sum + (anyDoubleInItems p items).toNat ≤
      ((itemTexts other items).map marks).sum := by
  match items with
  | [] => exact Nat.le_refl _
  | v :: rest =>
    have hv := marks_textWith h v
    have hrest := marks_itemTexts h rest
    have hor := toNat_or_le (v.anyDouble p) (anyDoubleInItems p rest)
    rw [itemTexts, itemTexts, List.map_cons, List.map_cons, List.sum_cons, List.sum_cons,
      anyDoubleInItems]
    omega

theorem marks_fieldTexts (h : Outmarked own other p) (fields : List (String × Value)) :
    ((fieldTexts own fields).map marks).sum + (anyDoubleInFields p fields).toNat ≤
      ((fieldTexts other fields).map marks).sum := by
  match fields with
  | [] => exact Nat.le_refl _
  | (k, v) :: rest =>
    have hv := marks_textWith h v
    have hrest := marks_fieldTexts h rest
    have hor := toNat_or_le (v.anyDouble p) (anyDoubleInFields p rest)
    rw [fieldTexts, fieldTexts, List.map_cons, List.map_cons, List.sum_cons, List.sum_cons,
      anyDoubleInFields, marks_append, marks_append, marks_cons, marks_cons _ (textWith other v)]
    omega

end

mutual

/-- Doubles that are spelled alike leave the text of a value alike. -/
theorem textWith_congr (h : ∀ x, p x = false → own x = other x) (v : Value)
    (hv : v.anyDouble p = false) : v.textWith own = v.textWith other := by
  match v with
  | null | bool _ | int _ | str _ => rfl
  | float x => exact h x hv
  | list items => rw [textWith, textWith, itemTexts_congr h items hv]
  | object fields => rw [textWith, textWith, fieldTexts_congr h fields hv]

theorem itemTexts_congr (h : ∀ x, p x = false → own x = other x) (items : List Value)
    (hitems : anyDoubleInItems p items = false) : itemTexts own items = itemTexts other items := by
  match items with
  | [] => rfl
  | v :: rest =>
    obtain ⟨hv, hrest⟩ := Bool.or_eq_false_iff.mp hitems
    rw [itemTexts, itemTexts, textWith_congr h v hv, itemTexts_congr h rest hrest]

theorem fieldTexts_congr (h : ∀ x, p x = false → own x = other x) (fields : List (String × Value))
    (hfields : anyDoubleInFields p fields = false) :
    fieldTexts own fields = fieldTexts other fields := by
  match fields with
  | [] => rfl
  | (k, v) :: rest =>
    obtain ⟨hv, hrest⟩ := Bool.or_eq_false_iff.mp hfields
    rw [fieldTexts, fieldTexts, textWith_congr h v hv, fieldTexts_congr h rest hrest]

end

end Value

/-! ### Two spellings of a double -/

namespace Decimal

open Value (marks marks_cons marks_append marks_pos)

/-- Whether a double is spelled differently in JSON text and on its own: it is a whole number, or
none at all. -/
def isRespelled (x : Float) : Bool := !isFinite x || (toInt? x).isSome

theorem isRespelled_eq_false_iff {x : Float} :
    isRespelled x = false ↔ isFinite x = true ∧ toInt? x = none := by
  simp [isRespelled]

theorem marks_natChars (n : Nat) : marks (natChars n) = 0 := by
  refine List.countP_eq_zero.mpr fun c hc hmark => ?_
  have hdigit : c.isDigit = true := Nat.isDigit_of_mem_toDigits (by decide) (by decide) hc
  have hno : ∀ c ∈ ['.', 'e', 'N', 'y'], c.isDigit = false := by simp
  rw [hno c (of_decide_eq_true hmark)] at hdigit
  cases hdigit

theorem marks_intChars (n : Int) : marks (intChars n) = 0 := by
  rw [intChars_eq]
  split
  · rw [marks_cons, marks_natChars]
    rfl
  · exact marks_natChars _

variable {l : Layout}

/-- Where zeros are kept behind the point, digits are placed with a point or an exponent. -/
theorem marks_placeDigits {ds : List Char} (hds : ds ≠ []) (hl : l.keepZero = true) (e : Int) :
    0 < marks (placeDigits l ds e) := by
  have hpoint : '.' ∈ ['.', 'e', 'N', 'y'] := by decide
  unfold placeDigits
  split
  · cases e with
    | ofNat k =>
      simp only
      split
      · exact marks_pos (List.mem_append_right _ (List.mem_cons_self ..)) hpoint
      · exact marks_pos (List.mem_append_right _ (List.mem_cons_self ..)) hpoint
    | negSucc k => exact marks_pos (by simp) hpoint
  · obtain ⟨digit, rest, rfl⟩ := List.exists_cons_of_ne_nil hds
    cases rest with
    | nil => exact marks_pos (c := 'e') (by simp [exponentChars]) (by decide)
    | cons second rest => exact marks_pos (by simp) hpoint

theorem marks_write (hl : l.keepZero = true) {x : Float} (hx : isFinite x = true) :
    0 < marks (write l x) := by
  obtain ⟨d, hd⟩ := Option.isSome_iff_exists.mp hx
  by_cases hm : d.mantissa = 0
  · unfold write
    rw [hd]
    simp only [if_pos hm, if_pos hl]
    split <;> decide +kernel
  · have hpos : 0 < (shortest d.mantissa d.exponent).coefficient :=
      coefficient_shortest_pos (Nat.pos_of_ne_zero hm) _
    have hplaced : 0 < marks (placeDigits l (dropEndZeros d.digits) d.place) :=
      marks_placeDigits (dropEndZeros_natChars_ne_nil hpos) hl _
    rw [write_eq l hd hm]
    split
    · rw [marks_cons]
      omega
    · exact hplaced

/-- What a message shows of a double. -/
def shownChars (x : Float) : List Char := (Value.float x).render.toList

theorem shownChars_whole {x : Float} {n : Int} (h : toInt? x = some n) : shownChars x = intChars n := by
  rw [shownChars, Value.render, h]
  exact String.toList_ofList

theorem shownChars_of_toInt?_eq_none {x : Float} (h : toInt? x = none) :
    shownChars x = write plain x := by
  rw [shownChars, Value.render, h]
  exact String.toList_ofList

theorem shownChars_of_not_respelled {x : Float} (h : isRespelled x = false) :
    shownChars x = write structured x := by
  obtain ⟨hfinite, hn⟩ := isRespelled_eq_false_iff.mp h
  obtain ⟨d, hd⟩ := Option.isSome_iff_exists.mp hfinite
  rw [shownChars_of_toInt?_eq_none hn]
  unfold write
  rw [hd]
  rfl

theorem outmarked_structured : Value.Outmarked shownChars (write structured) isRespelled := by
  intro x
  cases hr : isRespelled x with
  | false => exact Nat.le_of_eq (congrArg marks (shownChars_of_not_respelled hr))
  | true =>
    cases hd : decode? x with
    | none =>
      have hn : toInt? x = none := by rw [toInt?, hd]; rfl
      rw [shownChars_of_toInt?_eq_none hn]
      unfold write
      rw [hd]
      simp only
      split
      · decide
      · split <;> decide
    | some d =>
      have hfinite : isFinite x = true := Option.isSome_iff_exists.mpr ⟨d, hd⟩
      rw [isRespelled, hfinite, Bool.not_true, Bool.false_or] at hr
      obtain ⟨n, hn⟩ := Option.isSome_iff_exists.mp hr
      rw [shownChars_whole hn, marks_intChars]
      exact marks_write rfl hfinite

end Decimal

/-! ### Lists and objects -/

namespace Value

/-- The text of a list or an object is put together from the texts of its parts, with doubles as JSON
spells them: it is the same with doubles as a message shows them just when no double at any depth is
a whole number or none at all. -/
theorem render_assembled (v : Value) (h : (∃ items, v = list items) ∨ ∃ fields, v = object fields) :
    v.render = String.ofList (v.textWith (Decimal.write Decimal.structured)) ∧
      (v.render = String.ofList (v.textWith Decimal.shownChars) ↔
        v.anyDouble Decimal.isRespelled = false) := by
  have hrender : v.render = String.ofList (v.textWith (Decimal.write Decimal.structured)) := by
    obtain ⟨items, rfl⟩ | ⟨fields, rfl⟩ := h <;> exact congrArg String.ofList (write_eq_textWith _)
  refine ⟨hrender, ?_⟩
  rw [hrender]
  constructor
  · intro heq
    have hmarks := marks_textWith Decimal.outmarked_structured v
    rw [String.ofList_injective heq] at hmarks
    cases hv : v.anyDouble Decimal.isRespelled with
    | false => rfl
    | true =>
      rw [hv, Bool.toNat_true] at hmarks
      omega
  · intro hv
    exact congrArg String.ofList
      (textWith_congr (fun _ hx => (Decimal.shownChars_of_not_respelled hx).symm) v hv)

/-- A price with cents and a count stand in an object as they are shown on their own. -/
theorem render_assembled_price :
    let v : Value := object [("price", .list [.float 2.5, .int 3]), ("paid", .bool true)]
    v.render = String.ofList (v.textWith Decimal.shownChars) ∧
      v.render = "\x7b\"price\":[2.5,3],\"paid\":true\x7d" := by
  intro v
  refine ⟨((render_assembled v (.inr ⟨_, rfl⟩)).2).mpr ?_, ?_⟩
  · with_unfolding_all rfl
  · with_unfolding_all rfl

/-- A whole double keeps its point in an object and not on its own. -/
theorem whole_double_respelled :
    (object [("a", .float 1.0)]).render = "\x7b\"a\":1.0\x7d" ∧ (float 1.0).render = "1" ∧
      (object [("a", .float 1.0)]).render ≠
        String.ofList ((object [("a", .float 1.0)]).textWith Decimal.shownChars) := by
  have hrender : (object [("a", .float 1.0)]).render = "\x7b\"a\":1.0\x7d" := by
    with_unfolding_all rfl
  have htext : String.ofList ((object [("a", .float 1.0)]).textWith Decimal.shownChars) =
      "\x7b\"a\":1\x7d" := by
    with_unfolding_all rfl
  refine ⟨hrender, by with_unfolding_all rfl, ?_⟩
  rw [htext, hrender]
  decide

end Value

end ChatFlow
