import ChatFlow.Proofs.Expression.Bounded
import ChatFlow.Proofs.Value.Keyed

/-!
# Values through an expression

A value goes into an expression as a datum, and a datum comes out as a value.  `Mirrors` says what
goes in: the same value part for part, each part of the same kind and given, and the names of
fields as texts.  This is exactly what `ofValue` makes of a value (`ofValue_eq_ok_iff`), and from it
a tidy value comes out again (`Mirrors.toValue_eq`).  So what an expression passes on unchanged
comes back as it went in (`bounded_value_comes_back`).
-/

namespace ChatFlow

open Expression Value

namespace Expression.Datum

mutual

/-- A datum is a value of a run part for part, each part being of the same kind and given. -/
inductive Mirrors : Datum → Value → Prop
  | null : Mirrors .null .null
  | bool (b : Bool) : Mirrors (.bool b) (.bool b)
  | int {n : Int} (h : fits n = true) : Mirrors (.int n .given) (.int n)
  | double (x : Float) : Mirrors (.double x .given) (.float x)
  | text (s : String) : Mirrors (.text s .given) (.str s)
  | list {ds : List Datum} {items : List Value} (h : MirrorsItems ds items) :
      Mirrors (.list ds .given) (.list items)
  | map {es : List (Datum × Datum)} {fields : Entries Value} (h : MirrorsFields es fields) :
      Mirrors (.map es) (.object fields)

/-- Data are the items of a list one by one. -/
inductive MirrorsItems : List Datum → List Value → Prop
  | nil : MirrorsItems [] []
  | cons {d : Datum} {v : Value} {ds : List Datum} {items : List Value} (hd : Mirrors d v)
      (h : MirrorsItems ds items) : MirrorsItems (d :: ds) (v :: items)

/-- The entries of a map are fields one by one, every key being the text of a name. -/
inductive MirrorsFields : List (Datum × Datum) → List (String × Value) → Prop
  | nil : MirrorsFields [] []
  | cons (name : String) {d : Datum} {v : Value} {es : List (Datum × Datum)}
      {fields : List (String × Value)} (hd : Mirrors d v) (h : MirrorsFields es fields) :
      MirrorsFields ((.text name .given, d) :: es) ((name, v) :: fields)

end

/-! ### Into an expression -/

theorem fitted_eq_ok_iff {n m : Int} : fitted n = .ok m ↔ fits n = true ∧ m = n := by
  rw [fitted]
  split
  · rename_i h
    exact ⟨fun hm => ⟨h, (Except.ok.inj hm).symm⟩, fun hm => congrArg _ hm.2.symm⟩
  · rename_i h
    exact iff_of_false (fun hm => nomatch hm) fun hm => h hm.1

mutual

/-- What a value becomes is its mirror image, and a value that has one becomes a datum. -/
theorem ofValue_eq_ok_iff {v : Value} {d : Datum} : ofValue v = .ok d ↔ Mirrors d v := by
  match v with
  | .null | .bool _ | .float _ | .str _ =>
    constructor
    · intro h
      obtain rfl := Except.ok.inj h
      constructor
    · rintro ⟨⟩
      rfl
  | .int n =>
    rw [ofValue, map_eq_ok_iff]
    constructor
    · rintro ⟨m, hm, rfl⟩
      obtain ⟨hfits, rfl⟩ := fitted_eq_ok_iff.mp hm
      exact .int hfits
    · intro h
      cases h with
      | int hfits => exact ⟨n, fitted_eq_ok_iff.mpr ⟨hfits, rfl⟩, rfl⟩
  | .list items =>
    rw [ofValue, map_eq_ok_iff]
    constructor
    · rintro ⟨ds, hds, rfl⟩
      exact .list (ofItems_eq_ok_iff.mp hds)
    · intro h
      cases h with
      | list hds => exact ⟨_, ofItems_eq_ok_iff.mpr hds, rfl⟩
  | .object fields =>
    rw [ofValue, map_eq_ok_iff]
    constructor
    · rintro ⟨es, hes, rfl⟩
      exact .map (ofFields_eq_ok_iff.mp hes)
    · intro h
      cases h with
      | map hes => exact ⟨_, ofFields_eq_ok_iff.mpr hes, rfl⟩

theorem ofItems_eq_ok_iff {items : List Value} {ds : List Datum} :
    ofItems items = .ok ds ↔ MirrorsItems ds items := by
  match items with
  | [] =>
    constructor
    · intro h
      obtain rfl := Except.ok.inj h
      exact .nil
    · rintro ⟨⟩
      rfl
  | v :: rest =>
    rw [ofItems]
    simp only [bind_eq_ok_iff, pure_eq_ok_iff]
    constructor
    · rintro ⟨d, hd, ds', hds, rfl⟩
      exact .cons (ofValue_eq_ok_iff.mp hd) (ofItems_eq_ok_iff.mp hds)
    · intro h
      cases h with
      | cons hd hds => exact ⟨_, ofValue_eq_ok_iff.mpr hd, _, ofItems_eq_ok_iff.mpr hds, rfl⟩

theorem ofFields_eq_ok_iff {fields : List (String × Value)} {es : List (Datum × Datum)} :
    ofFields fields = .ok es ↔ MirrorsFields es fields := by
  match fields with
  | [] =>
    constructor
    · intro h
      obtain rfl := Except.ok.inj h
      exact .nil
    · rintro ⟨⟩
      rfl
  | (name, v) :: rest =>
    rw [ofFields]
    simp only [bind_eq_ok_iff, pure_eq_ok_iff]
    constructor
    · rintro ⟨d, hd, es', hes, rfl⟩
      exact .cons name (ofValue_eq_ok_iff.mp hd) (ofFields_eq_ok_iff.mp hes)
    · intro h
      cases h with
      | cons _ hd hes => exact ⟨_, ofValue_eq_ok_iff.mpr hd, _, ofFields_eq_ok_iff.mpr hes, rfl⟩

end

/-! ### And out again -/

mutual

/-- A tidy value is what its mirror image comes out as. -/
theorem Mirrors.toValue_eq {d : Datum} {v : Value} (ht : v.isTidy = true) (h : Mirrors d v) :
    d.toValue = v := by
  match h with
  | .null | .bool _ | .int _ | .double _ | .text _ => rfl
  | .list hitems => rw [toValue, hitems.toItems_eq ht]
  | .map hfields =>
    obtain ⟨hnodup, htidy⟩ := Bool.and_eq_true_iff.mp ht
    rw [toValue, hfields.toFields_eq htidy, Entries.ofPairs,
      Entries.merge_eq_append (of_decide_eq_true hnodup) fun _ _ => List.not_mem_nil, List.nil_append]

theorem MirrorsItems.toItems_eq {ds : List Datum} {items : List Value} (ht : areTidy items = true)
    (h : MirrorsItems ds items) : toItems ds = items := by
  match h with
  | .nil => rfl
  | .cons hd hrest =>
    obtain ⟨hv, htidy⟩ := Bool.and_eq_true_iff.mp ht
    rw [toItems, hd.toValue_eq hv, hrest.toItems_eq htidy]

theorem MirrorsFields.toFields_eq {es : List (Datum × Datum)} {fields : List (String × Value)}
    (ht : areTidyFields fields = true) (h : MirrorsFields es fields) : toFields es = fields := by
  match h with
  | .nil => rfl
  | .cons name hd hrest =>
    obtain ⟨hv, htidy⟩ := Bool.and_eq_true_iff.mp ht
    rw [toFields, hd.toValue_eq hv, hrest.toFields_eq htidy]
    rfl

end

theorem toValue_of_ofValue {v : Value} {d : Datum} (ht : v.isTidy = true) (hd : ofValue v = .ok d) :
    d.toValue = v := (ofValue_eq_ok_iff.mp hd).toValue_eq ht

/-- **A bounded value comes back as it went in.**  A value whose objects have fields with different
names, and in which every whole number fits into 64 bits, becomes the datum with the same parts of the
same kinds, and from this datum the value comes back: truth values, whole and broken numbers and nulls
are what they were, and the fields of an object have their names and their order. -/
theorem bounded_value_comes_back {v : Value} (ht : v.isTidy = true) (hb : v.isBounded = true) :
    ∃ d, ofValue v = .ok d ∧ Mirrors d v ∧ d.toValue = v := by
  obtain ⟨d, hd⟩ := exists_ofValue v hb
  exact ⟨d, hd, ofValue_eq_ok_iff.mp hd, toValue_of_ofValue ht hd⟩

/-- Values that are easily taken for each other, and the least whole number that fits. -/
def lookalikes : Value :=
  .object [("on", .bool true), ("1", .int 1), ("1.0", .float 1), ("none", .null), ("text", .str "1"),
    ("items", .list [.bool false, .int 0, .object [("1", .int (-9223372036854775808))]])]

theorem bounded_value_comes_back_lookalikes :
    lookalikes.isTidy = true ∧ lookalikes.isBounded = true ∧
    ∃ d, ofValue lookalikes = .ok d ∧ Mirrors d lookalikes ∧ d.toValue = lookalikes := by
  have htidy : lookalikes.isTidy = true := by decide
  have hbounded : lookalikes.isBounded = true := by decide
  exact ⟨htidy, hbounded, bounded_value_comes_back htidy hbounded⟩

end Expression.Datum

end ChatFlow
