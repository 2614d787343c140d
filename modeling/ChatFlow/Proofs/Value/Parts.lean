import ChatFlow.Value.Fields

/-!
# The parts of a value

What others send is asked for its parts step by step, and a step fails where a value
of another kind stands.  `part` and `head` are the same steps without failures: what
is not there is null.  `isOpen` and `isRow` say where the steps with failures do not
fail: a part that is absent counts as empty, but what is present has to be an object,
or a list or a text.
-/

namespace ChatFlow

/-- Steps lead to a value if the first leads to one from which the others lead to it. -/
theorem bind_eq_ok_iff {ε α β : Type} {x : Except ε α} {f : α → Except ε β} {b : β} :
    (x >>= f) = .ok b ↔ ∃ a, x = .ok a ∧ f a = .ok b := by
  cases x with
  | error e =>
    constructor
    · intro h
      cases h
    · rintro ⟨a, h, -⟩
      cases h
  | ok a =>
    constructor
    · exact fun h => ⟨a, rfl, h⟩
    · rintro ⟨a', h, hb⟩
      obtain rfl := Except.ok.inj h
      exact hb

theorem pure_eq_ok_iff {ε α : Type} {a b : α} : (pure a : Except ε α) = .ok b ↔ b = a :=
  ⟨fun h => (Except.ok.inj h).symm, fun h => congrArg Except.ok h.symm⟩

theorem map_eq_ok_iff {ε α β : Type} {x : Except ε α} {g : α → β} {b : β} :
    x.map g = .ok b ↔ ∃ a, x = .ok a ∧ g a = b := by
  cases x with
  | error e =>
    refine iff_of_false (fun h => nomatch h) ?_
    rintro ⟨a, h, -⟩
    cases h
  | ok a => exact ⟨fun h => ⟨a, rfl, Except.ok.inj h⟩,
      fun ⟨a', h, hb⟩ => congrArg Except.ok (Except.ok.inj h ▸ hb)⟩

/-- Steps have a value if the first has one, and with it the others. -/
theorem exists_ok_bind_iff {ε α β : Type} {x : Except ε α} {f : α → Except ε β} :
    (∃ b, (x >>= f) = .ok b) ↔ ∃ a, x = .ok a ∧ ∃ b, f a = .ok b := by
  simp only [bind_eq_ok_iff]
  constructor
  · rintro ⟨b, a, ha, hb⟩
    exact ⟨a, ha, b, hb⟩
  · rintro ⟨a, ha, b, hb⟩
    exact ⟨b, a, ha, hb⟩

theorem exists_error_iff {ε α : Type} {x : Except ε α} :
    (∃ e, x = .error e) ↔ ¬ ∃ a, x = .ok a := by
  cases x with
  | error e =>
    refine iff_of_true ⟨e, rfl⟩ ?_
    rintro ⟨a, h⟩
    cases h
  | ok a =>
    refine iff_of_false ?_ fun h => h ⟨a, rfl⟩
    rintro ⟨e, h⟩
    cases h

namespace Value

/-- What stands under a name, null if nothing does. -/
def part (v : Value) (name : String) : Value := ofOption (v.field? name)

/-- The first item of a list, null if there is none. -/
def head : Value → Value
  | list (v :: _) => v
  | _ => null

/-- Whether a value can be asked for its parts, an absent one having none. -/
def isOpen (v : Value) : Bool := v.isObject || !v.truthy

/-- Whether a value can be asked for its first item, an absent one having none. -/
def isRow : Value → Bool
  | list _ | str _ => true
  | v => !v.truthy

/-- Whether a value is a text. -/
def isText (v : Value) : Bool := v.text?.isSome

theorem getD_null (v : Option Value) : v.getD .null = ofOption v := by
  cases v <;> rfl

variable {v : Value}

theorem exists_of_isObject (h : v.isObject = true) : ∃ fs, v = object fs := by
  cases v with
  | object fs => exact ⟨fs, rfl⟩
  | _ => cases h

theorem get_object (fs : Entries Value) (name : String) :
    (object fs).get name = .ok ((object fs).part name) := rfl

theorem get_eq_ok_iff {name : String} {w : Value} :
    v.get name = .ok w ↔ v.isObject = true ∧ w = v.part name := by
  cases v with
  | object fs => simp [get_object, isObject, eq_comm]
  | _ => simp [get, isObject]

theorem get_of_isObject (h : v.isObject = true) (name : String) : v.get name = .ok (v.part name) := by
  cases v with
  | object fs => rfl
  | _ => cases h

theorem get_error_of_not_isObject (h : v.isObject = false) (name : String) :
    v.get name = .error (.noField v.kindName "get") := by
  cases v with
  | object fs => cases h
  | _ => rfl

/-- A value that is not present has no parts. -/
theorem part_of_not_truthy (h : v.truthy = false) (name : String) : v.part name = null := by
  cases v with
  | object fs =>
    have hfs : fs = [] := by simpa [truthy] using h
    subst hfs
    rfl
  | _ => rfl

theorem isOpen_of_not_truthy (h : v.truthy = false) : v.isOpen = true := by
  simp [isOpen, h]

theorem isRow_of_not_truthy (h : v.truthy = false) : v.isRow = true := by
  cases v with
  | list items => rfl
  | str s => rfl
  | _ => simp [isRow, h]

theorem isOpen_iff_of_truthy (h : v.truthy = true) : v.isOpen = v.isObject := by
  simp [isOpen, h]

theorem orObject_of_truthy (h : v.truthy = true) : v.orObject = v := by
  simp [orObject, orElse, h]

theorem orObject_of_not_truthy (h : v.truthy = false) : v.orObject = object [] := by
  simp [orObject, orElse, h]

/-- A part that may be absent counts as an object unless something else is present. -/
theorem isObject_orObject : v.orObject.isObject = v.isOpen := by
  cases h : v.truthy with
  | false => rw [orObject_of_not_truthy h, isOpen_of_not_truthy h, isObject_object]
  | true => rw [orObject_of_truthy h, isOpen_iff_of_truthy h]

/-- A part that may be absent is asked for a part of its own. -/
theorem orObject_get_of_isOpen (h : v.isOpen = true) (name : String) :
    v.orObject.get name = .ok (v.part name) := by
  cases ht : v.truthy with
  | false =>
    rw [orObject_of_not_truthy ht, part_of_not_truthy ht]
    rfl
  | true =>
    rw [orObject_of_truthy ht]
    exact get_of_isObject (isOpen_iff_of_truthy ht ▸ h) name

theorem orObject_get_eq_ok_iff {name : String} {w : Value} :
    v.orObject.get name = .ok w ↔ v.isOpen = true ∧ w = v.part name := by
  cases h : v.isOpen with
  | true => simp [orObject_get_of_isOpen h, eq_comm]
  | false =>
    have ht : v.truthy = true := by
      cases ht : v.truthy with
      | true => rfl
      | false => rw [isOpen_of_not_truthy ht] at h; cases h
    rw [orObject_of_truthy ht, get_error_of_not_isObject (isOpen_iff_of_truthy ht ▸ h)]
    simp

/-- Of what is present the first item can be had if it is a list or a text. -/
theorem exists_first_iff (ht : v.truthy = true) : (∃ w, v.first = .ok w) ↔ v.isRow = true := by
  cases v with
  | list items =>
    cases items with
    | nil => cases ht
    | cons item rest => exact iff_of_true ⟨item, rfl⟩ rfl
  | str s =>
    cases hs : s.toList with
    | nil =>
      have he : s = "" := String.toList_injective hs
      simp [truthy, he] at ht
    | cons c rest => exact iff_of_true ⟨str (String.singleton c), by simp only [first, hs]⟩ rfl
  | null => cases ht
  | bool b => simp [first, isRow, ht]
  | int n => simp [first, isRow, ht]
  | float x => simp [first, isRow, ht]
  | object fs => simp [first, isRow, ht]

/-- A value that is not present has no first item. -/
theorem head_of_not_truthy (h : v.truthy = false) : v.head = null := by
  cases v with
  | list items =>
    have hitems : items = [] := by simpa [truthy] using h
    subst hitems
    rfl
  | _ => rfl

/-- Only a first item in a list has parts. -/
theorem part_head_of_first {w : Value} (h : v.first = .ok w) (name : String) :
    v.head.part name = w.part name := by
  cases v with
  | list items =>
    cases items with
    | nil => cases h
    | cons item rest =>
      obtain rfl := Except.ok.inj h
      rfl
  | str s =>
    simp only [first] at h
    split at h
    · obtain rfl := Except.ok.inj h
      rfl
    · cases h
  | _ => cases h

/-- The first item of a value is an object only in a list. -/
theorem first_eq_object_iff {fs : Entries Value} :
    v.first = .ok (object fs) ↔ v.head = object fs := by
  cases v with
  | list items => cases items <;> simp [first, head]
  | str s => cases hs : s.toList <;> simp [first, head, hs]
  | _ => simp [first, head]

/-- Going on with a field is going on with the part, where there is nothing to be had from null. -/
theorem field?_bind {α : Type} {f : Value → Option α} (hf : f .null = none) (v : Value)
    (name : String) : (v.field? name).bind f = f (v.part name) := by
  unfold part
  cases v.field? name with
  | none => exact hf.symm
  | some v => rfl

/-- A field of the first item is a field of the first item of the list. -/
theorem first_bind_field? (v : Value) (name : String) :
    (v.first.toOption.bind fun w => w.field? name) = v.head.field? name := by
  cases v with
  | list items => cases items <;> rfl
  | str s => cases hs : s.toList <;> simp [first, hs, head, field?, Except.toOption]
  | _ => rfl

end Value

end ChatFlow
