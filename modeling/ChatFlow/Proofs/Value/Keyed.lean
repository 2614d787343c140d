import ChatFlow.Json.Reader
import ChatFlow.Proofs.Entries
import ChatFlow.Variables.Scope

/-!
# Values whose fields have different names

An object has one field of each name: the reader of JSON text writes a field whose name is
known in the place of the earlier one.  `Value.Keyed` says so of a value and of all objects
that a path can descend to in it, `Value.isTidy` of all objects in it, also of those in
lists, and `Json.tidy_of_parse?` that every value read from a text is of this kind.
-/

namespace ChatFlow

namespace Value

/-- Every object that is reached from a value through fields has fields of this kind. -/
def Within (p : Entries Value → Prop) (v : Value) : Prop :=
  ∀ names fields, Scope.descend v names = some (.object fields) → p fields

/-- The fields of every object have different names. -/
def Keyed : Value → Prop := Within fun fields => (Entries.keys fields).Nodup

/-- No name of a field has a dot. -/
def Dotless : Value → Prop := Within fun fields => ∀ name ∈ Entries.keys fields, '.' ∉ name.toList

variable {p : Entries Value → Prop} {v : Value}

theorem Within.fields {fields : Entries Value} (h : (object fields).Within p) : p fields :=
  h [] fields rfl

theorem Within.field {name : String} {w : Value} (h : v.Within p) (hw : v.field? name = some w) :
    w.Within p := by
  intro names fields hfields
  refine h (name :: names) fields ?_
  rw [Scope.descend, hw]
  exact hfields

theorem within_object {fields : Entries Value} (h : p fields) (hall : ∀ e ∈ fields, e.2.Within p) :
    (object fields).Within p := by
  intro names reached hreached
  cases names with
  | nil =>
    obtain rfl := Value.object.inj (Option.some.inj hreached)
    exact h
  | cons name names =>
    obtain ⟨w, hw, hrest⟩ := Option.bind_eq_some_iff.mp hreached
    exact hall _ (Entries.mem_of_find? hw) names reached hrest

/-- From a value that is no object no object is reached. -/
theorem within_of_not_isObject (h : v.isObject = false) : v.Within p := by
  intro names fields hfields
  cases names with
  | nil =>
    obtain rfl := Option.some.inj hfields
    cases h
  | cons name names =>
    rw [Scope.descend, field?_of_not_isObject h] at hfields
    cases hfields

/-- The fields of a value, none if it is no object, have different names. -/
theorem Keyed.nodup (h : v.Keyed) : (Entries.keys v.fields).Nodup := by
  cases v with
  | object fields => exact Within.fields h
  | _ => exact List.nodup_nil

theorem find?_fields (v : Value) (name : String) : Entries.find? v.fields name = v.field? name := by
  cases v <;> rfl

/-- Where the fields have different names, a field stands under its name. -/
theorem Keyed.mem_fields_iff {name : String} {w : Value} (h : v.Keyed) :
    (name, w) ∈ v.fields ↔ v.field? name = some w := by
  rw [← find?_fields, Entries.find?_eq_some_iff_mem h.nodup]

mutual

/-- Whether the fields of every object in a value, at any depth, have different names. -/
def isTidy : Value → Bool
  | list items => areTidy items
  | object fields => decide (Entries.keys fields).Nodup && areTidyFields fields
  | _ => true

/-- Whether all of these values are tidy. -/
def areTidy : List Value → Bool
  | [] => true
  | v :: rest => v.isTidy && areTidy rest

/-- Whether the values of all of these fields are tidy. -/
def areTidyFields : List (String × Value) → Bool
  | [] => true
  | (_, v) :: rest => v.isTidy && areTidyFields rest

end

theorem areTidy_iff {items : List Value} : areTidy items = true ↔ ∀ v ∈ items, v.isTidy = true := by
  induction items with
  | nil => simp [areTidy]
  | cons v rest ih => simp [areTidy, ih]

theorem areTidyFields_iff {fields : Entries Value} :
    areTidyFields fields = true ↔ ∀ e ∈ fields, e.2.isTidy = true := by
  induction fields with
  | nil => simp [areTidyFields]
  | cons e rest ih =>
    obtain ⟨k, v⟩ := e
    rw [areTidyFields, Bool.and_eq_true, ih, List.forall_mem_cons]

theorem isTidy_list {items : List Value} :
    (list items).isTidy = true ↔ ∀ v ∈ items, v.isTidy = true := by
  rw [isTidy, areTidy_iff]

theorem isTidy_object {fields : Entries Value} : (object fields).isTidy = true ↔
    (Entries.keys fields).Nodup ∧ ∀ e ∈ fields, e.2.isTidy = true := by
  rw [isTidy, Bool.and_eq_true, decide_eq_true_iff, areTidyFields_iff]

theorem isTidy_of_field? {name : String} {w : Value} (h : v.isTidy = true)
    (hw : v.field? name = some w) : w.isTidy = true := by
  cases v with
  | object fields => exact (isTidy_object.mp h).2 _ (Entries.mem_of_find? hw)
  | _ => cases hw

theorem isTidy_filter {fields : Entries Value} (h : (object fields).isTidy = true)
    (keep : String × Value → Bool) : (object (fields.filter keep)).isTidy = true := by
  obtain ⟨hn, hall⟩ := isTidy_object.mp h
  exact isTidy_object.mpr ⟨Entries.nodup_keys_filter hn keep,
    fun e he => hall e (List.mem_filter.mp he).1⟩

/-- What a path descends to in a tidy value is tidy. -/
theorem keyed_of_isTidy (h : v.isTidy = true) : v.Keyed := by
  intro names
  induction names generalizing v with
  | nil =>
    intro fields hfields
    obtain rfl := Option.some.inj hfields
    exact (isTidy_object.mp h).1
  | cons name names ih =>
    intro fields hfields
    obtain ⟨w, hw, hrest⟩ := Option.bind_eq_some_iff.mp hfields
    exact ih (isTidy_of_field? h hw) fields hrest

end Value

namespace Json

open Value

theorem tidy_of_readWord? {word : String} {v w : Value} {s rest : List Char}
    (hv : v.isTidy = true) (h : readWord? word v s = some (w, rest)) : w.isTidy = true := by
  unfold readWord? at h
  split at h
  · obtain ⟨rfl, -⟩ := Prod.mk.inj (Option.some.inj h)
    exact hv
  · cases h

theorem tidy_of_readNumber? {negative : Bool} {w : Value} {s rest : List Char}
    (h : readNumber? negative s = some (w, rest)) : w.isTidy = true := by
  obtain ⟨⟨whole, s'⟩, -, h⟩ := Option.bind_eq_some_iff.mp h
  dsimp only at h
  split at h
  · split at h
    · cases h
    · obtain ⟨rfl, -⟩ := Prod.mk.inj (Option.some.inj h)
      rfl
  · obtain ⟨rfl, -⟩ := Prod.mk.inj (Option.some.inj h)
    rfl

theorem tidy_of_readScalar? {w : Value} {s rest : List Char}
    (h : readScalar? s = some (w, rest)) : w.isTidy = true := by
  unfold readScalar? at h
  split at h
  · cases h
  all_goals first
    | exact tidy_of_readWord? rfl h
    | exact tidy_of_readNumber? h

/-- Fields that have been read so far. -/
structure Gathered (fields : Entries Value) : Prop where
  nodup : (Entries.keys fields).Nodup
  tidy : ∀ e ∈ fields, e.2.isTidy = true

theorem Gathered.put {fields : Entries Value} (h : Gathered fields) (name : String) {v : Value}
    (hv : v.isTidy = true) : Gathered (fields.put name v) where
  nodup := Entries.nodup_keys_put h.nodup v
  tidy e he := by
    rcases Entries.mem_put he with rfl | he
    · exact hv
    · exact h.tidy e he

theorem Gathered.object {fields : Entries Value} (h : Gathered fields) :
    (Value.object fields).isTidy = true := isTidy_object.mpr ⟨h.nodup, h.tidy⟩

/-- The three readers hand the fuel down to each other, so this is one induction. -/
theorem tidy_of_read (fuel : Nat) :
    (∀ s v rest, readValue? fuel s = some (v, rest) → v.isTidy = true) ∧
      (∀ items s v rest, (∀ w ∈ items, w.isTidy = true) →
        readItems? fuel items s = some (v, rest) → v.isTidy = true) ∧
      ∀ fields s v rest, Gathered fields → readFields? fuel fields s = some (v, rest) →
        v.isTidy = true := by
  induction fuel with
  | zero =>
    exact ⟨fun _ _ _ h => (nomatch h), fun _ _ _ _ _ h => (nomatch h),
      fun _ _ _ _ _ h => (nomatch h)⟩
  | succ fuel ih =>
    obtain ⟨ihValue, ihItems, ihFields⟩ := ih
    refine ⟨?_, ?_, ?_⟩
    · intro s v rest h
      unfold readValue? at h
      split at h
      · obtain ⟨p, -, hp⟩ := Option.map_eq_some_iff.mp h
        obtain ⟨rfl, -⟩ := Prod.mk.inj hp
        rfl
      · split at h
        · obtain ⟨rfl, -⟩ := Prod.mk.inj (Option.some.inj h)
          rfl
        · exact ihItems _ _ _ _ (List.forall_mem_nil _) h
      · have hnone : Gathered [] := ⟨List.nodup_nil, fun _ he => nomatch he⟩
        split at h
        · obtain ⟨rfl, -⟩ := Prod.mk.inj (Option.some.inj h)
          exact hnone.object
        · exact ihFields _ _ _ _ hnone h
      · exact tidy_of_readScalar? h
    · intro items s v rest hitems h
      unfold readItems? at h
      split at h
      · cases h
      · rename_i w _ hw
        have hcons : ∀ w' ∈ w :: items, w'.isTidy = true :=
          List.forall_mem_cons.mpr ⟨ihValue _ _ _ hw, hitems⟩
        split at h
        · exact ihItems _ _ _ _ hcons h
        · obtain ⟨rfl, -⟩ := Prod.mk.inj (Option.some.inj h)
          exact isTidy_list.mpr fun w' hw' => hcons w' (List.mem_reverse.mp hw')
        · cases h
    · intro fields s v rest hfields h
      unfold readFields? at h
      split at h
      · split at h
        · cases h
        · rename_i key _ _
          split at h
          · split at h
            · cases h
            · rename_i w _ hw
              have hput : Gathered (fields.put key w) := hfields.put key (ihValue _ _ _ hw)
              split at h
              · exact ihFields _ _ _ _ hput h
              · obtain ⟨rfl, -⟩ := Prod.mk.inj (Option.some.inj h)
                exact hput.object
              · cases h
          · cases h
      · cases h

/-- In a value that is read from a text all objects have fields with different names. -/
theorem tidy_of_parse? {s : String} {v : Value} (h : parse? s = some v) : v.isTidy = true := by
  unfold parse? at h
  dsimp only at h
  split at h
  · rename_i hread
    split at h
    · obtain rfl := Option.some.inj h
      exact (tidy_of_read _).1 _ _ _ hread
    · cases h
  · cases h

theorem keyed_of_parse? {s : String} {v : Value} (h : parse? s = some v) : v.Keyed :=
  keyed_of_isTidy (tidy_of_parse? h)

end Json

end ChatFlow
