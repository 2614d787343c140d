import ChatFlow.Node.Settings
import ChatFlow.Proofs.Entries

/-!
# What a form fills

Every field of a form has a value once an object has been read by the form: the one
that stands for it if it is left out, or one of the kind of the field
(`Form.get_of_fill`); for a field with one spelling `Form.get_of_fill_named` says which of
the two, and of what.  In an object that is read as an item of a list the entries that
belong to no field stand beside the fields, and none of them takes the place of a field
whose only spelling is its name (`Filled.object?_eq_some`).
-/

namespace ChatFlow

/-! ### All values -/

section

variable {α β γ : Type} {f : α → Option β} {l : List α} {bs : List β}

/-- There are values for all exactly if there is one for each. -/
theorem allOf_eq_some_iff : allOf f l = some bs ↔ l.map f = bs.map some := by
  induction l generalizing bs with
  | nil => cases bs <;> simp [allOf]
  | cons a rest ih =>
    cases bs with
    | nil =>
      refine iff_of_false (fun h => ?_) (List.cons_ne_nil _ _)
      obtain ⟨b, -, h⟩ := Option.bind_eq_some_iff.mp h
      obtain ⟨bs, -, h⟩ := Option.bind_eq_some_iff.mp h
      cases h
    | cons b bs =>
      rw [List.map_cons, List.map_cons, List.cons_eq_cons, ← ih]
      constructor
      · intro h
        obtain ⟨b', hb, h⟩ := Option.bind_eq_some_iff.mp h
        obtain ⟨bs', hbs, h⟩ := Option.bind_eq_some_iff.mp h
        obtain ⟨rfl, rfl⟩ := List.cons_eq_cons.mp (Option.some.inj h)
        exact ⟨hb, hbs⟩
      · rintro ⟨hb, hbs⟩
        rw [allOf, hb, hbs]
        rfl

theorem allOf_map (f : β → Option γ) (g : α → β) (l : List α) :
    allOf f (l.map g) = allOf (fun a => f (g a)) l := by
  induction l with
  | nil => rfl
  | cons a rest ih => rw [List.map_cons, allOf, allOf, ih]

theorem allOf_of_forall {g : α → β} (h : ∀ a ∈ l, f a = some (g a)) :
    allOf f l = some (l.map g) := by
  rw [allOf_eq_some_iff, List.map_map]
  exact List.map_congr_left h

/-- What is told of each value alone is told of all of them. -/
theorem map_of_allOf {p : β → γ} {q : α → γ} (hf : ∀ a b, f a = some b → p b = q a)
    (h : allOf f l = some bs) : bs.map p = l.map q := by
  induction l generalizing bs with
  | nil =>
    obtain rfl := Option.some.inj h
    rfl
  | cons a rest ih =>
    obtain ⟨b, hb, h⟩ := Option.bind_eq_some_iff.mp h
    obtain ⟨bs', hbs, h⟩ := Option.bind_eq_some_iff.mp h
    obtain rfl := Option.some.inj h
    rw [List.map_cons, List.map_cons, hf a b hb, ih hbs]

theorem mem_of_allOf (h : allOf f l = some bs) {b : β} (hb : b ∈ bs) : ∃ a ∈ l, f a = some b := by
  have hmem : some b ∈ l.map f := allOf_eq_some_iff.mp h ▸ List.mem_map_of_mem hb
  exact List.mem_map.mp hmem

theorem exists_of_allOf (h : allOf f l = some bs) {a : α} (ha : a ∈ l) : ∃ b, f a = some b := by
  have hmem : f a ∈ bs.map some := allOf_eq_some_iff.mp h ▸ List.mem_map_of_mem ha
  obtain ⟨b, -, hb⟩ := List.mem_map.mp hmem
  exact ⟨b, hb.symm⟩

theorem allOf_append {l' : List α} : allOf f (l ++ l') = some bs ↔
    ∃ first last, bs = first ++ last ∧ allOf f l = some first ∧ allOf f l' = some last := by
  simp only [allOf_eq_some_iff, List.map_append]
  constructor
  · intro h
    obtain ⟨first, last, rfl, hfirst, hlast⟩ := List.map_eq_append_iff.mp h.symm
    exact ⟨first, last, rfl, hfirst.symm, hlast.symm⟩
  · rintro ⟨first, last, rfl, hfirst, hlast⟩
    rw [hfirst, hlast, List.map_append]

/-- There are no values for all if there is none for one. -/
theorem allOf_eq_none {a : α} (ha : a ∈ l) (h : f a = none) : allOf f l = none := by
  refine Option.eq_none_iff_forall_ne_some.mpr fun bs hbs => ?_
  obtain ⟨b, hb⟩ := exists_of_allOf hbs ha
  rw [h] at hb
  cases hb

/-- Where there is a value for each, each stands at its place. -/
theorem getElem?_filterMap_of_forall (h : ∀ a ∈ l, ∃ b, f a = some b) (i : Nat) :
    (l.filterMap f)[i]? = l[i]?.bind f := by
  induction l generalizing i with
  | nil => rfl
  | cons a rest ih =>
    obtain ⟨⟨b, hb⟩, hrest⟩ := List.forall_mem_cons.mp h
    rw [List.filterMap_cons_some hb]
    cases i with
    | zero => exact hb.symm
    | succ i => exact ih hrest i

end

/-! ### Readings -/

/-- A reading of a field that is not wrong. -/
def Reading.Right (r : Reading) : Prop := r.value = none → r.spelling = none

theorem Reading.wrong_cons_isEmpty {r : Reading} {rows : List Reading}
    (h : (wrong (r :: rows)).isEmpty = true) : r.Right ∧ (wrong rows).isEmpty = true := by
  have hnil : wrong (r :: rows) = [] := List.isEmpty_iff.mp h
  have hall := List.filterMap_eq_nil_iff.mp hnil
  refine ⟨fun hvalue => ?_, List.isEmpty_iff.mpr (List.filterMap_eq_nil_iff.mpr fun r' hr' => ?_)⟩
  · have hr := hall r List.mem_cons_self
    rw [hvalue] at hr
    exact hr
  · exact hall r' (List.mem_cons_of_mem r hr')

/-- What is read of a field: what stands for it if it is left out, else what its kind makes of the
value that it was found with. -/
inductive FieldKind.Reads (kind : FieldKind) (given : Entries Value) (spellings : List String)
    (default_ : Value) : Value → Prop
  | leftOut (h : spellingIn? given spellings = none) : Reads kind given spellings default_ default_
  | found {spelling : String} {v : Value} (h : spellingIn? given spellings = some spelling)
      (hfit : kind.fit? ((given.find? spelling).getD .null) = some v) :
      Reads kind given spellings default_ v

/-- What is read has the default or a value of the kind. -/
theorem FieldKind.Reads.default_or_fit {kind : FieldKind} {given : Entries Value}
    {spellings : List String} {default_ v : Value} (h : kind.Reads given spellings default_ v) :
    v = default_ ∨ ∃ w, kind.fit? w = some v := by
  cases h with
  | leftOut _ => exact Or.inl rfl
  | found _ hfit => exact Or.inr ⟨_, hfit⟩

/-- A field that was read right has a value. -/
theorem FieldKind.find?_read {form : Form} {given : Entries Value}
    (h : (Reading.wrong (FieldKind.read form given)).isEmpty = true) {name : String}
    {spellings : List String} {kind : FieldKind} {default_ : Value}
    (hfield : Entries.find? form name = some (spellings, kind, default_)) :
    ∃ v, Entries.find?
        ((FieldKind.read form given).map fun r => (r.name, r.value.getD .null)) name = some v ∧
      kind.Reads given spellings default_ v := by
  induction form with
  | nil => cases hfield
  | cons field rest ih =>
    obtain ⟨name', spellings', kind', default'⟩ := field
    rw [Entries.find?_cons] at hfield
    rw [FieldKind.read] at h ⊢
    cases hs : spellingIn? given spellings' with
    | none =>
      simp only [hs] at h ⊢
      obtain ⟨-, hrest⟩ := Reading.wrong_cons_isEmpty h
      rw [List.map_cons, Entries.find?_cons]
      by_cases hname : name' = name
      · rw [if_pos hname] at hfield
        simp only [Option.some.injEq, Prod.mk.injEq] at hfield
        obtain ⟨rfl, rfl, rfl⟩ := hfield
        exact ⟨default', if_pos hname, .leftOut hs⟩
      · rw [if_neg hname] at hfield ⊢
        exact ih hrest hfield
    | some spelling =>
      simp only [hs] at h ⊢
      obtain ⟨hright, hrest⟩ := Reading.wrong_cons_isEmpty h
      rw [List.map_cons, Entries.find?_cons]
      by_cases hname : name' = name
      · rw [if_pos hname] at hfield ⊢
        simp only [Option.some.injEq, Prod.mk.injEq] at hfield
        obtain ⟨rfl, rfl, rfl⟩ := hfield
        cases hfit : FieldKind.fit? kind' ((given.find? spelling).getD .null) with
        | none => exact absurd (hright hfit) (Option.some_ne_none spelling)
        | some v => exact ⟨v, rfl, .found hs hfit⟩
      · rw [if_neg hname] at hfield ⊢
        exact ih hrest hfield

section

variable {form : Form} {config : Entries Value} {f : Filled} {name : String} {kind : FieldKind}
  {default_ : Value}

/-- A field of an object that was read by a form. -/
theorem Form.reads_of_fill (h : form.fill config = .ok f) {spellings : List String}
    (hfield : Entries.find? form name = some (spellings, kind, default_)) :
    kind.Reads (withoutNulls config) spellings default_ (f.get name) := by
  unfold Form.fill at h
  simp only at h
  split at h
  · rename_i hright
    obtain rfl := Except.ok.inj h
    obtain ⟨v, hv, hreads⟩ := FieldKind.find?_read hright hfield
    have hget : (Filled.ofReadings (FieldKind.read form (withoutNulls config))
        (withoutNulls config)).get name = v := congrArg (·.getD .null) hv
    rwa [hget]
  · cases h

/-- A field of an object that was read by a form has its default or a value of its kind. -/
theorem Form.get_of_fill (h : form.fill config = .ok f) {spellings : List String}
    (hfield : Entries.find? form name = some (spellings, kind, default_)) :
    f.get name = default_ ∨ ∃ w, kind.fit? w = some (f.get name) :=
  (reads_of_fill h hfield).default_or_fit

/-- Among entries with different names a null counts as left out. -/
theorem find?_withoutNulls (hn : (Entries.keys config).Nodup) (name : String) :
    (withoutNulls config).find? name = (config.find? name).filter fun v => !v.isNull := by
  induction config with
  | nil => rfl
  | cons e rest ih =>
    obtain ⟨k, v⟩ := e
    obtain ⟨hfresh, hn⟩ := List.nodup_cons.mp hn
    have ih := ih hn
    unfold withoutNulls at ih ⊢
    rw [Entries.find?_cons]
    by_cases hk : k = name
    · subst hk
      rw [Entries.find?_eq_none hfresh, Option.filter_none] at ih
      cases hnull : v.isNull with
      | true => simpa [hnull, Option.filter_some] using ih
      | false => simp [hnull, Option.filter_some, Entries.find?_cons]
    · cases hnull : v.isNull with
      | true => simpa [hnull, hk] using ih
      | false => simpa [hnull, hk, Entries.find?_cons] using ih

/-- A field whose only spelling is its name has its default if this name is missing or null, and
else what its kind makes of what stands under the name. -/
theorem Form.get_of_fill_named (h : form.fill config = .ok f)
    (hfield : Entries.find? form name = some ([name], kind, default_))
    (hn : (Entries.keys config).Nodup) :
    ((Value.ofOption (config.find? name)).isNull = true ∧ f.get name = default_) ∨
      ((Value.ofOption (config.find? name)).isNull = false ∧
        kind.fit? (Value.ofOption (config.find? name)) = some (f.get name)) := by
  have hreads := reads_of_fill h hfield
  have hgiven := find?_withoutNulls hn name
  have hspelling : spellingIn? (withoutNulls config) [name] =
      if ((withoutNulls config).find? name).isSome then some name else none := by
    cases hhas : (withoutNulls config).find? name <;>
      simp [spellingIn?, Entries.has, hhas]
  rw [hgiven] at hspelling
  cases hv : config.find? name with
  | none =>
    rw [hv] at hspelling
    cases hreads with
    | leftOut _ => exact Or.inl ⟨rfl, rfl⟩
    | found hs _ => exact nomatch hspelling.symm.trans hs
  | some v =>
    rw [hv, Option.filter_some] at hgiven hspelling
    cases hnull : v.isNull with
    | true =>
      rw [hnull] at hspelling
      cases hreads with
      | leftOut _ => exact Or.inl ⟨hnull, rfl⟩
      | found hs _ => exact nomatch hspelling.symm.trans hs
    | false =>
      rw [hnull] at hspelling hgiven
      cases hreads with
      | leftOut hs => exact nomatch hspelling.symm.trans hs
      | found hs hfit =>
        obtain rfl := Option.some.inj (hspelling.symm.trans hs)
        rw [hgiven] at hfit
        exact Or.inr ⟨hnull, hfit⟩

end

/-- Of two spellings the first one counts where both are found. -/
theorem find?_spellingIn? {given : Entries Value} {a b : String} :
    (spellingIn? given [a, b]).bind given.find? = (given.find? a).or (given.find? b) := by
  cases ha : given.find? a with
  | some v => simp [spellingIn?, Entries.has, ha]
  | none =>
    cases hb : given.find? b with
    | some v => simp [spellingIn?, Entries.has, ha, hb]
    | none => simp [spellingIn?, Entries.has, ha, hb]

/-! ### Objects as items -/

/-- A field whose only spelling is its name is read under that name. -/
theorem FieldKind.mem_spellings {form : Form} {given : Entries Value} {name : String}
    {kind : FieldKind} {default_ : Value}
    (hfield : Entries.find? form name = some ([name], kind, default_))
    (hgiven : given.has name = true) :
    name ∈ (FieldKind.read form given).filterMap Reading.spelling := by
  induction form with
  | nil => cases hfield
  | cons field rest ih =>
    obtain ⟨name', spellings', kind', default'⟩ := field
    rw [Entries.find?_cons] at hfield
    rw [FieldKind.read]
    by_cases hname : name' = name
    · rw [if_pos hname] at hfield
      obtain rfl : spellings' = [name] := congrArg (·.1) (Option.some.inj hfield)
      have hspelling : spellingIn? given [name] = some name := List.find?_cons_of_pos hgiven
      simp only [hspelling]
      exact List.mem_cons_self
    · rw [if_neg hname] at hfield
      obtain ⟨r, hr, hspelling⟩ := List.mem_filterMap.mp (ih hfield)
      exact List.mem_filterMap.mpr ⟨r, List.mem_cons_of_mem _ hr, hspelling⟩

/-- What is made of an object by a form has its fields. -/
theorem Filled.object?_eq_some {form : Form} {v w : Value}
    (h : Filled.object? (FieldKind.read form) v = some w) {name : String} {kind : FieldKind}
    {default_ : Value} (hfield : Entries.find? form name = some ([name], kind, default_)) :
    ∃ x, w.fields.find? name = some x ∧ (x = default_ ∨ ∃ y, kind.fit? y = some x) := by
  cases v with
  | object given =>
    simp only [Filled.object?] at h
    split at h
    · rename_i hright
      obtain rfl := Option.some.inj h
      obtain ⟨x, hx, hreads⟩ := FieldKind.find?_read hright hfield
      refine ⟨x, ?_, hreads.default_or_fit⟩
      refine (Entries.find?_merge_of_forall_ne fun e he => ?_).trans hx
      obtain ⟨hgiven, hextra⟩ := List.mem_filter.mp he
      rintro rfl
      have hhas : Entries.has (withoutNulls given) e.1 = true := by
        obtain ⟨value, hvalue⟩ := Entries.find?_isSome_of_mem hgiven
        rw [Entries.has, hvalue]
        rfl
      have hread := FieldKind.mem_spellings hfield hhas
      simp [hread] at hextra
    · cases h
  | _ => cases h

theorem Filled.exists_fill_of_object? {form : Form} {v w : Value}
    (h : Filled.object? (FieldKind.read form) v = some w) :
    v.isObject = true ∧ ∃ f, form.fill v.fields = .ok f := by
  cases v with
  | object given =>
    simp only [Filled.object?] at h
    split at h
    · rename_i hright
      exact ⟨rfl, _, if_pos hright⟩
    · cases h
  | _ => cases h

/-- A list of objects is read by reading each of them by the form. -/
theorem FieldKind.exists_of_fit?_nested {form : Form} {v w : Value}
    (h : (FieldKind.nested form).fit? v = some w) : ∃ items, v = .list items ∧
      ∀ item ∈ items, item.isObject = true ∧ ∃ f, form.fill item.fields = .ok f := by
  cases v with
  | list items =>
    rw [FieldKind.fit?] at h
    obtain ⟨read, hread, -⟩ := Option.map_eq_some_iff.mp h
    refine ⟨items, rfl, fun item hitem => ?_⟩
    obtain ⟨w, hw⟩ := exists_of_allOf hread hitem
    exact Filled.exists_fill_of_object? hw
  | _ => cases h

/-- The settings of a node are read by the form of its type. -/
theorem Node.fill_of_filled {n : Node} {f : Filled} (h : n.filled = .ok f) :
    (formOfType n.type).fill n.config = .ok f := by
  unfold Node.filled at h
  split at h
  · rename_i f' hf'
    obtain rfl := Except.ok.inj h
    exact hf'
  · cases h

/-- A value of a text field is a text. -/
theorem FieldKind.exists_of_fit?_text {v w : Value} (h : FieldKind.text.fit? v = some w) :
    ∃ s, w = .str s := by
  rw [FieldKind.fit?] at h
  obtain ⟨s, -, rfl⟩ := Option.map_eq_some_iff.mp h
  exact ⟨s, rfl⟩

end ChatFlow
