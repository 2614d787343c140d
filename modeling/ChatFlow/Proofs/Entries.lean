import ChatFlow.Entries

/-!
# What writing entries leaves as it is

A search through the values does not notice that one which it passes is taken out or
gives way to another one, and a name is not touched by what is written under other
names.  Among entries with different names, as writing makes them, a name has one
value only.
-/

namespace ChatFlow

namespace Entries

variable {α : Type} {entries : Entries α} {name : String} {p : α → Bool}

/-- A search for a value does not miss one that it passes. -/
theorem find?_values_erase (h : ∀ e ∈ entries, e.1 = name → p e.2 = false) :
    ((erase entries name).map (·.2)).find? p = (entries.map (·.2)).find? p := by
  induction entries with
  | nil => rfl
  | cons e rest ih =>
    have ih := ih fun e' he' => h e' (List.mem_cons_of_mem e he')
    by_cases hk : e.1 = name
    · have hp : p e.2 = false := h e List.mem_cons_self hk
      simpa [erase, hk, hp] using ih
    · cases hp : p e.2 with
      | true => simp [erase, hk, hp]
      | false => simpa [erase, hk, hp] using ih

/-- A search for a value does not see that one which it passes takes the place of another. -/
theorem find?_values_put {value : α} (h : ∀ e ∈ entries, e.1 = name → p e.2 = false)
    (hv : p value = false) :
    ((put entries name value).map (·.2)).find? p = (entries.map (·.2)).find? p := by
  induction entries with
  | nil => simp [put, hv]
  | cons e rest ih =>
    obtain ⟨k, v⟩ := e
    have ih := ih fun e' he' => h e' (List.mem_cons_of_mem _ he')
    by_cases hk : k = name
    · have hp : p v = false := h _ List.mem_cons_self hk
      simp [put, hk, hp, hv]
    · cases hp : p v with
      | true => simp [put, hk, hp]
      | false => simpa [put, hk, hp] using ih

/-- Among entries with different names there is one of each name only. -/
theorem eq_of_mem_of_nodup (hn : (keys entries).Nodup) {value : α}
    (h : entries.find? name = some value) {e : String × α} (he : e ∈ entries) (hk : e.1 = name) :
    e.2 = value := by
  induction entries with
  | nil => cases he
  | cons e' rest ih =>
    obtain ⟨k, v⟩ := e'
    obtain ⟨hfresh, hn⟩ := List.nodup_cons.mp hn
    rw [find?_cons] at h
    rcases List.mem_cons.mp he with rfl | he
    · rw [if_pos hk] at h
      exact Option.some.inj h
    · have hne : k ≠ name := by
        rintro rfl
        exact hfresh (List.mem_map.mpr ⟨e, he, hk⟩)
      rw [if_neg hne] at h
      exact ih hn h he

theorem nodup_keys_put (hn : (keys entries).Nodup) (value : α) :
    (keys (put entries name value)).Nodup := by
  rw [keys_put]
  split
  · exact hn
  · rename_i hname
    refine List.nodup_append.mpr ⟨hn, by simp, fun a ha b hb => ?_⟩
    obtain rfl := List.mem_singleton.mp hb
    rintro rfl
    exact hname ha

theorem nodup_keys_merge (hn : (keys entries).Nodup) (new : Entries α) :
    (keys (merge entries new)).Nodup := by
  induction new generalizing entries with
  | nil => exact hn
  | cons e rest ih => exact ih (nodup_keys_put hn e.2)

theorem nodup_keys_ofPairs (pairs : Entries α) : (keys (ofPairs pairs)).Nodup := by
  have hn : (keys ([] : Entries α)).Nodup := List.nodup_nil
  exact nodup_keys_merge hn pairs

theorem nodup_keys_filter (hn : (keys entries).Nodup) (keep : String × α → Bool) :
    (keys (entries.filter keep)).Nodup :=
  hn.sublist (List.filter_sublist.map _)

/-- What a test of the name leaves is found under the names that pass it. -/
theorem find?_filter (pass : String → Bool) :
    find? (entries.filter fun e => pass e.1) name = if pass name then entries.find? name else none := by
  induction entries with
  | nil => simp
  | cons e rest ih =>
    obtain ⟨k, v⟩ := e
    by_cases hk : k = name
    · subst hk
      cases hpass : pass k with
      | true => simp [hpass, find?_cons]
      | false => simpa [hpass, find?_cons] using ih
    · cases hpass : pass k with
      | true => simpa [hpass, find?_cons, hk] using ih
      | false => simpa [hpass, find?_cons, hk] using ih

theorem find?_map {β : Type} (key : β → String) (value : β → α) (l : List β) (name : String) :
    find? (l.map fun b => (key b, value b)) name = (l.find? fun b => key b = name).map value := by
  induction l with
  | nil => rfl
  | cons b rest ih =>
    by_cases hk : key b = name
    · simp [find?_cons, hk]
    · simpa [find?_cons, hk] using ih

theorem mem_of_find? {value : α} (h : entries.find? name = some value) :
    (name, value) ∈ entries := by
  induction entries with
  | nil => cases h
  | cons e rest ih =>
    obtain ⟨k, v⟩ := e
    rw [find?_cons] at h
    by_cases hk : k = name
    · rw [if_pos hk] at h
      rw [hk, Option.some.inj h]
      exact List.mem_cons_self
    · rw [if_neg hk] at h
      exact List.mem_cons_of_mem _ (ih h)

theorem find?_isSome_of_mem {e : String × α} (h : e ∈ entries) :
    ∃ value, entries.find? e.1 = some value := by
  induction entries with
  | nil => cases h
  | cons e' rest ih =>
    obtain ⟨k, v⟩ := e'
    by_cases hk : k = e.1
    · exact ⟨v, by rw [find?_cons, if_pos hk]⟩
    · rcases List.mem_cons.mp h with rfl | h
      · exact absurd rfl hk
      · obtain ⟨value, hv⟩ := ih h
        exact ⟨value, by rw [find?_cons, if_neg hk, hv]⟩

theorem mem_put {value : α} {e : String × α} (h : e ∈ put entries name value) :
    e = (name, value) ∨ e ∈ entries := by
  induction entries with
  | nil => exact Or.inl (List.mem_singleton.mp h)
  | cons e' rest ih =>
    obtain ⟨k, v⟩ := e'
    unfold put at h
    split at h
    · rename_i hk
      rcases List.mem_cons.mp h with rfl | h
      · exact Or.inl (by rw [hk])
      · exact Or.inr (List.mem_cons_of_mem _ h)
    · rcases List.mem_cons.mp h with rfl | h
      · exact Or.inr List.mem_cons_self
      · rcases ih h with he | he
        · exact Or.inl he
        · exact Or.inr (List.mem_cons_of_mem _ he)

theorem find?_eq_none (h : name ∉ keys entries) : entries.find? name = none := by
  cases hf : entries.find? name with
  | none => rfl
  | some value => exact absurd (List.mem_map_of_mem (mem_of_find? hf)) h

/-- Among entries with different names a search finds every entry. -/
theorem find?_eq_some_iff_mem (hn : (keys entries).Nodup) {value : α} :
    entries.find? name = some value ↔ (name, value) ∈ entries := by
  constructor
  · exact mem_of_find?
  · intro h
    obtain ⟨found, hf⟩ := find?_isSome_of_mem h
    have hv : value = found := eq_of_mem_of_nodup hn hf h rfl
    rw [hv]
    exact hf

/-- Dropping a name that is not there changes nothing. -/
theorem erase_of_find?_eq_none (h : entries.find? name = none) : erase entries name = entries := by
  refine List.filter_eq_self.mpr fun e he => ?_
  have hne : e.1 ≠ name := by
    rintro rfl
    obtain ⟨value, hv⟩ := find?_isSome_of_mem he
    rw [hv] at h
    cases h
  exact decide_eq_true hne

theorem nodup_keys_erase (hn : (keys entries).Nodup) (name : String) :
    (keys (erase entries name)).Nodup :=
  nodup_keys_filter hn _

theorem mem_merge {new : Entries α} {e : String × α} (h : e ∈ merge entries new) :
    e ∈ new ∨ e ∈ entries := by
  induction new generalizing entries with
  | nil => exact Or.inr h
  | cons e' rest ih =>
    rcases ih h with he | he
    · exact Or.inl (List.mem_cons_of_mem _ he)
    · rcases mem_put he with rfl | he
      · exact Or.inl List.mem_cons_self
      · exact Or.inr he

/-- Names that are there stay, in their order. -/
theorem keys_prefix_put (entries : Entries α) (name : String) (value : α) :
    keys entries <+: keys (put entries name value) := by
  rw [keys_put]
  split
  · exact List.prefix_rfl
  · exact List.prefix_append _ _

theorem keys_prefix_merge (entries new : Entries α) : keys entries <+: keys (merge entries new) := by
  induction new generalizing entries with
  | nil => exact List.prefix_rfl
  | cons e rest ih => exact (keys_prefix_put entries e.1 e.2).trans (ih _)

theorem put_of_not_mem (h : name ∉ keys entries) (value : α) :
    put entries name value = entries ++ [(name, value)] := by
  induction entries with
  | nil => rfl
  | cons e rest ih =>
    obtain ⟨hne, hrest⟩ := not_or.mp (mt List.mem_cons.mpr h)
    rw [put, if_neg (Ne.symm hne), ih hrest]
    rfl

/-- Entries with different new names go to the end. -/
theorem merge_eq_append {new : Entries α} (hn : (keys new).Nodup)
    (hnew : ∀ name ∈ keys new, name ∉ keys entries) : merge entries new = entries ++ new := by
  induction new generalizing entries with
  | nil => exact (List.append_nil entries).symm
  | cons e rest ih =>
    obtain ⟨hfresh, hn⟩ := List.nodup_cons.mp hn
    have hput : put entries e.1 e.2 = entries ++ [e] :=
      put_of_not_mem (hnew e.1 List.mem_cons_self) e.2
    have hrest : ∀ name ∈ keys rest, name ∉ keys (entries ++ [e]) := by
      intro name hname hmem
      rw [keys, List.map_append] at hmem
      rcases List.mem_append.mp hmem with hmem | hmem
      · exact hnew name (List.mem_cons_of_mem _ hname) hmem
      · obtain rfl := List.mem_singleton.mp hmem
        exact hfresh hname
    calc merge entries (e :: rest) = merge (entries ++ [e]) rest := congrArg (merge · rest) hput
      _ = entries ++ [e] ++ rest := ih hn hrest
      _ = entries ++ e :: rest := List.append_cons .. |>.symm

theorem find?_append (new : Entries α) :
    find? (entries ++ new) name = (entries.find? name).or (new.find? name) := by
  induction entries with
  | nil => rfl
  | cons e rest ih =>
    obtain ⟨k, v⟩ := e
    rw [List.cons_append, find?_cons, find?_cons, ih]
    split <;> rfl

theorem merge_append (entries new more : Entries α) :
    merge entries (new ++ more) = merge (merge entries new) more := List.foldl_append

/-- Writing step by step is writing everything at once. -/
theorem foldl_eq_merge {β : Type} {step : Entries α → β → Entries α} {written : β → Entries α}
    (hstep : ∀ acc b, step acc b = merge acc (written b)) (l : List β) (entries : Entries α) :
    l.foldl step entries = merge entries (l.flatMap written) := by
  induction l generalizing entries with
  | nil => rfl
  | cons b rest ih =>
    rw [List.foldl_cons, hstep, ih, List.flatMap_cons, merge_append]

/-- What is found after writing has been written or was found before. -/
theorem find?_merge_eq_some {new : Entries α} {value : α}
    (h : (merge entries new).find? name = some value) :
    (name, value) ∈ new ∨ entries.find? name = some value := by
  induction new generalizing entries with
  | nil => exact Or.inr h
  | cons e rest ih =>
    rcases ih h with he | hput
    · exact Or.inl (List.mem_cons_of_mem e he)
    · rw [find?_put] at hput
      split at hput
      · rename_i heq
        obtain rfl := Option.some.inj hput
        exact Or.inl (by rw [heq]; exact List.mem_cons_self)
      · exact Or.inr hput

/-- The last one of what is written under a name is found, else what was there before. -/
theorem find?_merge (entries new : Entries α) (name : String) :
    (merge entries new).find? name = ((ofPairs new).find? name).or (entries.find? name) := by
  induction new generalizing entries with
  | nil => rfl
  | cons e rest ih =>
    have hfirst : (ofPairs (e :: rest)).find? name =
        ((ofPairs rest).find? name).or ((put [] e.1 e.2).find? name) := ih _
    rw [hfirst, Option.or_assoc]
    refine (ih _).trans (congrArg _ ?_)
    rw [find?_put, find?_put]
    split <;> rfl

/-- Among entries with different names each is the last one of its name. -/
theorem find?_ofPairs (hn : (keys entries).Nodup) : (ofPairs entries).find? name = entries.find? name := by
  induction entries with
  | nil => rfl
  | cons e rest ih =>
    obtain ⟨k, v⟩ := e
    obtain ⟨hfresh, hn⟩ := List.nodup_cons.mp hn
    have hmerge : (ofPairs ((k, v) :: rest)).find? name =
        ((ofPairs rest).find? name).or ((put [] k v).find? name) := find?_merge (put [] k v) rest name
    rw [hmerge, ih hn, find?_cons]
    by_cases hk : k = name
    · subst hk
      rw [find?_eq_none hfresh, if_pos rfl, find?_put_self]
      rfl
    · rw [if_neg hk, find?_put_ne [] v (Ne.symm hk)]
      exact Option.or_none

/-- What is written under other names does not touch an entry. -/
theorem find?_merge_of_forall_ne {new : Entries α} (h : ∀ e ∈ new, e.1 ≠ name) :
    (merge entries new).find? name = entries.find? name := by
  induction new generalizing entries with
  | nil => rfl
  | cons e rest ih =>
    calc (merge entries (e :: rest)).find? name
        = (merge (put entries e.1 e.2) rest).find? name := rfl
      _ = (put entries e.1 e.2).find? name :=
        ih fun e' he' => h e' (List.mem_cons_of_mem e he')
      _ = entries.find? name := find?_put_ne _ _ (h e List.mem_cons_self).symm

end Entries

end ChatFlow
