import ChatFlow.Proofs.Variables.Flattening
import Mathlib.Data.List.Nodup

/-!
# The variables that an object becomes

Flattening makes one variable for each path into an object, named after the base and the names
on the path.  `Flatten.trails` lists the paths with what they reach, field by field, and
`Flatten.mem_trails` says that these are all paths of at most so many names.

Names of fields without dots are found again in the name of a variable
(`Scope.splitAt_intercalate`).  So no two paths make one variable, nothing is written over, and
what is written is the list of the paths under their names (`Flatten.fieldsBelow_eq`).  The main
statement `Flatten.variables_name_paths` is read off from there.
-/

namespace ChatFlow

/-! ### Paths and their names -/

namespace Scope

variable {base : String} {names names' : List String} {v w w' : Value}

/-- From a value that is no object no path goes on. -/
theorem descend_of_not_isObject (h : v.isObject = false) (hne : names ≠ []) :
    descend v names = none := by
  obtain ⟨name, rest, rfl⟩ := List.exists_cons_of_ne_nil hne
  rw [descend, Value.field?_of_not_isObject h, Option.bind_none]

/-- On a path that leads somewhere there are only names of fields. -/
theorem dotless_of_descend (hd : v.Dotless) (h : descend v names = some w) :
    ∀ name ∈ names, '.' ∉ name.toList := by
  induction names generalizing v with
  | nil => exact List.forall_mem_nil _
  | cons name rest ih =>
    obtain ⟨u, hu, hrest⟩ := Option.bind_eq_some_iff.mp h
    refine List.forall_mem_cons.mpr ⟨?_, ih (Value.Within.field hd hu) hrest⟩
    cases v with
    | object fields => exact hd.fields name (List.mem_map_of_mem (Entries.mem_of_find? hu))
    | _ => cases hu

/-- A base may take the first name of a path to itself. -/
theorem intercalate_below (base name : String) (names : List String) :
    ".".intercalate (base :: name :: names) = ".".intercalate ((base ++ "." ++ name) :: names) := by
  rw [String.intercalate_cons_cons, String.intercalate_cons_append]

/-- Names without dots are found again in what they make up. -/
theorem splitAt_intercalate (hne : names ≠ []) (hd : ∀ name ∈ names, '.' ∉ name.toList) :
    Text.splitAt '.' (".".intercalate names) = names := by
  induction names with
  | nil => exact absurd rfl hne
  | cons name rest ih =>
    obtain ⟨hname, hrest⟩ := List.forall_mem_cons.mp hd
    cases rest with
    | nil => rw [String.intercalate_singleton, splitAt_dotless hname]
    | cons next rest =>
      rw [String.intercalate_cons_cons, splitAt_below, splitAt_dotless hname, ih (by simp) hrest]
      rfl

/-- What follows the base in the name of a path is cut into the names on the path. -/
theorem splitAt_of_intercalate_eq {rest : String} (hd : v.Dotless) (hne : names ≠ [])
    (h : descend v names = some w) (heq : ".".intercalate (base :: names) = base ++ "." ++ rest) :
    Text.splitAt '.' rest = names := by
  rw [String.intercalate_cons_of_ne_nil hne, below_inj] at heq
  rw [← heq, splitAt_intercalate hne (dotless_of_descend hd h)]

/-- Different paths have different names. -/
theorem eq_of_intercalate_eq (hd : v.Dotless) (hne : names ≠ []) (hne' : names' ≠ [])
    (h : descend v names = some w) (h' : descend v names' = some w')
    (heq : ".".intercalate (base :: names) = ".".intercalate (base :: names')) :
    names = names' := by
  have hcut : ".".intercalate (base :: names') = base ++ "." ++ ".".intercalate names' :=
    String.intercalate_cons_of_ne_nil hne'
  calc names = Text.splitAt '.' (".".intercalate names') :=
        (splitAt_of_intercalate_eq hd hne h (heq.trans hcut)).symm
    _ = names' := splitAt_of_intercalate_eq hd hne' h' hcut

/-- Where a path ends at a value that is no object, the name of no path goes on from its name. -/
theorem intercalate_ne_below (hd : v.Dotless) (hne : names ≠ []) (hne' : names' ≠ [])
    (h : descend v names = some w) (hw : w.isObject = false) (h' : descend v names' = some w')
    (rest : String) :
    ".".intercalate (base :: names') ≠ ".".intercalate (base :: names) ++ "." ++ rest := by
  intro heq
  rw [String.intercalate_cons_of_ne_nil (t := base) hne, ← below_append] at heq
  have hnames : names' = names ++ Text.splitAt '.' rest := by
    rw [← splitAt_of_intercalate_eq hd hne' h' heq, splitAt_below,
      splitAt_intercalate hne (dotless_of_descend hd h)]
  have hrest : Text.splitAt '.' rest ≠ [] :=
    fun hnil => Text.pieces_ne_nil '.' rest.toList (List.map_eq_nil_iff.mp hnil)
  rw [hnames, descend_append, h, Option.bind_some, descend_of_not_isObject hw hrest] at h'
  cases h'

end Scope

open Scope

namespace Flatten

variable {base name : String} {fields : Entries Value} {names : List String} {v w : Value}
  {n more : Nat} {depth : Int}

/-! ### Listing the paths -/

/-- The paths of at most so many names into the fields, each with what it reaches.  A path stands
before those that go on from it. -/
def trails : Nat → Entries Value → List (List String × Value)
  | 0, _ => []
  | n + 1, fields => fields.flatMap fun f =>
      ([f.1], f.2) :: (trails n f.2.fields).map fun t => (f.1 :: t.1, t.2)

theorem trails_nil (n : Nat) : trails n [] = [] := by
  cases n <;> rfl

theorem ne_nil_of_mem_trails (h : (names, w) ∈ trails n fields) : names ≠ [] := by
  rintro rfl
  cases n with
  | zero => cases h
  | succ n =>
    obtain ⟨f, -, hmem⟩ := List.mem_flatMap.mp h
    rcases List.mem_cons.mp hmem with heq | hmem
    · cases heq
    · obtain ⟨t, -, heq⟩ := List.mem_map.mp hmem
      cases heq

/-- A path ends at a field or goes on from there. -/
theorem mem_trails_succ : (name :: names, w) ∈ trails (n + 1) fields ↔
    ∃ u, (name, u) ∈ fields ∧ (names = [] ∧ w = u ∨ (names, w) ∈ trails n u.fields) := by
  rw [trails, List.mem_flatMap]
  constructor
  · rintro ⟨⟨k, u⟩, hf, hmem⟩
    rcases List.mem_cons.mp hmem with heq | hmem
    · obtain ⟨hnames, rfl⟩ := Prod.mk.inj heq
      obtain ⟨rfl, rfl⟩ := List.cons.inj hnames
      exact ⟨_, hf, Or.inl ⟨rfl, rfl⟩⟩
    · obtain ⟨⟨names', w'⟩, ht, heq⟩ := List.mem_map.mp hmem
      obtain ⟨hnames, rfl⟩ := Prod.mk.inj heq
      obtain ⟨rfl, rfl⟩ := List.cons.inj hnames
      exact ⟨u, hf, Or.inr ht⟩
  · rintro ⟨u, hf, ⟨rfl, rfl⟩ | ht⟩
    · exact ⟨(name, w), hf, List.mem_cons_self⟩
    · exact ⟨(name, u), hf, List.mem_cons_of_mem _ (List.mem_map.mpr ⟨_, ht, rfl⟩)⟩

/-- The paths that are listed are those of at most so many names that lead somewhere. -/
theorem mem_trails (hk : v.Keyed) : (names, w) ∈ trails n v.fields ↔
    names ≠ [] ∧ names.length ≤ n ∧ descend v names = some w := by
  induction n generalizing v names with
  | zero =>
    refine iff_of_false List.not_mem_nil ?_
    rintro ⟨hne, hlength, -⟩
    exact hne (List.length_eq_zero_iff.mp (Nat.le_zero.mp hlength))
  | succ n ih =>
    cases names with
    | nil => exact iff_of_false (fun h => ne_nil_of_mem_trails h rfl) fun h => h.1 rfl
    | cons name rest =>
      have hrest {u : Value} (hu : v.field? name = some u) :
          (rest = [] ∧ w = u ∨ (rest, w) ∈ trails n u.fields) ↔
            rest.length ≤ n ∧ descend u rest = some w := by
        rw [ih (Value.Within.field hk hu)]
        cases rest with
        | nil => simp [descend, eq_comm]
        | cons next rest => simp
      rw [mem_trails_succ, descend, List.length_cons, Nat.succ_le_succ_iff]
      simp only [hk.mem_fields_iff, Option.bind_eq_some_iff, ne_eq, reduceCtorEq, not_false_eq_true,
        true_and]
      constructor
      · rintro ⟨u, hu, h⟩
        obtain ⟨hlength, hw⟩ := (hrest hu).mp h
        exact ⟨hlength, u, hu, hw⟩
      · rintro ⟨hlength, u, hu, hw⟩
        exact ⟨u, hu, (hrest hu).mpr ⟨hlength, hw⟩⟩

/-- No path is listed twice. -/
theorem nodup_trails (hk : v.Keyed) : ((trails n v.fields).map (·.1)).Nodup := by
  induction n generalizing v with
  | zero => exact List.nodup_nil
  | succ n ih =>
    rw [trails, List.map_flatMap, List.nodup_flatMap]
    constructor
    · rintro ⟨name, u⟩ hf
      have hu : v.field? name = some u := hk.mem_fields_iff.mp hf
      have hrest : (((trails n u.fields).map (·.1)).map (name :: ·)).Nodup :=
        (ih (Value.Within.field hk hu)).map List.cons_injective
      rw [List.map_map] at hrest
      rw [List.map_cons, List.map_map, List.nodup_cons]
      refine ⟨fun hmem => ?_, hrest⟩
      obtain ⟨⟨names, w⟩, ht, heq⟩ := List.mem_map.mp hmem
      exact ne_nil_of_mem_trails ht (List.cons.inj heq).2
    · -- paths through different fields differ in their first names
      have hhead (f : String × Value) : ∀ names ∈ (([f.1], f.2) ::
          (trails n f.2.fields).map fun t => (f.1 :: t.1, t.2)).map (·.1),
          names.head? = some f.1 := by
        intro names hmem
        rw [List.map_cons, List.map_map, List.mem_cons, List.mem_map] at hmem
        rcases hmem with rfl | ⟨t, -, rfl⟩ <;> rfl
      have hnames : v.fields.Pairwise fun f f' => f.1 ≠ f'.1 := List.pairwise_map.mp hk.nodup
      refine hnames.imp fun {f f'} hne => List.disjoint_left.mpr fun names hf hf' => hne ?_
      exact Option.some.inj ((hhead f names hf).symm.trans (hhead f' names hf'))

/-! ### Paths as variables -/

/-- The values that the paths reach, under the names that the paths have below a base. -/
def named (base : String) (paths : List (List String × Value)) : Entries Value :=
  paths.map fun t => (".".intercalate (base :: t.1), t.2)

theorem nodup_keys_named (hk : v.Keyed) (hd : v.Dotless) :
    (Entries.keys (named base (trails n v.fields))).Nodup := by
  have hkeys : Entries.keys (named base (trails n v.fields)) =
      ((trails n v.fields).map (·.1)).map fun names => ".".intercalate (base :: names) := by
    rw [Entries.keys, named, List.map_map, List.map_map]
    rfl
  rw [hkeys]
  refine (nodup_trails hk).map_on fun names hmem names' hmem' heq => ?_
  obtain ⟨⟨_, w⟩, ht, rfl⟩ := List.mem_map.mp hmem
  obtain ⟨⟨_, w'⟩, ht', rfl⟩ := List.mem_map.mp hmem'
  obtain ⟨hne, -, h⟩ := (mem_trails hk).mp ht
  obtain ⟨hne', -, h'⟩ := (mem_trails hk).mp ht'
  exact eq_of_intercalate_eq hd hne hne' h h' heq

theorem mem_named_trails (hk : v.Keyed) : (name, w) ∈ named base (trails n v.fields) ↔
    ∃ names, names ≠ [] ∧ names.length ≤ n ∧ descend v names = some w ∧
      name = ".".intercalate (base :: names) := by
  rw [named, List.mem_map]
  constructor
  · rintro ⟨⟨names, w'⟩, ht, heq⟩
    obtain ⟨rfl, rfl⟩ := Prod.mk.inj heq
    obtain ⟨hne, hlength, h⟩ := (mem_trails hk).mp ht
    exact ⟨names, hne, hlength, h, rfl⟩
  · rintro ⟨names, hne, hlength, h, rfl⟩
    exact ⟨(names, w), (mem_trails hk).mpr ⟨hne, hlength, h⟩, rfl⟩

/-- A level holds the paths that begin with its fields, if what comes from an object in one of them
holds the paths into this object. -/
theorem level_eq_named {inner : String → List (String × Value) → Entries Value} (hb : base ≠ "")
    (hk : (Value.object fields).Keyed) (hd : (Value.object fields).Dotless)
    (hinner : ∀ f ∈ fields, ∀ nested, f.2 = .object nested →
      inner (base ++ "." ++ f.1) nested = named (base ++ "." ++ f.1) (trails n nested)) :
    level inner base fields = named base (trails (n + 1) fields) := by
  have hfield : ∀ f ∈ fields, ofField inner base f =
      (base ++ "." ++ f.1, f.2) :: named (base ++ "." ++ f.1) (trails n f.2.fields) := by
    rintro ⟨name, v⟩ hf
    rw [ofField, below_eq hb]
    refine congrArg _ ?_
    cases v with
    | object nested => exact hinner _ hf nested rfl
    | _ => exact (congrArg (named (base ++ "." ++ name)) (trails_nil n)).symm
  have hwritten : fields.flatMap (ofField inner base) = named base (trails (n + 1) fields) := by
    rw [named, trails, List.map_flatMap]
    refine List.flatMap_congr fun f hf => ?_
    rw [hfield f hf, List.map_cons, List.map_map, named]
    refine congrArg₂ List.cons rfl (List.map_congr_left fun t _ => ?_)
    rw [Function.comp_apply, intercalate_below]
  rw [level_eq, hwritten]
  exact Entries.merge_eq_append (nodup_keys_named hk hd) fun _ _ => List.not_mem_nil

/-- Nothing that is written takes the place of anything else. -/
theorem fieldsBelow_eq (hb : base ≠ "") (hk : (Value.object fields).Keyed)
    (hd : (Value.object fields).Dotless) :
    fieldsBelow more base fields = named base (trails (more + 1) fields) := by
  induction more generalizing base fields with
  | zero => exact level_eq_named hb hk hd fun _ _ _ _ => rfl
  | succ more ih =>
    refine level_eq_named hb hk hd fun f hf nested hnested => ?_
    have hfield : (Value.object fields).field? f.1 = some (.object nested) := by
      rw [← hnested]
      exact hk.mem_fields_iff.mp hf
    exact ih (by simp) (hk.field hfield) (hd.field hfield)

theorem flatten_eq (hb : base ≠ "") (hk : (Value.object fields).Keyed)
    (hd : (Value.object fields).Dotless) (hdepth : 1 ≤ depth) :
    flatten (.object fields) base depth = named base (trails depth.toNat fields) := by
  have hlevels : (depth - 1).toNat + 1 = depth.toNat := by omega
  rw [flatten, fieldsBelow_eq hb hk hd, hlevels]

/-- **An object becomes one variable for each path.**  Of an object with different names of fields,
none of which has a dot, the variables down to some level are those of the paths of at most so many
names through the fields of objects: each has the name that the path has below the base and the value
that the path reaches.  There is one variable of a name, and different paths have different names.
Where a path ends at a value that is no object, a list for one, no variable goes on from it. -/
theorem variables_name_paths (hb : base ≠ "") (hk : (Value.object fields).Keyed)
    (hd : (Value.object fields).Dotless) (hdepth : 1 ≤ depth) :
    (∀ name w, (name, w) ∈ flatten (.object fields) base depth ↔
      ∃ names, names ≠ [] ∧ names.length ≤ depth ∧ descend (.object fields) names = some w ∧
        name = ".".intercalate (base :: names)) ∧
    (Entries.keys (flatten (.object fields) base depth)).Nodup ∧
    (∀ names names' w w', names ≠ [] → names' ≠ [] →
      descend (.object fields) names = some w → descend (.object fields) names' = some w' →
      ".".intercalate (base :: names) = ".".intercalate (base :: names') → names = names') ∧
    ∀ names w, names ≠ [] → descend (.object fields) names = some w → w.isObject = false →
      ∀ rest, ".".intercalate (base :: names) ++ "." ++ rest ∉
        Entries.keys (flatten (.object fields) base depth) := by
  rw [flatten_eq hb hk hd hdepth]
  have hmem (name : String) (w : Value) : (name, w) ∈ named base (trails depth.toNat fields) ↔
      ∃ names, names ≠ [] ∧ names.length ≤ depth.toNat ∧
        descend (.object fields) names = some w ∧ name = ".".intercalate (base :: names) :=
    mem_named_trails hk
  refine ⟨fun name w => ?_, nodup_keys_named hk hd, fun names names' w w' hne hne' h h' =>
    eq_of_intercalate_eq hd hne hne' h h', fun names w hne h hw rest hkey => ?_⟩
  · have hnonneg : 0 ≤ depth := by omega
    simp only [hmem, Int.le_toNat hnonneg]
  · obtain ⟨⟨_, w'⟩, hpath, rfl⟩ := List.mem_map.mp hkey
    obtain ⟨names', hne', -, h', heq⟩ := (hmem _ _).mp hpath
    exact intercalate_ne_below hd hne hne' h hw h' rest heq.symm

/-- Down to the second level there is a variable for the object in the field without a name, and there is
none for the number in it, which is on the third level, nor for the number in the list. -/
theorem variables_name_paths_nested :
    Value.nested.Keyed ∧ Value.nested.Dotless ∧
    ("x.a.", .object [("b", .int 1)]) ∈ flatten .nested "x" 2 ∧
    (∀ w, ("x.a..b", w) ∉ flatten .nested "x" 2) ∧
    ∀ rest, "x.c" ++ "." ++ rest ∉ Entries.keys (flatten .nested "x" 2) := by
  have hkeyed : Value.nested.Keyed := Value.within_nested (by decide) (by decide) (by decide)
  have hdotless : Value.nested.Dotless :=
    Value.within_nested (by decide +kernel) (by decide +kernel) (by decide +kernel)
  obtain ⟨hmem, -, hnames, hlist⟩ :=
    variables_name_paths (by decide : "x" ≠ "") hkeyed hdotless (by decide : (1 : Int) ≤ 2)
  have hthird : descend .nested ["a", "", "b"] = some (.int 1) := by with_unfolding_all rfl
  refine ⟨hkeyed, hdotless, ?_, fun w h => ?_, ?_⟩
  · exact (hmem _ _).mpr ⟨["a", ""], by decide, by decide, by with_unfolding_all rfl, by decide +kernel⟩
  · obtain ⟨names, hne, hlength, hw, hname⟩ := (hmem _ _).mp h
    have hsame : ".".intercalate ("x" :: names) = ".".intercalate ["x", "a", "", "b"] :=
      hname.symm.trans (by decide +kernel)
    rw [hnames names ["a", "", "b"] w _ hne (by decide) hw hthird hsame] at hlength
    exact absurd hlength (by decide)
  · exact hlist ["c"] (.list [.int 2]) (by decide) (by with_unfolding_all rfl) rfl

end Flatten

end ChatFlow
