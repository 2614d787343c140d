import ChatFlow.Proofs.Variables.Lookup

/-!
# Descending from a variable

A path may be cut at any of its dots into the name of a variable and names of fields.  So
it matters which variables there are.  A field whose own name has no dot is found under the
name of its variable, whatever other variables there are, unless one of them has the whole
path as its name (`Scope.read_field`).  And below a variable it makes no difference at all,
as long as every other variable whose name goes on from it has the value that descending
from it would reach: then it is all the same at which of them a path is cut
(`Echoes.resolve`).
-/

namespace ChatFlow

namespace Text

/-- Pieces are cut independently on both sides of a separator. -/
theorem pieces_append (sep : Char) (s t : List Char) :
    pieces sep (s ++ sep :: t) = pieces sep s ++ pieces sep t := by
  induction s with
  | nil => simp [pieces]
  | cons c s ih =>
    rw [List.cons_append, pieces, pieces, ih]
    split
    · rfl
    · cases hs : pieces sep s with
      | nil => exact absurd hs (pieces_ne_nil sep s)
      | cons p ps => rfl

end Text

namespace Scope

variable {vars vars' : Entries Value} {base path : String} {v : Value}

/-! ### Cutting a path -/

/-- Both sides of a cut make up the path. -/
theorem mem_dotCuts {s l r : List Char} : (l, r) ∈ dotCuts s ↔ s = l ++ '.' :: r := by
  induction s generalizing l with
  | nil => simp [dotCuts]
  | cons c s ih =>
    rw [dotCuts, List.mem_append, List.mem_map]
    constructor
    · rintro (⟨⟨l', r'⟩, hmem, heq⟩ | hmem)
      · obtain ⟨rfl, rfl⟩ := Prod.mk.inj heq
        rw [ih.mp hmem]
        rfl
      · split at hmem
        · rename_i hc
          obtain ⟨rfl, rfl⟩ := Prod.mk.inj (List.mem_singleton.mp hmem)
          rw [hc]
          rfl
        · cases hmem
    · intro heq
      cases l with
      | nil =>
        obtain ⟨rfl, rfl⟩ := List.cons.inj heq
        exact Or.inr (by simp)
      | cons d l =>
        obtain ⟨rfl, hs⟩ := List.cons.inj heq
        exact Or.inl ⟨(l, r), ih.mpr hs, rfl⟩

/-- The cuts behind a dot come first, then the one at this dot, then those before it. -/
theorem dotCuts_append_dot (l r : List Char) :
    dotCuts (l ++ '.' :: r) = (dotCuts r).map (fun p => (l ++ '.' :: p.1, p.2)) ++
      (l, r) :: (dotCuts l).map fun p => (p.1, p.2 ++ '.' :: r) := by
  induction l with
  | nil => simp [dotCuts]
  | cons c l ih =>
    rw [List.cons_append, dotCuts, ih, dotCuts]
    by_cases hc : c = '.' <;> simp [hc, Function.comp_def]

theorem below_append (base name rest : String) :
    base ++ "." ++ (name ++ "." ++ rest) = base ++ "." ++ name ++ "." ++ rest := by
  simp [String.append_assoc]

/-- Names that go on after a dot are the same only if they go on in the same way. -/
theorem below_inj {name name' : String} :
    base ++ "." ++ name = base ++ "." ++ name' ↔ name = name' := by
  constructor
  · intro h
    have hlists := congrArg String.toList h
    rw [toList_path, toList_path] at hlists
    exact String.toList_injective (List.cons.inj (List.append_cancel_left hlists)).2
  · rintro rfl
    rfl

/-- A name that goes on from another one in two ways does so from names of which one goes on from the
other, if what comes last has no dot. -/
theorem below_eq_below {base' rest name : String} (hname : '.' ∉ name.toList)
    (h : base' ++ "." ++ rest = base ++ "." ++ name) :
    (base' = base ∧ rest = name) ∨
      ∃ mid, base = base' ++ "." ++ mid ∧ rest = mid ++ "." ++ name := by
  have hcut : (base'.toList, rest.toList) ∈ dotCuts (base.toList ++ '.' :: name.toList) := by
    rw [mem_dotCuts, ← toList_path, ← toList_path, h]
  rw [dotCuts_append_dot, dotCuts_of_not_mem hname, List.map_nil, List.nil_append, List.mem_cons,
    List.mem_map] at hcut
  rcases hcut with heq | ⟨⟨l, r⟩, hmem, heq⟩
  · obtain ⟨hbase, hrest⟩ := Prod.mk.inj heq
    exact Or.inl ⟨String.toList_injective hbase, String.toList_injective hrest⟩
  · obtain ⟨hbase, hrest⟩ := Prod.mk.inj heq
    refine Or.inr ⟨String.ofList r, String.toList_injective ?_, String.toList_injective ?_⟩
    · rw [toList_path, String.toList_ofList, ← hbase]
      exact mem_dotCuts.mp hmem
    · rw [toList_path, String.toList_ofList]
      exact hrest.symm

theorem below_ne (base name : String) : base ++ "." ++ name ≠ base := by
  intro h
  have hlength := congrArg (fun s => s.toList.length) h
  rw [toList_path] at hlength
  simp at hlength

/-- The texts of a cut make up the text that is cut. -/
theorem ofList_cut {s : String} {l r : List Char} (h : (l, r) ∈ dotCuts s.toList) :
    s = String.ofList l ++ "." ++ String.ofList r := by
  apply String.toList_injective
  rw [toList_path, String.toList_ofList, String.toList_ofList]
  exact mem_dotCuts.mp h

/-- A cut that finds a variable is one of the path. -/
theorem owner?_eq_some {name rest : String} (h : owner? vars path = some (name, rest)) :
    path = name ++ "." ++ rest ∧ vars.has name = true := by
  obtain ⟨⟨l, r⟩, hmem, heq⟩ := List.mem_map.mp (List.mem_of_find?_eq_some h)
  obtain ⟨rfl, rfl⟩ := Prod.mk.inj heq
  exact ⟨ofList_cut hmem, by simpa using List.find?_some h⟩

/-- A path below a variable is cut at this variable or behind it. -/
theorem owner?_below (h : vars.has base = true) (rest : String) :
    owner? vars (base ++ "." ++ rest) = some (base, rest) ∨
      ∃ name more, rest = name ++ "." ++ more ∧ vars.has (base ++ "." ++ name) = true ∧
        owner? vars (base ++ "." ++ rest) = some (base ++ "." ++ name, more) := by
  have hcuts : owner? vars (base ++ "." ++ rest) =
      ((((dotCuts rest.toList).map fun p => (base.toList ++ '.' :: p.1, p.2)).map
        fun p => (String.ofList p.1, String.ofList p.2)).find? fun p => vars.has p.1).or
          (some (base, rest)) := by
    unfold owner?
    rw [toList_path, dotCuts_append_dot, List.map_append, List.find?_append, List.map_cons,
      List.find?_cons_of_pos (by simpa using h), String.ofList_toList, String.ofList_toList]
  rw [hcuts]
  cases hfind : (((dotCuts rest.toList).map fun p => (base.toList ++ '.' :: p.1, p.2)).map
      fun p => (String.ofList p.1, String.ofList p.2)).find? fun p => vars.has p.1 with
  | none => exact Or.inl rfl
  | some cut =>
    obtain ⟨p, hp, rfl⟩ := List.mem_map.mp (List.mem_of_find?_eq_some hfind)
    obtain ⟨⟨l, r⟩, hlr, rfl⟩ := List.mem_map.mp hp
    have hname : String.ofList (base.toList ++ '.' :: l) = base ++ "." ++ String.ofList l := by
      apply String.toList_injective
      rw [toList_path, String.toList_ofList, String.toList_ofList]
    have hhas : vars.has (String.ofList (base.toList ++ '.' :: l)) = true := by
      simpa using List.find?_some hfind
    rw [hname] at hhas
    refine Or.inr ⟨String.ofList l, String.ofList r, ofList_cut hlr, hhas, ?_⟩
    rw [← hname]
    rfl

/-- The value of a path depends only on the variables that it goes through. -/
theorem resolve_congr (hpath : vars.find? path = vars'.find? path)
    (h : ∀ name rest, path = name ++ "." ++ rest → vars.find? name = vars'.find? name) :
    resolve vars path = resolve vars' path := by
  have howner : owner? vars path = owner? vars' path := by
    unfold owner?
    rw [← List.head?_filter, ← List.head?_filter]
    refine congrArg List.head? (List.filter_congr fun cut hcut => ?_)
    obtain ⟨⟨l, r⟩, hmem, rfl⟩ := List.mem_map.mp hcut
    show vars.has (String.ofList l) = vars'.has (String.ofList l)
    rw [Entries.has, Entries.has, h _ _ (ofList_cut hmem)]
  unfold resolve
  rw [hpath, howner]
  cases hcut : owner? vars' path with
  | none => rfl
  | some cut =>
    obtain ⟨name, rest⟩ := cut
    have hname : vars.find? name = vars'.find? name := h name rest (owner?_eq_some hcut).1
    simp only [hname]

/-! ### Descending -/

theorem descend_append (v : Value) (names more : List String) :
    descend v (names ++ more) = (descend v names).bind fun w => descend w more := by
  induction names generalizing v with
  | nil => rfl
  | cons name names ih =>
    rw [List.cons_append, descend, descend]
    cases v.field? name with
    | none => rfl
    | some w => exact ih w

theorem splitAt_below (name rest : String) :
    Text.splitAt '.' (name ++ "." ++ rest) = Text.splitAt '.' name ++ Text.splitAt '.' rest := by
  rw [Text.splitAt, toList_path, Text.pieces_append, List.map_append]
  rfl

theorem descend_below (v : Value) (name rest : String) :
    descend v (Text.splitAt '.' (name ++ "." ++ rest)) =
      (descend v (Text.splitAt '.' name)).bind fun w => descend w (Text.splitAt '.' rest) := by
  rw [splitAt_below, descend_append]

theorem splitAt_dotless {name : String} (h : '.' ∉ name.toList) : Text.splitAt '.' name = [name] := by
  rw [Text.splitAt, Text.pieces_of_not_mem h, List.map_singleton, String.ofList_toList]

theorem descend_dotless {name : String} (h : '.' ∉ name.toList) (v : Value) :
    descend v (Text.splitAt '.' name) = v.field? name := by
  rw [splitAt_dotless h, descend]
  exact Option.bind_fun_some _

/-- Behind a variable a name without a dot is the rest of the name of another variable, or else it is
the name of a field. -/
theorem resolve_below {name : String} (hvar : vars.find? base = some v) (hname : '.' ∉ name.toList) :
    resolve vars (base ++ "." ++ name) =
      (vars.find? (base ++ "." ++ name)).or (v.field? name) := by
  have hhas : vars.has base = true := by
    rw [Entries.has, hvar]
    rfl
  unfold resolve
  cases hpath : vars.find? (base ++ "." ++ name) with
  | some w => rfl
  | none =>
    rcases owner?_below hhas name with howner | ⟨left, right, hcut, -⟩
    · simp only [howner, hvar, Option.bind_some, Option.none_or]
      exact descend_dotless hname v
    · refine absurd ?_ hname
      rw [hcut, toList_path]
      simp

/-- A path without blanks around it that means no system variable is read from the variables alone. -/
theorem read_eq_resolve {scope : Scope} (hstrip : Text.strip path = path)
    (hsystem : systemVariable? scope.locale path = none)
    (hdated : asksClock path = true → scope.locale.isDated = true) :
    scope.read path = .ok (resolve scope.vars path) := by
  unfold read checked get? lookup
  rw [hstrip, hsystem]
  cases hasks : asksClock path with
  | false => rfl
  | true =>
    rw [hdated hasks]
    rfl

/-- A field of a variable is read by a path, unless the whole path is the name of another variable. -/
theorem read_field {scope : Scope} {fields : Entries Value} {name : String} {value : Value}
    (hvar : scope.vars.find? base = some (.object fields)) (hfield : fields.find? name = some value)
    (hbase : Text.Flush base) (hname : EndsPath name)
    (hfree : scope.vars.find? (base ++ "." ++ name) = none)
    (hdated : asksClock (base ++ "." ++ name) = true → scope.locale.isDated = true) :
    scope.read (base ++ "." ++ name) = .ok (some value) := by
  rw [read_eq_resolve (strip_path hbase hname) (systemVariable?_path _ hname) hdated,
    resolve_below hvar hname.dotless, hfree, Option.none_or]
  exact congrArg Except.ok hfield

/-! ### Variables that say the same -/

/-- A variable has this value, and every variable whose name goes on from its name has the value that is
reached by descending from it. -/
structure Echoes (vars : Entries Value) (base : String) (v : Value) : Prop where
  bound : vars.find? base = some v
  below : ∀ rest w, vars.find? (base ++ "." ++ rest) = some w →
    descend v (Text.splitAt '.' rest) = some w

/-- Below such a variable every path leads to what is reached by descending from it. -/
theorem Echoes.resolve (h : Echoes vars base v) (rest : String) :
    Scope.resolve vars (base ++ "." ++ rest) = descend v (Text.splitAt '.' rest) := by
  have hhas : vars.has base = true := by
    rw [Entries.has, h.bound]
    rfl
  unfold Scope.resolve
  cases hpath : vars.find? (base ++ "." ++ rest) with
  | some w => exact (h.below rest w hpath).symm
  | none =>
    rcases owner?_below hhas rest with howner | ⟨name, more, rfl, hname, howner⟩
    · simp only [howner, h.bound, Option.bind_some]
    · obtain ⟨w, hw⟩ := Option.isSome_iff_exists.mp hname
      simp only [howner, hw, Option.bind_some]
      rw [descend_below, h.below name w hw, Option.bind_some]

end Scope

end ChatFlow
