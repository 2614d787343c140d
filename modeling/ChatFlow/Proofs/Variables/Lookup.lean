import ChatFlow.Proofs.Entries
import ChatFlow.Text.Blank
import ChatFlow.Variables.Scope

/-!
# Paths to a field

A path that continues the name of a variable after a dot is taken as it stands, if the
variable's name does not begin with a blank and the name behind the last dot does not end
with one (`Scope.strip_path`).  However many dots the name of the variable has, it is no
system variable, unless the name behind the last dot is that of one
(`Scope.systemVariable?_path`).
-/

namespace ChatFlow

/-! ### Blanks at the ends of a path -/

namespace Text

/-- A text that does not begin with a blank. -/
def Flush (s : String) : Prop := ∀ c, s.toList.head? = some c → isBlank c = false

theorem dropWhile_of_head? {drop : Char → Bool} {s : List Char}
    (h : ∀ c, s.head? = some c → drop c = false) : s.dropWhile drop = s := by
  cases s with
  | nil => rfl
  | cons c rest =>
    have hc : drop c = false := h c rfl
    exact List.dropWhile_cons_of_neg (Bool.eq_false_iff.mp hc)

theorem dropEnd_of_getLast? {drop : Char → Bool} {s : List Char}
    (h : ∀ c, s.getLast? = some c → drop c = false) : dropEnd drop s = s := by
  induction s with
  | nil => rfl
  | cons c rest ih =>
    cases rest with
    | nil =>
      have hc : drop c = false := h c rfl
      simp [dropEnd, hc]
    | cons d rest =>
      have hrest : dropEnd drop (d :: rest) = d :: rest := ih fun e he => h e he
      rw [dropEnd, hrest]

/-- Nothing is stripped where no blank stands at either end. -/
theorem strip_eq_self {s : String} (hstart : ∀ c, s.toList.head? = some c → isBlank c = false)
    (hend : ∀ c, s.toList.getLast? = some c → isBlank c = false) : strip s = s := by
  rw [strip, stripChars, trim, dropWhile_of_head? hstart, dropEnd_of_getLast? hend,
    String.ofList_toList]

theorem pieces_of_not_mem {sep : Char} {s : List Char} (h : sep ∉ s) : pieces sep s = [s] := by
  induction s with
  | nil => rfl
  | cons c rest ih =>
    obtain ⟨hc, hrest⟩ := not_or.mp (mt List.mem_cons.mpr h)
    rw [pieces, if_neg (Ne.symm hc), ih hrest]

end Text

namespace Scope

/-! ### The last dot of a path -/

theorem dotCuts_of_not_mem {s : List Char} (h : '.' ∉ s) : dotCuts s = [] := by
  induction s with
  | nil => rfl
  | cons c rest ih =>
    obtain ⟨hc, hrest⟩ := not_or.mp (mt List.mem_cons.mpr h)
    rw [dotCuts, ih hrest, if_neg (Ne.symm hc)]
    rfl

/-- A path is cut first at its last dot. -/
theorem dotCuts_append {left right : List Char} (h : '.' ∉ right) :
    ∃ rest, dotCuts (left ++ '.' :: right) = (left, right) :: rest := by
  induction left with
  | nil =>
    refine ⟨[], ?_⟩
    rw [List.nil_append, dotCuts, dotCuts_of_not_mem h, if_pos rfl]
    rfl
  | cons c left ih =>
    obtain ⟨rest, hrest⟩ := ih
    rw [List.cons_append, dotCuts, hrest]
    exact ⟨_, rfl⟩

/-- Paths are the same only if they are the same behind the last dot. -/
theorem eq_of_append_dot {left right left' right' : List Char} (h : '.' ∉ right) (h' : '.' ∉ right')
    (heq : left ++ '.' :: right = left' ++ '.' :: right') : right = right' := by
  obtain ⟨rest, hcuts⟩ : ∃ rest, dotCuts (left ++ '.' :: right) = (left, right) :: rest :=
    dotCuts_append h
  obtain ⟨rest', hcuts'⟩ : ∃ rest, dotCuts (left' ++ '.' :: right') = (left', right') :: rest :=
    dotCuts_append h'
  rw [heq, hcuts'] at hcuts
  exact (congrArg Prod.snd (List.cons.inj hcuts).1).symm

/-- The names of the system variables behind the dot. -/
def systemNames : List String :=
  ["current_date", "current_time", "current_date_time", "current_datetime", "timestamp",
   "server_base_url"]

/-- A name that can stand behind the last dot of a path and means no system variable there. -/
structure EndsPath (name : String) : Prop where
  dotless : '.' ∉ name.toList
  unblank : ∃ c, name.toList.getLast? = some c ∧ Text.isBlank c = false
  free : name ∉ systemNames

variable {owner name : String}

theorem toList_path (owner name : String) :
    (owner ++ "." ++ name).toList = owner.toList ++ '.' :: name.toList := by
  simp [String.toList_append]

/-- Nothing is stripped from such a path. -/
theorem strip_path (howner : Text.Flush owner) (hname : EndsPath name) :
    Text.strip (owner ++ "." ++ name) = owner ++ "." ++ name := by
  obtain ⟨last, hlast, hblank⟩ := hname.unblank
  refine Text.strip_eq_self (fun c hc => ?_) fun c hc => ?_
  · rw [toList_path] at hc
    cases hlist : owner.toList with
    | nil =>
      rw [hlist] at hc
      obtain rfl := Option.some.inj hc
      decide
    | cons d rest =>
      rw [hlist] at hc
      exact howner c (by rw [hlist]; exact hc)
  · rw [toList_path, List.getLast?_append, List.getLast?_cons, hlast] at hc
    obtain rfl := Option.some.inj hc
    exact hblank

theorem keys_system (locale : Locale) :
    Entries.keys locale.system = systemNames.map ("system." ++ ·) := by
  simp [Entries.keys, Locale.system, systemNames]

theorem systemVariable?_path (locale : Locale) (hname : EndsPath name) :
    systemVariable? locale (owner ++ "." ++ name) = none := by
  have hdotless : ∀ known ∈ systemNames, '.' ∉ known.toList := by decide
  have hkeys : owner ++ "." ++ name ∉ Entries.keys locale.system := by
    rw [keys_system]
    intro hmem
    obtain ⟨known, hknown, heq⟩ := List.mem_map.mp hmem
    have hlists : "system".toList ++ '.' :: known.toList = owner.toList ++ '.' :: name.toList := by
      rw [← toList_path owner name, ← heq, String.toList_append]
      rfl
    have hsame : known.toList = name.toList :=
      eq_of_append_dot (hdotless known hknown) hname.dotless hlists
    rw [String.toList_inj.mp hsame] at hknown
    exact hname.free hknown
  unfold systemVariable?
  rw [Entries.find?_eq_none hkeys, ite_self]

end Scope

end ChatFlow
