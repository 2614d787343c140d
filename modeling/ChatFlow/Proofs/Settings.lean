import Mathlib.Logic.Basic
import ChatFlow.Proofs.Entries
import ChatFlow.Proofs.Outside.Task
import ChatFlow.Web.Site

/-!
# What the view of the settings tells of the secrets

Anyone may see the settings, but of the secret ones only whether they are there.  A setting
comes from the settings store, else from the environment, else it has its default, and it is
looked up under its own name only; so environments that agree on all open names load the same
open settings (`loadedValue_congr`).  The settings store is asked for the same, since whether
there is one is told by open names (`storedTexts_congr`).  What is shown then differs exactly
if a secret is there in one of the two and not in the other (`publicView_eq_iff`).
-/

namespace ChatFlow

namespace Settings

/-- Two environments that agree on everything but the secrets. -/
def AgreeOpenly (environment environment' : Texts) : Prop :=
  ∀ name, name ∉ secretNames → environment.find? name = environment'.find? name

/-- The value that a setting of this name and default is loaded with. -/
def loadedValue (stored environment : Texts) (name : String) (default_ : Value) : Value :=
  match (given? stored name).or (given? environment name) with
  | some s => coerce s default_
  | none => default_

/-- What anyone may see of a setting. -/
def shownValue (name : String) (v : Value) : Value :=
  if secretNames.contains name then .bool v.truthy else v

/-- The secrets that are there are the same in both. -/
def SamePresence (s s' : Settings) : Prop :=
  ∀ name ∈ secretNames, s.text name = "" ↔ s'.text name = ""

instance (s s' : Settings) : Decidable (SamePresence s s') :=
  inferInstanceAs (Decidable (∀ name ∈ secretNames, s.text name = "" ↔ s'.text name = ""))

section

variable {stored environment environment' : Texts} {name : String} {default_ : Value}

/-! ### The settings one by one -/

theorem ofTexts_eq (stored environment : Texts) : ofTexts stored environment =
    defaults.map fun e => (e.1, loadedValue stored environment e.1 e.2) := by
  refine List.map_congr_left fun e _ => ?_
  unfold loadedValue
  cases (given? stored e.1).or (given? environment e.1) <;> rfl

theorem nodup_keys_defaults : (Entries.keys defaults).Nodup := by decide

theorem keys_ofTexts (stored environment : Texts) :
    Entries.keys (ofTexts stored environment) = Entries.keys defaults := by
  rw [ofTexts_eq, Entries.keys, List.map_map]
  rfl

theorem value_ofTexts (h : (name, default_) ∈ defaults) :
    (ofTexts stored environment).value name = loadedValue stored environment name default_ := by
  have hmem : (name, loadedValue stored environment name default_) ∈ ofTexts stored environment := by
    rw [ofTexts_eq]
    exact List.mem_map_of_mem (f := fun e => (e.1, loadedValue stored environment e.1 e.2)) h
  have hnodup : (Entries.keys (ofTexts stored environment)).Nodup := by
    rw [keys_ofTexts]
    exact nodup_keys_defaults
  rw [value, (Entries.find?_eq_some_iff_mem hnodup).mpr hmem]
  rfl

/-- Every secret is a setting, and a text that is empty by default. -/
theorem secret_mem_defaults (h : name ∈ secretNames) : (name, .str "") ∈ defaults := by
  simp only [secretNames, List.mem_cons, List.not_mem_nil, or_false] at h
  rcases h with rfl | rfl | rfl | rfl | rfl | rfl | rfl <;> simp [defaults]

/-- A secret is loaded as a text. -/
theorem loadedValue_secret (h : name ∈ secretNames) :
    loadedValue stored environment name (.str "") = .str ((ofTexts stored environment).text name) := by
  rw [text, value_ofTexts (secret_mem_defaults h)]
  unfold loadedValue
  split <;> rfl

theorem shownValue_secret (h : name ∈ secretNames) (s : String) :
    shownValue name (.str s) = .bool (s ≠ "") := if_pos (List.contains_iff_mem.mpr h)

theorem publicView_ofTexts (fromStore : Bool) : publicView ⟨ofTexts stored environment, fromStore⟩ =
    .object (defaults.map (fun e => (e.1, shownValue e.1 (loadedValue stored environment e.1 e.2)))
      ++ [("loadedFromDapr", .bool fromStore)]) := by
  rw [publicView, ofTexts_eq, List.map_map]
  rfl

/-! ### Environments that agree openly -/

theorem given?_congr (h : AgreeOpenly environment environment') (hname : name ∉ secretNames) :
    given? environment name = given? environment' name := by
  rw [given?, given?, h name hname]

/-- An open setting does not depend on the secrets. -/
theorem loadedValue_congr (h : AgreeOpenly environment environment') (hname : name ∉ secretNames)
    (default_ : Value) :
    loadedValue stored environment name default_ = loadedValue stored environment' name default_ := by
  rw [loadedValue, loadedValue, given?_congr h hname]

/-- The same is shown exactly if the same secrets are there. -/
theorem publicView_eq_iff (h : AgreeOpenly environment environment') (fromStore : Bool) :
    publicView ⟨ofTexts stored environment, fromStore⟩ =
        publicView ⟨ofTexts stored environment', fromStore⟩ ↔
      SamePresence (ofTexts stored environment) (ofTexts stored environment') := by
  have hshown (name : String) (hname : name ∈ secretNames) :
      shownValue name (loadedValue stored environment name (.str "")) =
          shownValue name (loadedValue stored environment' name (.str "")) ↔
        ((ofTexts stored environment).text name = "" ↔
          (ofTexts stored environment').text name = "") := by
    rw [loadedValue_secret hname, loadedValue_secret hname, shownValue_secret hname,
      shownValue_secret hname, Value.bool.injEq, decide_eq_decide]
    exact not_iff_not
  rw [publicView_ofTexts, publicView_ofTexts, Value.object.injEq, List.append_cancel_right_eq,
    List.map_inj_left]
  constructor
  · intro hviews name hname
    exact (hshown name hname).mp (Prod.mk.inj (hviews _ (secret_mem_defaults hname))).2
  · intro hpresence e he
    refine congrArg (Prod.mk e.1) ?_
    by_cases hname : e.1 ∈ secretNames
    · have hdefault : e.2 = .str "" := Entries.eq_of_mem_of_nodup nodup_keys_defaults
        ((Entries.find?_eq_some_iff_mem nodup_keys_defaults).mpr (secret_mem_defaults hname)) he rfl
      rw [hdefault]
      exact (hshown e.1 hname).mpr (hpresence e.1 hname)
    · rw [loadedValue_congr h hname]

/-- What the settings store is asked for does not depend on the secrets. -/
theorem storedTexts_congr {σ : Type} (h : AgreeOpenly environment environment') :
    (storedTexts environment : Task σ Texts) = storedTexts environment' := by
  have hstore : hasStore environment = hasStore environment' := by
    rw [hasStore, hasStore, given?_congr h (by decide), given?_congr h (by decide)]
  rw [storedTexts, storedTexts, hstore]

/-! ### Loading -/

/-- The settings that are loaded once it is known what the settings store has. -/
def loadedWith (environment stored : Texts) : Loaded :=
  ⟨ofTexts stored environment, !stored.isEmpty⟩

theorem load_run {σ : Type} (environment : Texts) (world : World) (s : σ) (asked : List Query) :
    (load environment).run world s asked =
      ((storedTexts environment).run world s asked).andThen world
        fun stored => pure (loadedWith environment stored) :=
  Task.run_andThen world (storedTexts environment) (fun stored => pure (loadedWith environment stored))
    s asked

end

end Settings

namespace Web

open Settings

/-- A request for the settings is answered with what anyone may see of them. -/
theorem answer_settings {r : Request} (hroute : Route.of r.method r.path = .settings)
    (loaded : Loaded) (engine : Option Service) :
    (Site.mk loaded engine).answer r = return okay (publicView loaded) := by
  rw [Site.answer, hroute]

end Web

namespace Settings

/-- **Of a secret only its presence is seen.**  Two services start in environments that agree on all
but the secrets, in a world that replies to both alike.  Both ask the same of it; and once both have
loaded their settings, they show the same exactly if the same secrets are there, and then answer
every request for the settings alike. -/
theorem view_tells_presence {σ : Type} {environment environment' : Texts}
    (h : AgreeOpenly environment environment') (world : World) (s : σ) (asked : List Query) :
    let x := (load environment).run world s asked
    let x' := (load environment').run world s asked
    x.asked = x'.asked ∧
    (∀ loaded loaded', x.outcome = .inr loaded → x'.outcome = .inr loaded' →
      (publicView loaded = publicView loaded' ↔ SamePresence loaded.settings loaded'.settings) ∧
      (SamePresence loaded.settings loaded'.settings → ∀ r engine engine',
        Web.Route.of r.method r.path = .settings →
          (Web.Site.mk loaded engine).answer r = (Web.Site.mk loaded' engine').answer r)) ∧
    (world.Replies → ∃ loaded loaded', x.outcome = .inr loaded ∧ x'.outcome = .inr loaded') := by
  intro x x'
  have hx : x = _ := load_run environment world s asked
  have hx' : x' = _ := load_run environment' world s asked
  rw [← storedTexts_congr h] at hx'
  refine ⟨?_, fun loaded loaded' hloaded hloaded' => ?_, fun hw => ?_⟩
  · rw [hx, hx', Task.andThen_pure_asked, Task.andThen_pure_asked]
  · rw [hx] at hloaded
    rw [hx'] at hloaded'
    obtain ⟨stored, hstored, rfl⟩ := Task.andThen_pure_outcome hloaded
    obtain ⟨stored', hstored', rfl⟩ := Task.andThen_pure_outcome hloaded'
    obtain rfl := Sum.inr.inj (hstored.symm.trans hstored')
    have hiff : publicView (loadedWith environment stored) = publicView (loadedWith environment' stored) ↔
      _ := publicView_eq_iff h !stored.isEmpty
    refine ⟨hiff, fun hpresence r engine engine' hroute => ?_⟩
    rw [Web.answer_settings hroute, Web.answer_settings hroute, hiff.mpr hpresence]
  · obtain ⟨_, _, loaded, hloaded⟩ := (load environment).run_ends s asked hw
    obtain ⟨_, _, loaded', hloaded'⟩ := (load environment').run_ends s asked hw
    exact ⟨loaded, loaded', congrArg Task.Progress.outcome hloaded,
      congrArg Task.Progress.outcome hloaded'⟩

/-- An environment with a key for a language model. -/
def keyed (key : String) : Texts := [("LOG_LEVEL", "DEBUG"), ("OPENAI_API_KEY", key)]

theorem agreeOpenly_keyed (key key' : String) : AgreeOpenly (keyed key) (keyed key') := by
  intro name hname
  have hne : "OPENAI_API_KEY" ≠ name := by
    rintro rfl
    exact hname (by decide)
  simp [keyed, Entries.find?_cons, hne]

/-- The key is changed, and no one who looks at the settings can tell. -/
theorem view_tells_presence_rekeyed : ∃ loaded loaded',
    ((load (keyed "old")).run .refusing () []).outcome = .inr loaded ∧
    ((load (keyed "new")).run .refusing () []).outcome = .inr loaded' ∧
    loaded.settings.text "OPENAI_API_KEY" = "old" ∧ loaded'.settings.text "OPENAI_API_KEY" = "new" ∧
    publicView loaded = publicView loaded' := by
  obtain ⟨-, hview, -⟩ := view_tells_presence (agreeOpenly_keyed "old" "new") .refusing () []
  refine ⟨loadedWith (keyed "old") [], loadedWith (keyed "new") [], rfl, rfl, by decide, by decide, ?_⟩
  exact (hview _ _ rfl rfl).1.mpr (by decide)

end Settings

end ChatFlow
