import ChatFlow.Proofs.Expression.Conversion
import ChatFlow.Proofs.Expression.Independence
import ChatFlow.Proofs.Variables.Lookup
import Mathlib.Data.List.Nodup
import Mathlib.Data.List.TakeWhile

/-!
# The names of the input variables

An expression sees each input variable under the name that `bindingName` makes of it.  The name
is one token (`tokenize?_of_isName`), so as an expression it is that name alone, or the literal
whose word it is (`parse?_of_isName`).

Different input variables may be given one name.  Then the last of them is seen, and if the name is
`vars` it takes the place of the map of all variables (`transform_last_input`).  `seen_iff_apart`
says when this does not happen: every input variable is seen, and all variables under `vars`, if
and only if the names are different and none of them is taken.
-/

namespace ChatFlow.Expression

/-! ### Names as expressions -/

section

variable {c d : Char} {s : String}

theorem ne_of_isNameRest (h : isNameRest c = true) (hd : isNameRest d = false) : c ≠ d := by
  rintro rfl
  rw [h] at hd
  cases hd

theorem toNat_between {low high : Char} (hlow : low.val ≤ c.val) (hhigh : c.val ≤ high.val) :
    low.toNat ≤ c.toNat ∧ c.toNat ≤ high.toNat :=
  ⟨UInt32.le_iff_toNat_le.mp hlow, UInt32.le_iff_toNat_le.mp hhigh⟩

/-- The characters of names are none of the blanks before the digits or after the letters. -/
theorem isBlank_of_isNameRest (h : isNameRest c = true) : Text.isBlank c = false := by
  have hrange : 48 ≤ c.toNat ∧ c.toNat ≤ 122 := by
    rw [isNameRest, Char.isAlphanum, Bool.or_eq_true, Bool.or_eq_true, decide_eq_true_eq] at h
    rcases h with (hletter | hdigit) | rfl
    · rcases Bool.or_eq_true_iff.mp hletter with hupper | hlower
      · obtain ⟨hlow, hhigh⟩ := of_decide_eq_true hupper
        have hc : 65 ≤ c.toNat ∧ c.toNat ≤ 90 := toNat_between hlow hhigh
        omega
      · obtain ⟨hlow, hhigh⟩ := Bool.and_eq_true_iff.mp hlower
        have hc : 97 ≤ c.toNat ∧ c.toNat ≤ 122 :=
          toNat_between (of_decide_eq_true hlow) (of_decide_eq_true hhigh)
        omega
    · obtain ⟨hlow, hhigh⟩ := Bool.and_eq_true_iff.mp hdigit
      have hc : 48 ≤ c.toNat ∧ c.toNat ≤ 57 :=
        toNat_between (of_decide_eq_true hlow) (of_decide_eq_true hhigh)
      omega
    · decide
  simp only [Text.isBlank, Bool.or_eq_false_iff, Bool.and_eq_false_iff, decide_eq_false_iff_not,
    beq_eq_false_iff_ne]
  omega

/-- A text that is one name. -/
structure IsName (s : String) : Prop where
  start : ∃ c rest, s.toList = c :: rest ∧ isNameStart c = true
  rest : ∀ c ∈ s.toList, isNameRest c = true

theorem IsName.ne_empty (h : IsName s) : s ≠ "" := by
  rintro rfl
  obtain ⟨c, rest, hs, -⟩ := h.start
  cases hs

theorem IsName.strip (h : IsName s) : Text.strip s = s :=
  Text.strip_eq_self (fun c hc => isBlank_of_isNameRest (h.rest c (List.mem_of_mem_head? hc)))
    fun c hc => isBlank_of_isNameRest (h.rest c (List.mem_of_mem_getLast? hc))

theorem quotedToken?_of_forall {raw : Bool} {cs : List Char} (h : ∀ c ∈ cs, isNameRest c = true) :
    quotedToken? raw cs = none := by
  cases cs with
  | nil => rfl
  | cons c rest =>
    have hc : isNameRest c = true := h c List.mem_cons_self
    have hdouble : c ≠ '"' := ne_of_isNameRest hc (by decide)
    have hsingle : c ≠ '\'' := ne_of_isNameRest hc (by decide)
    rw [quotedToken?, decide_eq_false hdouble, decide_eq_false hsingle]
    rfl

/-- Where an operand is due, a name is taken as a whole. -/
theorem operandToken?_of_isName (h : IsName s) : operandToken? s.toList = some (.name s, []) := by
  obtain ⟨c, rest, hs, hc⟩ := h.start
  have hall : ∀ d ∈ c :: rest, isNameRest d = true := hs ▸ h.rest
  have hrest : ∀ d ∈ rest, isNameRest d = true := fun d hd => hall d (List.mem_cons_of_mem c hd)
  have hname : nameToken? (c :: rest) = some (.name s, []) := by
    have htake : rest.takeWhile isNameRest = rest := List.takeWhile_eq_self_iff.mpr hrest
    have hdrop : rest.dropWhile isNameRest = [] := List.dropWhile_eq_nil_iff.mpr hrest
    rw [nameToken?, if_pos hc, htake, hdrop, ← hs, String.ofList_toList]
  rw [hs, operandToken?, hname, quotedToken?_of_forall hrest, quotedToken?_of_forall hall, ite_self]
  rfl

theorem tokenize?_of_isName (h : IsName s) : tokenize? s = some [.name s] := by
  obtain ⟨c, rest, hs, -⟩ := h.start
  have hc : isNameRest c = true := h.rest c (by rw [hs]; exact List.mem_cons_self)
  have hseparator : ¬ (c = ' ' ∨ c = '\t' ∨ c = '\n' ∨ c = '\r' ∨ c = Char.ofNat 12) := by
    rintro (rfl | rfl | rfl | rfl | rfl) <;> exact absurd hc (by decide)
  have hcomment : ['/', '/'].isPrefixOf (c :: rest) = false := by
    have hslash : ('/' == c) = false := beq_eq_false_iff_ne.mpr (ne_of_isNameRest hc (by decide)).symm
    rw [List.isPrefixOf, hslash, Bool.false_and]
  have hlength : s.length = rest.length + 1 := by
    rw [← String.length_toList, hs, List.length_cons]
  have htoken : nextToken? .operand (c :: rest) = some (.name s, []) := by
    rw [nextToken?, ← hs, operandToken?_of_isName h]
    rfl
  rw [tokenize?, hs, tokens?]
  simp only [Bool.or_eq_true, decide_eq_true_eq, or_assoc]
  rw [if_neg hseparator, hcomment, if_neg Bool.false_ne_true, htoken, hlength]
  rfl

theorem parse?_of_isName (h : IsName s) : parse? s = some (wordExpr s) := by
  unfold parse?
  rw [tokenize?_of_isName h]
  rfl

end

/-! ### The names of input variables -/

/-- What is put in the place of a character is one that a name can have. -/
theorem isNameRest_replaced (c : Char) :
    isNameRest (if c.toNat < 128 && isNameRest c then c else '_') = true := by
  split
  · rename_i hc
    exact (Bool.and_eq_true_iff.mp hc).2
  · decide

/-- A character of a name with which none may begin is a digit. -/
theorem isNameStart_of_isNameRest {c : Char} (h : isNameRest c = true) (hdigit : c.isDigit = false) :
    isNameStart c = true := by
  rwa [isNameRest, Char.isAlphanum, hdigit, Bool.or_false] at h

/-- Characters of a name make one if an underscore is put before a digit at the start. -/
theorem isName_guarded {c : Char} {rest : List Char} (h : ∀ d ∈ c :: rest, isNameRest d = true) :
    IsName (String.ofList (if c.isDigit then '_' :: c :: rest else c :: rest)) := by
  cases hdigit : c.isDigit with
  | true =>
    refine ⟨⟨'_', c :: rest, String.toList_ofList, by decide⟩, ?_⟩
    intro d hd
    rw [if_pos rfl, String.toList_ofList] at hd
    rcases List.mem_cons.mp hd with rfl | hd
    · decide
    · exact h d hd
  | false =>
    have hc : isNameStart c = true := isNameStart_of_isNameRest (h c List.mem_cons_self) hdigit
    refine ⟨⟨c, rest, String.toList_ofList, hc⟩, ?_⟩
    intro d hd
    rw [if_neg Bool.false_ne_true, String.toList_ofList] at hd
    exact h d hd

/-- An input variable that is not blank is given a name. -/
theorem isName_bindingName {v : String} (h : Text.strip v ≠ "") : IsName (bindingName v) := by
  obtain ⟨c, rest, hv⟩ : ∃ c rest, Text.stripChars v.toList = c :: rest := by
    refine List.exists_cons_of_ne_nil fun hnil => h ?_
    rw [Text.strip, hnil]
  rw [bindingName, hv]
  refine isName_guarded (List.forall_mem_cons.mpr ⟨isNameRest_replaced c, fun d hd => ?_⟩)
  obtain ⟨c, -, rfl⟩ := List.mem_map.mp hd
  exact isNameRest_replaced c

/-! ### What the names stand for -/

variable {vars : Entries Value} {inputs : List String} {lookup : String → Except Failure Value}
  {v s : String} {env : Bindings}

/-- What an input variable is seen as. -/
def seenAs (lookup : String → Except Failure Value) (v : String) : Datum :=
  (inputDatum lookup v).toOption.getD .null

/-- The input variables under their names. -/
def namedInputs (lookup : String → Except Failure Value) (inputs : List String) : Bindings :=
  inputs.map fun v => (bindingName v, seenAs lookup v)

/-- The variables, and what is looked up for the input variables, can be computed with. -/
structure Usable (vars : Entries Value) (inputs : List String)
    (lookup : String → Except Failure Value) : Prop where
  bounded : (Value.object vars).isBounded = true
  tidy : (Value.object vars).isTidy = true
  found : ∀ v ∈ inputs, ∃ w, lookup v = .ok w ∧ w.isBounded = true ∧ w.isTidy = true

theorem Usable.inputDatum_eq (h : Usable vars inputs lookup) (hv : v ∈ inputs) :
    inputDatum lookup v = .ok (seenAs lookup v) := by
  obtain ⟨w, hw, hbounded, -⟩ := h.found v hv
  obtain ⟨d, hd⟩ := Datum.exists_ofValue w hbounded
  have hdatum : inputDatum lookup v = .ok d := by
    rw [inputDatum, hw]
    exact hd
  rw [seenAs, hdatum]
  rfl

theorem Usable.lookup_eq (h : Usable vars inputs lookup) (hv : v ∈ inputs) :
    lookup v = .ok (seenAs lookup v).toValue := by
  obtain ⟨w, hw, -, htidy⟩ := h.found v hv
  have hdatum : Datum.ofValue w = .ok (seenAs lookup v) := by
    rw [← h.inputDatum_eq hv, inputDatum, hw]
    rfl
  rw [hw, Datum.toValue_of_ofValue htidy hdatum]

theorem inputData_eq (h : ∀ v ∈ inputs, inputDatum lookup v = .ok (seenAs lookup v)) :
    inputData lookup inputs = .ok (namedInputs lookup inputs) := by
  induction inputs with
  | nil => rfl
  | cons v rest ih =>
    obtain ⟨hv, hrest⟩ := List.forall_mem_cons.mp h
    rw [inputData, hv, ih hrest]
    rfl

/-- Under `vars` there is a datum that stands for all variables, and the input variables are
written over it. -/
theorem Usable.exists_activation (h : Usable vars inputs lookup) :
    ∃ d, d.toValue = .object vars ∧
      activation vars inputs lookup = .ok (Entries.merge [("vars", d)] (namedInputs lookup inputs)) := by
  obtain ⟨d, hd⟩ := Datum.exists_ofValue _ h.bounded
  refine ⟨d, Datum.toValue_of_ofValue h.tidy hd, ?_⟩
  rw [activation, hd]
  refine (bindInputs_eq _).trans ?_
  rw [inputData_eq fun v hv => h.inputDatum_eq hv]
  rfl

theorem keys_namedInputs (lookup : String → Except Failure Value) (inputs : List String) :
    Entries.keys (namedInputs lookup inputs) = inputs.map bindingName := by
  rw [Entries.keys, namedInputs, List.map_map]
  rfl

/-- The last input variable of a name is found under it. -/
theorem find?_last_input {pre post : List String} (hinputs : inputs = pre ++ v :: post)
    (hlast : bindingName v ∉ post.map bindingName) :
    Entries.find? (Entries.merge env (namedInputs lookup inputs)) (bindingName v) =
      some (seenAs lookup v) := by
  have hpost : ∀ e ∈ namedInputs lookup post, e.1 ≠ bindingName v := by
    rintro e he hname
    rw [← hname, ← keys_namedInputs lookup] at hlast
    exact hlast (List.mem_map_of_mem he)
  have hsplit : namedInputs lookup inputs =
      namedInputs lookup pre ++ (bindingName v, seenAs lookup v) :: namedInputs lookup post := by
    rw [hinputs, namedInputs, List.map_append, List.map_cons]
    rfl
  rw [hsplit, Entries.merge_append]
  exact (Entries.find?_merge_of_forall_ne hpost).trans (Entries.find?_put_self _ _ _)

/-- The words of the literals that are no numbers and no quoted texts. -/
def literalWords : List String := ["true", "false", "null"]

theorem wordExpr_of_not_mem (h : s ∉ literalWords) : wordExpr s = .name s := by
  simp only [literalWords, List.mem_cons, List.not_mem_nil, or_false, not_or] at h
  rw [wordExpr, if_neg h.1, if_neg h.2.1, if_neg h.2.2]

/-- A name that is a whole expression. -/
theorem transform_word (hs : IsName s) (hact : activation vars inputs lookup = .ok env) :
    transform s vars inputs lookup = (wordExpr s).value env := by
  unfold transform
  simp only [hs.strip, if_neg hs.ne_empty, parse?_of_isName hs, hact]
  rfl

theorem has_empty (hinputs : ∀ v ∈ inputs, Text.strip v ≠ "") (d : Datum) :
    Entries.has (Entries.merge [("vars", d)] (namedInputs lookup inputs)) "" = false := by
  have hnames : ∀ e ∈ namedInputs lookup inputs, e.1 ≠ "" := by
    intro e he
    obtain ⟨v, hv, rfl⟩ := List.mem_map.mp he
    exact (isName_bindingName (hinputs v hv)).ne_empty
  rw [Entries.has, Entries.find?_merge_of_forall_ne hnames]
  rfl

/-- A name that stands for a datum, as an expression. -/
theorem value_name {d : Datum} (hempty : Entries.has env "" = false)
    (hfind : Entries.find? env s = some d) : (Expr.name s).value env = .ok d.toValue := by
  rw [Expr.value, hempty, if_neg Bool.false_ne_true, Expr.eval, hfind]
  rfl

/-- The word of a literal does not stand for a text. -/
theorem value_literal_ne (h : s ∈ literalWords) (hempty : Entries.has env "" = false) (t : String) :
    (wordExpr s).value env ≠ .ok (.str t) := by
  rw [Expr.value, hempty, if_neg Bool.false_ne_true]
  simp only [literalWords, List.mem_cons, List.not_mem_nil, or_false] at h
  rcases h with rfl | rfl | rfl
  all_goals
    intro heq
    cases Except.ok.inj heq

/-- **The last input variable of a name is seen under it**, even if the name is `vars`. -/
theorem transform_last_input {pre post : List String} (h : Usable vars inputs lookup)
    (hblank : ∀ v ∈ inputs, Text.strip v ≠ "") (hinputs : inputs = pre ++ v :: post)
    (hlast : bindingName v ∉ post.map bindingName) (hfree : bindingName v ∉ literalWords) :
    transform (bindingName v) vars inputs lookup = lookup v := by
  have hv : v ∈ inputs := by
    rw [hinputs]
    exact List.mem_append_right pre List.mem_cons_self
  obtain ⟨d, -, hact⟩ := h.exists_activation
  rw [transform_word (isName_bindingName (hblank v hv)) hact, wordExpr_of_not_mem hfree,
    value_name (has_empty hblank d) (find?_last_input hinputs hlast), h.lookup_eq hv]

/-! ### When every input variable is seen -/

/-- The names that an expression has for other things than input variables. -/
def takenNames : List String := "vars" :: literalWords

/-- Input variables whose names are different and not taken. -/
structure Apart (inputs : List String) : Prop where
  nodup : (inputs.map bindingName).Nodup
  free : ∀ v ∈ inputs, bindingName v ∉ takenNames

/-- An expression has a name for every input variable and one for all variables, and as an
expression each of them stands for what it is the name of. -/
structure Seen (vars : Entries Value) (inputs : List String)
    (lookup : String → Except Failure Value) : Prop where
  names : ∃ env, activation vars inputs lookup = .ok env ∧
    Entries.keys env = "vars" :: inputs.map bindingName
  input : ∀ v ∈ inputs, transform (bindingName v) vars inputs lookup = lookup v
  all : transform "vars" vars inputs lookup = .ok (.object vars)

theorem isName_vars : IsName "vars" where
  start := ⟨'v', ['a', 'r', 's'], rfl, by decide⟩
  rest := List.all_eq_true.mp (by decide : "vars".toList.all isNameRest = true)

theorem seen_of_apart (h : Usable vars inputs lookup) (hblank : ∀ v ∈ inputs, Text.strip v ≠ "")
    (hapart : Apart inputs) : Seen vars inputs lookup := by
  obtain ⟨d, hd, hact⟩ := h.exists_activation
  have hvars : ∀ e ∈ namedInputs lookup inputs, e.1 ≠ "vars" := by
    intro e he heq
    obtain ⟨v, hv, rfl⟩ := List.mem_map.mp he
    exact hapart.free v hv (List.mem_cons.mpr (Or.inl heq))
  have hmerge : Entries.merge [("vars", d)] (namedInputs lookup inputs) =
      [("vars", d)] ++ namedInputs lookup inputs := by
    refine Entries.merge_eq_append (by rw [keys_namedInputs]; exact hapart.nodup) ?_
    intro name hname hmem
    obtain ⟨e, he, rfl⟩ := List.mem_map.mp hname
    exact hvars e he (List.mem_singleton.mp hmem)
  refine ⟨⟨_, hact, ?_⟩, ?_, ?_⟩
  · rw [hmerge, ← keys_namedInputs lookup]
    rfl
  · intro v hv
    obtain ⟨pre, post, hinputs⟩ := List.append_of_mem hv
    have hnodup : (inputs.map bindingName).Nodup := hapart.nodup
    rw [hinputs, List.map_append, List.map_cons] at hnodup
    have hlast : bindingName v ∉ post.map bindingName :=
      (List.nodup_cons.mp (List.nodup_append.mp hnodup).2.1).1
    exact transform_last_input h hblank hinputs hlast
      fun hlit => hapart.free v hv (List.mem_cons_of_mem _ hlit)
  · have hfind : Entries.find? (Entries.merge [("vars", d)] (namedInputs lookup inputs)) "vars" =
        some d := Entries.find?_merge_of_forall_ne hvars
    rw [transform_word isName_vars hact, wordExpr_of_not_mem (by decide),
      value_name (has_empty hblank d) hfind, hd]

/-- Every variable can be looked up by its name. -/
theorem usable_lookupIn (hbounded : (Value.object vars).isBounded = true)
    (htidy : (Value.object vars).isTidy = true) : Usable vars inputs (lookupIn vars) := by
  refine ⟨hbounded, htidy, fun v _ => ⟨_, rfl, ?_⟩⟩
  cases hfind : Entries.find? vars v with
  | none => exact ⟨rfl, rfl⟩
  | some w =>
    have hmem : (v, w) ∈ vars := Entries.mem_of_find? hfind
    exact ⟨Value.isBounded_object.mp hbounded _ hmem, (Value.isTidy_object.mp htidy).2 _ hmem⟩

theorem apart_of_seen (hblank : ∀ v ∈ inputs, Text.strip v ≠ "") (hnodup : inputs.Nodup)
    (hseen : ∀ vars, Usable vars inputs (lookupIn vars) → Seen vars inputs (lookupIn vars)) :
    Apart inputs := by
  refine ⟨List.Nodup.map_on ?_ hnodup, ?_⟩
  · -- two variables of one name, told apart by their values
    intro v hv v' hv' hname
    by_contra hne
    have htidy : (Value.object [(v, .bool true), (v', .bool false)]).isTidy = true := by
      simp [Value.isTidy, Value.areTidyFields, Entries.keys, hne]
    have h := hseen _ (usable_lookupIn (by rfl) htidy)
    have hvalue : lookupIn [(v, .bool true), (v', .bool false)] v =
        lookupIn [(v, .bool true), (v', .bool false)] v' := by
      rw [← h.input v hv, hname, h.input v' hv']
    rw [lookupIn, lookupIn, Entries.find?_cons, if_pos rfl, Entries.find?_cons, if_neg hne,
      Entries.find?_cons, if_pos rfl] at hvalue
    cases Except.ok.inj hvalue
  · -- a variable that holds a text, under a taken name
    intro v hv htaken
    have husable : Usable [(v, .str "")] inputs (lookupIn [(v, .str "")]) :=
      usable_lookupIn (by rfl) (by simp [Value.isTidy, Value.areTidyFields, Entries.keys])
    have h := hseen _ husable
    have hinput : transform (bindingName v) [(v, .str "")] inputs (lookupIn [(v, .str "")]) =
        .ok (.str "") := by
      rw [h.input v hv, lookupIn, Entries.find?_cons, if_pos rfl]
      rfl
    rcases List.mem_cons.mp htaken with hvars | hliteral
    · rw [hvars, h.all] at hinput
      cases Except.ok.inj hinput
    · obtain ⟨d, -, hact⟩ := husable.exists_activation
      rw [transform_word (isName_bindingName (hblank v hv)) hact] at hinput
      exact value_literal_ne hliteral (has_empty hblank d) "" hinput

/-- **Every input variable is seen if and only if the names are apart.**  For different input
variables that are not blank: whatever bounded values there are and are looked up, each input
variable is what its name stands for, and `vars` is the map of all variables, if and only if
the names that they are given are different and none is `vars` or the word of a literal. -/
theorem seen_iff_apart (hblank : ∀ v ∈ inputs, Text.strip v ≠ "")
    (hdistinct : (inputs.map Text.strip).Nodup) :
    (∀ vars lookup, Usable vars inputs lookup → Seen vars inputs lookup) ↔ Apart inputs :=
  ⟨fun hseen => apart_of_seen hblank (List.Nodup.of_map _ hdistinct) fun vars => hseen vars _,
    fun hapart _ _ h => seen_of_apart h hblank hapart⟩

/-- A number and a name, both under a path. -/
def visit : Entries Value := [("webhook.body.age", .int 30), ("user.name", .str "Ada")]

theorem seen_iff_apart_visit :
    (∀ v ∈ ["webhook.body.age", "user.name"], Text.strip v ≠ "") ∧
    (["webhook.body.age", "user.name"].map Text.strip).Nodup ∧
    Usable visit ["webhook.body.age", "user.name"] (lookupIn visit) ∧
    transform "webhook_body_age" visit ["webhook.body.age", "user.name"] (lookupIn visit) =
      .ok (.int 30) ∧
    transform "vars" visit ["webhook.body.age", "user.name"] (lookupIn visit) =
      .ok (.object visit) := by
  have hblank : ∀ v ∈ ["webhook.body.age", "user.name"], Text.strip v ≠ "" := by decide +kernel
  have hdistinct : (["webhook.body.age", "user.name"].map Text.strip).Nodup := by decide +kernel
  have hapart : Apart ["webhook.body.age", "user.name"] := ⟨by decide +kernel, by decide +kernel⟩
  have husable : Usable visit ["webhook.body.age", "user.name"] (lookupIn visit) :=
    usable_lookupIn (by decide) (by decide)
  have hseen := (seen_iff_apart hblank hdistinct).mpr hapart visit _ husable
  have hname : bindingName "webhook.body.age" = "webhook_body_age" := by decide +kernel
  refine ⟨hblank, hdistinct, husable, ?_, hseen.all⟩
  rw [← hname, hseen.input "webhook.body.age" List.mem_cons_self]
  rfl

/-- A dot and an underscore give one name, and the number under the path with the dot is not seen. -/
theorem dotted_input_masked :
    (∀ v ∈ ["a.b", "a_b"], Text.strip v ≠ "") ∧ (["a.b", "a_b"].map Text.strip).Nodup ∧
    lookupIn [("a.b", .int 1), ("a_b", .int 2)] "a.b" = .ok (.int 1) ∧
    transform (bindingName "a.b") [("a.b", .int 1), ("a_b", .int 2)] ["a.b", "a_b"]
      (lookupIn [("a.b", .int 1), ("a_b", .int 2)]) = .ok (.int 2) := by
  have hblank : ∀ v ∈ ["a.b", "a_b"], Text.strip v ≠ "" := by decide +kernel
  have hname : bindingName "a.b" = bindingName "a_b" := by decide +kernel
  have husable : Usable [("a.b", .int 1), ("a_b", .int 2)] ["a.b", "a_b"]
      (lookupIn [("a.b", .int 1), ("a_b", .int 2)]) := usable_lookupIn (by decide) (by decide)
  have hinputs : ["a.b", "a_b"] = ["a.b"] ++ "a_b" :: [] := rfl
  refine ⟨hblank, by decide +kernel, rfl, ?_⟩
  rw [hname, transform_last_input husable hblank hinputs List.not_mem_nil (by decide +kernel)]
  rfl

end ChatFlow.Expression
