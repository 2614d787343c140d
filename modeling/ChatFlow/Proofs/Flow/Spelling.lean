import ChatFlow.Proofs.Document.Tidy
import ChatFlow.Proofs.Flow.Repeating
import ChatFlow.Proofs.Flow.Trigger

/-!
# Keywords in the settings of a node

The keywords of a node that starts a flow are read twice: with its settings, where they may be
spelt in two ways, and with the keywords of its flow, where they have one spelling.  So a node gives
its flow the keywords of its settings unless these are given in the second spelling alone
(`node_keywords_as_read`), and then it gives none.
-/

namespace ChatFlow

open FlowRecord

/-! ### Two spellings -/

/-- A null counts as left out, and what is left out holds no keywords. -/
theorem splitKeywords_filter (v : Option Value) :
    splitKeywords (Value.ofOption (v.filter fun w => !w.isNull)) =
      splitKeywords (Value.ofOption v) := by
  cases v with
  | none => rfl
  | some w => cases w <;> rfl

theorem filterMap_text?_map_str (ks : List String) :
    (ks.map Value.str).filterMap Value.text? = ks := by
  rw [List.filterMap_map]
  exact List.filterMap_some

/-- What is found under the two spellings is never wrong, whatever it is. -/
theorem read_trigger (given : Entries Value) : FieldKind.read Forms.trigger given =
    [⟨"keywords", spellingIn? given ["keywords", "triggerKeywords"],
      some (.list ((splitKeywords (Value.ofOption ((given.find? "keywords").or
        (given.find? "triggerKeywords")))).map .str))⟩] := by
  rw [← find?_spellingIn?]
  simp only [Forms.trigger, FieldKind.read]
  cases hs : spellingIn? given ["keywords", "triggerKeywords"] with
  | none => rfl
  | some spelling =>
    simp only [Value.getD_null, FieldKind.fit?]
    rfl

namespace Node

variable {n : Node}

/-- The keywords of a node are in its settings under the second spelling alone. -/
def SpeltOtherwise (n : Node) : Prop :=
  (Value.ofOption (n.config.find? "keywords")).isNull = true ∧
    splitKeywords (Value.ofOption (n.config.find? "triggerKeywords")) ≠ []

/-- The settings of a node that starts a flow can be read, and they hold the keywords of the first
spelling, or those of the second if there is nothing under the first. -/
theorem exists_filled_of_trigger (hn : (Entries.keys n.config).Nodup) (h : n.type = "on_message") :
    ∃ f, n.filled = .ok f ∧ f.texts "keywords" =
      if (Value.ofOption (n.config.find? "keywords")).isNull
      then splitKeywords (Value.ofOption (n.config.find? "triggerKeywords"))
      else splitKeywords (Value.ofOption (n.config.find? "keywords")) := by
  have hform : formOfType n.type = Forms.trigger := by
    rw [h]
    rfl
  have hfill := read_trigger (withoutNulls n.config)
  rw [find?_withoutNulls hn, find?_withoutNulls hn] at hfill
  refine ⟨Filled.ofReadings (FieldKind.read Forms.trigger (withoutNulls n.config))
    (withoutNulls n.config), ?_, ?_⟩
  · rw [Node.filled, hform, Form.fill, hfill]
    rfl
  · rw [hfill]
    refine (filterMap_text?_map_str _).trans ?_
    cases n.config.find? "keywords" with
    | none => exact splitKeywords_filter _
    | some v =>
      cases hnull : v.isNull with
      | true => simpa [hnull, Option.filter_some, Value.ofOption] using splitKeywords_filter _
      | false => simp [hnull, Option.filter_some, Value.ofOption]

/-- A node gives its flow the keywords of its settings unless they are spelt otherwise, and then it
gives none. -/
theorem keywords_eq_texts_iff (hn : (Entries.keys n.config).Nodup) (h : n.type = "on_message") :
    ∃ f, n.filled = .ok f ∧ (n.keywords = f.texts "keywords" ↔ ¬ n.SpeltOtherwise) ∧
      (n.SpeltOtherwise → n.keywords = []) := by
  obtain ⟨f, hf, htexts⟩ := exists_filled_of_trigger hn h
  refine ⟨f, hf, ?_⟩
  rw [htexts, Node.keywords, if_pos h, SpeltOtherwise]
  cases hnull : (Value.ofOption (n.config.find? "keywords")).isNull with
  | false => simp
  | true =>
    have hnone : splitKeywords (Value.ofOption (n.config.find? "keywords")) = [] := by
      cases hv : Value.ofOption (n.config.find? "keywords") with
      | null => rfl
      | _ =>
        rw [hv] at hnull
        cases hnull
    rw [hnone]
    simp only [if_true, true_and, ne_eq, not_not, implies_true, and_true]
    exact eq_comm

end Node

/-! ### Keywords of a flow -/

namespace FlowRecord

variable {r : FlowRecord} {d : Document}

theorem configValue_of_said? {v : Value} (h : Document.said? r.config = some v) :
    r.configValue = v := by
  unfold configValue
  split
  · rename_i s hs
    rw [hs] at h
    rw [show Json.parse? s = some v from h]
    rfl
  · rename_i hs
    cases hconfig : r.config with
    | str s => exact absurd hconfig (hs s)
    | _ =>
      rw [hconfig] at h
      exact Option.some.inj h

/-- A document that can be read is read of what the stored flow says. -/
theorem parse_configValue (hd : Document.parse r.config = .ok d) :
    Document.parse r.configValue = .ok d := by
  by_cases hnull : r.config = .null
  · rw [configValue_of_said? (congrArg Document.said? hnull)]
    exact hnull ▸ hd
  rw [Document.parse_eq_ofRead hnull] at hd
  cases hsaid : Document.said? r.config with
  | none =>
    rw [hsaid] at hd
    cases hd
  | some v =>
    rw [hsaid] at hd
    rw [configValue_of_said? hsaid]
    cases v with
    | object raw => exact hd
    | _ => cases hd

/-- **Keywords that a node gives to its flow.**  The document of a flow is read, and in its objects
the fields have different names.  The keywords of the flow can be read unless its trigger block
cannot, and then they are its own, those of the block and those of the nodes, in this order.  The
settings of each node that starts the flow on a message can be read, and the node gives the flow the
keywords in them, unless these are given in the second spelling alone.  Then it gives none. -/
theorem node_keywords_as_read (hv : r.config.isTidy = true) (hd : Document.parse r.config = .ok d) :
    ((∃ ks, r.keywords = .ok ks) ↔ ¬ MisreadBlock r.configValue) ∧
    (∀ block, blockKeywords r.configValue = .ok block → r.keywords =
      .ok (splitKeywords (.list (r.triggerKeywords.map .str)) ++ block ++
        d.nodes.flatMap Node.keywords)) ∧
    ∀ n ∈ d.nodes, n.type = "on_message" → ∃ f, n.filled = .ok f ∧
      (n.keywords = f.texts "keywords" ↔ ¬ n.SpeltOtherwise) ∧
      (n.SpeltOtherwise → n.keywords = []) := by
  have hstored := Document.ofStored_of_parse (parse_configValue hd)
  have hkeywords : ∀ block, blockKeywords r.configValue = .ok block → r.keywords =
      .ok (splitKeywords (.list (r.triggerKeywords.map .str)) ++ block ++
        d.nodes.flatMap Node.keywords) := by
    intro block hblock
    rw [← nodeKeywords_eq]
    simp only [FlowRecord.keywords, hblock, hstored]
    rfl
  refine ⟨?_, hkeywords, fun n hn htype => ?_⟩
  · rw [exists_keywords_iff, Legible, ← Document.exists_ofStored_iff]
    exact and_iff_left ⟨d, hstored⟩
  · have hconfig := Document.isTidy_config_of_parse hv hd hn
    exact Node.keywords_eq_texts_iff (Value.isTidy_object.mp hconfig).1 htype

/-- A flow that one node starts, with these settings. -/
def startedBy (config : Entries Value) : FlowRecord := .ofNodes [.bare "t" "on_message" config]

theorem node_keywords_as_read_started :
    let n := Node.bare "t" "on_message" [("keywords", .str "hi, ho"), ("triggerKeywords", .str "no")]
    (startedBy n.config).keywords = .ok ["hi", "ho"] ∧
      ∃ f, n.filled = .ok f ∧ n.keywords = f.texts "keywords" := by
  intro n
  have hd : Document.parse (startedBy n.config).config = .ok ⟨[n], [], none⟩ := rfl
  obtain ⟨-, hkeywords, hnodes⟩ := node_keywords_as_read (by decide) hd
  obtain ⟨f, hf, hiff, -⟩ := hnodes n List.mem_cons_self rfl
  refine ⟨(hkeywords [] rfl).trans (congrArg Except.ok (by decide +kernel)), f, hf, hiff.mpr ?_⟩
  rintro ⟨hnull, -⟩
  cases hnull

/-- A keyword in the second spelling is one of the settings and not one of the flow. -/
theorem second_spelling_unheard :
    let n := Node.bare "t" "on_message" [("triggerKeywords", .str "hi")]
    Document.parse (startedBy n.config).config = .ok ⟨[n], [], none⟩ ∧
      (∃ f, n.filled = .ok f ∧ f.texts "keywords" = ["hi"]) ∧
      (startedBy n.config).keywords = .ok [] := by
  intro n
  obtain ⟨f, hf, htexts⟩ := Node.exists_filled_of_trigger (n := n) (by decide) rfl
  refine ⟨rfl, ⟨f, hf, htexts.trans (by decide +kernel)⟩, ?_⟩
  with_unfolding_all rfl

end FlowRecord

end ChatFlow
