import ChatFlow.Flow.Store
import ChatFlow.Proofs.Document.Shape
import ChatFlow.Proofs.Entries
import ChatFlow.Proofs.Run.Stores

/-!
# Which flow a message starts

A message starts the first active flow that has its text among its keywords.  The
keywords of a flow stand in three places of which two are in its stored document, so
a document of the wrong shape keeps them from being read (`exists_keywords_iff`).

The search goes through the flows up to the first that does not let it pass
(`firstFor_eq`): one that has the word, or one whose keywords cannot be read.  So a
flow that passes the word by may be taken out, or be stored with any other document
with which it still does, and nothing changes; but an active flow whose keywords
cannot be read takes every message from the flows behind it
(`triggers_undisturbed`).
-/

namespace ChatFlow

namespace FlowRecord

/-- In the trigger block of a document something that is no object stands in the place of its data. -/
def MisreadBlock (config : Value) : Prop :=
  ∃ trigger, config.field? "trigger" = some (.object trigger) ∧
    ((Value.object trigger).part "data").isOpen = false

/-- The stored document of a flow has a shape in which keywords can be looked for. -/
def Legible (r : FlowRecord) : Prop :=
  ¬ MisreadBlock r.configValue ∧ ¬ Document.Misread r.configValue

/-- A flow has a word, in lower case, among its keywords and may be started. -/
def Answers (word : String) (r : FlowRecord) : Prop :=
  r.status = .active ∧ ∃ ks, r.keywords = .ok ks ∧ ∃ k ∈ ks, Text.lower k = word

/-- A flow may not be started, or it does not have a word, in lower case, among its keywords. -/
def PassesBy (word : String) (r : FlowRecord) : Prop :=
  r.status = .active → ∃ ks, r.keywords = .ok ks ∧ ∀ k ∈ ks, Text.lower k ≠ word

/-- A flow may be started, but its keywords cannot be read. -/
def Fails (r : FlowRecord) : Prop := r.status = .active ∧ ¬ r.Legible

theorem exists_blockKeywords_iff {config : Value} :
    (∃ ks, blockKeywords config = .ok ks) ↔ ¬ MisreadBlock config := by
  unfold blockKeywords MisreadBlock
  cases htrigger : config.field? "trigger" with
  | none =>
    refine iff_of_true ⟨[], rfl⟩ ?_
    rintro ⟨trigger, h, -⟩
    cases h
  | some v =>
    cases v with
    | object trigger =>
      simp only [Option.getD_some, Value.get_object, exists_ok_bind_iff,
        Value.orObject_get_eq_ok_iff]
      constructor
      · rintro ⟨data, hdata, settings, ⟨hopen, -⟩, -⟩ ⟨trigger', h, hclosed⟩
        obtain rfl := Value.object.inj (Option.some.inj h)
        obtain rfl := Except.ok.inj hdata
        rw [hopen] at hclosed
        cases hclosed
      · intro h
        refine ⟨_, rfl, _, ⟨?_, rfl⟩, _, rfl⟩
        cases hopen : ((Value.object trigger).part "data").isOpen with
        | true => rfl
        | false => exact absurd ⟨trigger, rfl, hopen⟩ h
    | _ =>
      refine iff_of_true ⟨[], rfl⟩ ?_
      rintro ⟨trigger, h, -⟩
      cases h

/-- The keywords of a flow can be read exactly if its document has a shape in which they can be looked
for. -/
theorem exists_keywords_iff {r : FlowRecord} : (∃ ks, r.keywords = .ok ks) ↔ r.Legible := by
  unfold Legible
  rw [← exists_blockKeywords_iff, ← Document.exists_ofStored_iff]
  simp only [keywords, exists_ok_bind_iff]
  constructor
  · rintro ⟨block, hblock, document, hdocument, -⟩
    exact ⟨⟨block, hblock⟩, document, hdocument⟩
  · rintro ⟨⟨block, hblock⟩, document, hdocument⟩
    exact ⟨block, hblock, document, hdocument, _, rfl⟩

variable {r : FlowRecord} {word : String}

/-- A word passes by the flows that neither have it nor fail. -/
theorem passesBy_iff : r.PassesBy word ↔ ¬ r.Answers word ∧ ¬ r.Fails := by
  unfold PassesBy Answers Fails
  rw [← exists_keywords_iff]
  constructor
  · intro h
    refine ⟨?_, fun ⟨hactive, hfails⟩ => ?_⟩
    · rintro ⟨hactive, ks, hks, k, hk, hword⟩
      obtain ⟨ks', hks', hpass⟩ := h hactive
      obtain rfl := Except.ok.inj (hks.symm.trans hks')
      exact hpass k hk hword
    · obtain ⟨ks, hks, -⟩ := h hactive
      exact hfails ⟨ks, hks⟩
  · rintro ⟨hanswers, hfails⟩ hactive
    obtain ⟨ks, hks⟩ := Classical.not_not.mp fun hn => hfails ⟨hactive, hn⟩
    exact ⟨ks, hks, fun k hk hword => hanswers ⟨hactive, ks, hks, k, hk, hword⟩⟩

end FlowRecord

/-! ### The search -/

namespace Flows

/-- The store after flows have been saved one after the other. -/
def saved (records : List FlowRecord) : Flows := records.foldl save []

theorem nodup_keys_foldl_save (records : List FlowRecord) {flows : Flows}
    (h : (Entries.keys flows).Nodup) : (Entries.keys (records.foldl save flows)).Nodup := by
  induction records generalizing flows with
  | nil => exact h
  | cons r rest ih => exact ih (Entries.nodup_keys_put h r)

/-- Saved flows have different ids. -/
theorem nodup_keys_saved (records : List FlowRecord) : (Entries.keys (saved records)).Nodup :=
  nodup_keys_foldl_save records List.nodup_nil

theorem keyed_foldl_save (records : List FlowRecord) {flows : Flows} (h : flows.Keyed) :
    Keyed (records.foldl save flows) := by
  induction records generalizing flows with
  | nil => exact h
  | cons r rest ih => exact ih (h.save r)

/-- Whether the search for a word goes no further than a flow. -/
def stops (word : String) (r : FlowRecord) : Bool :=
  r.status = .active && match answersTo word r with
    | .ok found => found
    | .error _ => true

variable {word : String} {r : FlowRecord} {flows : Flows}

theorem answersTo_of_keywords {ks : List String} (h : r.keywords = .ok ks) :
    answersTo word r = .ok (ks.any fun k => Text.lower k = word) := by
  rw [answersTo, h]
  rfl

theorem exists_answersTo_error_iff : (∃ e, answersTo word r = .error e) ↔ ¬ r.Legible := by
  rw [exists_error_iff, ← FlowRecord.exists_keywords_iff]
  simp only [answersTo, exists_ok_bind_iff]
  refine not_congr ⟨?_, ?_⟩
  · rintro ⟨ks, hks, -⟩
    exact ⟨ks, hks⟩
  · rintro ⟨ks, hks⟩
    exact ⟨ks, hks, _, rfl⟩

/-- The search goes on exactly at the flows that pass the word by. -/
theorem stops_eq_false_iff : stops word r = false ↔ r.PassesBy word := by
  unfold stops FlowRecord.PassesBy
  by_cases hactive : r.status = .active
  · cases hks : r.keywords with
    | error e =>
      have he : answersTo word r = .error e := by
        rw [answersTo, hks]
        rfl
      simp [hactive, he]
    | ok ks => simp [hactive, answersTo_of_keywords hks]
  · simp [hactive]

/-- The search ends at the first flow that does not pass the word by. -/
theorem firstFor_eq (word : String) (flows : Flows) : firstFor word flows =
    match (flows.map (·.2)).find? (stops word) with
    | none => .ok none
    | some r => (answersTo word r).map fun _ => some r := by
  induction flows with
  | nil => rfl
  | cons e rest ih =>
    obtain ⟨k, r⟩ := e
    by_cases hactive : r.status = .active
    · cases ha : answersTo word r with
      | error e =>
        have hs : stops word r = true := by simp [stops, hactive, ha]
        simp only [firstFor, hactive, if_true, List.map_cons, List.find?_cons, hs, ha]
        rfl
      | ok found =>
        cases found with
        | true =>
          have hs : stops word r = true := by simp [stops, hactive, ha]
          simp only [firstFor, hactive, if_true, List.map_cons, List.find?_cons, hs, ha]
          rfl
        | false =>
          have hs : stops word r = false := by simp [stops, hactive, ha]
          simp only [firstFor, hactive, if_true, List.map_cons, List.find?_cons, hs, ha]
          exact ih
    · have hs : stops word r = false := by simp [stops, hactive]
      simp only [firstFor, hactive, if_false, List.map_cons, List.find?_cons, hs]
      exact ih

/-- The search fails at a flow whose keywords cannot be read, if it comes there. -/
theorem exists_firstFor_error_iff : (∃ e, firstFor word flows = .error e) ↔
    ∃ before r after, flows.map (·.2) = before ++ r :: after ∧ r.Fails ∧
      ∀ b ∈ before, b.PassesBy word := by
  rw [firstFor_eq]
  constructor
  · rintro ⟨e, he⟩
    split at he
    · cases he
    · rename_i r hfind
      obtain ⟨hstops, before, after, hflows, hbefore⟩ := List.find?_eq_some_iff_append.mp hfind
      have hactive : r.status = .active := by
        simp only [stops, Bool.and_eq_true, decide_eq_true_eq] at hstops
        exact hstops.1
      refine ⟨before, r, after, hflows, ⟨hactive, ?_⟩, fun b hb => ?_⟩
      · cases ha : answersTo word r with
        | error e' => exact exists_answersTo_error_iff.mp ⟨e', ha⟩
        | ok found =>
          rw [ha] at he
          cases he
      · exact stops_eq_false_iff.mp (by simpa using hbefore b hb)
  · rintro ⟨before, r, after, hflows, ⟨hactive, hlegible⟩, hbefore⟩
    obtain ⟨e, he⟩ : ∃ e, answersTo word r = .error e := exists_answersTo_error_iff.mpr hlegible
    have hstops : stops word r = true := by simp [stops, hactive, he]
    have hfind : (flows.map (·.2)).find? (stops word) = some r := by
      rw [List.find?_eq_some_iff_append]
      refine ⟨hstops, before, after, hflows, fun b hb => ?_⟩
      simp [stops_eq_false_iff.mpr (hbefore b hb)]
    refine ⟨e, ?_⟩
    simp only [hfind, he]
    rfl

/-- A flow that the search passes may be taken out. -/
theorem firstFor_erase (hkeyed : (Entries.keys flows).Nodup) {id : String}
    (hr : flows.find? id = some r) (hpass : r.PassesBy word) :
    firstFor word (Entries.erase flows id) = firstFor word flows := by
  have hpassed : ∀ e ∈ flows, e.1 = id → stops word e.2 = false := fun e he hid => by
    rw [Entries.eq_of_mem_of_nodup hkeyed hr he hid]
    exact stops_eq_false_iff.mpr hpass
  rw [firstFor_eq, firstFor_eq, Entries.find?_values_erase hpassed]

/-- A flow that the search passes may be stored with another document with which the search passes
it. -/
theorem firstFor_save (hkeyed : (Entries.keys flows).Nodup) {r' : FlowRecord}
    (hr : flows.find? r'.id = some r) (hpass : r.PassesBy word) (hpass' : r'.PassesBy word) :
    firstFor word (flows.save r') = firstFor word flows := by
  have hpassed : ∀ e ∈ flows, e.1 = r'.id → stops word e.2 = false := fun e he hid => by
    rw [Entries.eq_of_mem_of_nodup hkeyed hr he hid]
    exact stops_eq_false_iff.mpr hpass
  rw [firstFor_eq, firstFor_eq, save,
    Entries.find?_values_put hpassed (stops_eq_false_iff.mpr hpass')]

/-- The word that a message is, in the form in which keywords are compared. -/
def wordOf (text : String) : String := Text.lower (Text.strip text)

theorem forMessage_eq (flows : Flows) (text : String) : forMessage flows text =
    if wordOf text = "" then .ok none else firstFor (wordOf text) flows := rfl

/-- Every message is looked up among the flows, unless the search comes to an active flow whose
keywords cannot be read.  A flow that neither has the word nor is such a flow does not matter: it
may be taken out, or have any other document with which it is neither. -/
theorem triggers_undisturbed (records : List FlowRecord) (text : String) :
    ((∃ e, forMessage (saved records) text = .error e) ↔
      wordOf text ≠ "" ∧ ∃ before r after, (saved records).map (·.2) = before ++ r :: after ∧
        r.Fails ∧ ∀ b ∈ before, ¬ b.Answers (wordOf text) ∧ ¬ b.Fails) ∧
    ∀ id r, (saved records).find? id = some r → ¬ r.Answers (wordOf text) → ¬ r.Fails →
      forMessage (Entries.erase (saved records) id) text = forMessage (saved records) text ∧
      ∀ config, ¬ FlowRecord.Answers (wordOf text) { r with config := config } →
        ¬ FlowRecord.Fails { r with config := config } →
        forMessage ((saved records).save { r with config := config }) text =
          forMessage (saved records) text := by
  have hnodup := nodup_keys_saved records
  simp only [← FlowRecord.passesBy_iff]
  by_cases hword : wordOf text = ""
  · -- a message without a word starts nothing, whatever the store holds
    simp [forMessage_eq, hword]
  · simp only [forMessage_eq, if_neg hword]
    refine ⟨?_, fun id r hr hanswers hfails => ?_⟩
    · rw [exists_firstFor_error_iff]
      exact ⟨fun h => ⟨hword, h⟩, And.right⟩
    · have hpass : r.PassesBy (wordOf text) := FlowRecord.passesBy_iff.mpr ⟨hanswers, hfails⟩
      refine ⟨firstFor_erase hnodup hr hpass, fun config hanswers' hfails' => ?_⟩
      obtain rfl : r.id = id := keyed_foldl_save records (fun _ _ h => by cases h) id r hr
      exact firstFor_save hnodup hr hpass (FlowRecord.passesBy_iff.mpr ⟨hanswers', hfails'⟩)

/-- An active flow that starts on some words. -/
def started (id : String) (words : List String) (config : Value) : FlowRecord where
  id := id
  name := id
  userId := none
  description := none
  status := .active
  triggerKeywords := words
  config := config
  extra := []

/-- A flow on "bye" may be taken out, or be stored with an empty list in the place of its document,
without a difference for the message "hi". -/
theorem triggers_undisturbed_by_goodbye :
    let flows := saved [started "b" ["bye"] .null, started "h" ["hi"] .null]
    forMessage (Entries.erase flows "b") "hi" = forMessage flows "hi" ∧
      forMessage (flows.save (started "b" ["bye"] (.list []))) "hi" = forMessage flows "hi" := by
  have hb : ∀ config, stops (wordOf "hi") (started "b" ["bye"] config) = false →
      ¬ (started "b" ["bye"] config).Answers (wordOf "hi") ∧ ¬ (started "b" ["bye"] config).Fails :=
    fun _ h => FlowRecord.passesBy_iff.mp (stops_eq_false_iff.mp h)
  obtain ⟨hanswers, hfails⟩ := hb .null (by decide +kernel)
  obtain ⟨hanswers', hfails'⟩ := hb (.list []) (by decide +kernel)
  obtain ⟨herase, hsave⟩ := (triggers_undisturbed [started "b" ["bye"] .null,
    started "h" ["hi"] .null] "hi").2 "b" (started "b" ["bye"] .null) rfl hanswers hfails
  exact ⟨herase, hsave (.list []) hanswers' hfails'⟩

/-- A flow without keywords, with a number in the place of the data of its trigger block. -/
def blocked : FlowRecord := started "b" [] (.object [("trigger", .object [("data", .int 5)])])

/-- That flow has no word, and still the message "hi" does not find the flow behind it; once it is
taken out, the message does. -/
theorem blocked_flow_hides :
    let flows := saved [blocked, started "h" ["hi"] .null]
    ¬ blocked.Answers (wordOf "hi") ∧ (∃ e, forMessage flows "hi" = .error e) ∧
      forMessage (Entries.erase flows "b") "hi" = .ok (some (started "h" ["hi"] .null)) := by
  have hunread : ¬ blocked.Legible := fun h => h.1 ⟨_, rfl, rfl⟩
  refine ⟨?_, ?_, ?_⟩
  · rintro ⟨-, ks, hks, -⟩
    exact hunread (FlowRecord.exists_keywords_iff.mp ⟨ks, hks⟩)
  · rw [forMessage_eq, if_neg (by decide +kernel), exists_firstFor_error_iff]
    exact ⟨[], blocked, _, rfl, ⟨rfl, hunread⟩, fun b hb => by cases hb⟩
  · have hkeywords : (started "h" ["hi"] .null).keywords = .ok ["hi"] := by
      with_unfolding_all rfl
    have hanswers : answersTo (wordOf "hi") (started "h" ["hi"] .null) = .ok true := by
      rw [answersTo_of_keywords hkeywords]
      exact congrArg Except.ok (by decide +kernel)
    have hflows : Entries.erase (saved [blocked, started "h" ["hi"] .null]) "b" =
        [("h", started "h" ["hi"] .null)] := rfl
    rw [forMessage_eq, if_neg (by decide +kernel), hflows, firstFor,
      if_pos (show (started "h" ["hi"] .null).status = .active from rfl), hanswers]
    rfl

end Flows

end ChatFlow
