import Mathlib.Data.List.Induction
import ChatFlow.Proofs.Flow.Repeating
import ChatFlow.Proofs.Flow.Trigger

/-!
# The first flow that declares a word

A message starts a flow that may be started and declares the word that the message is, and if there
are several, then the one whose id was saved first (`message_starts_first`).  What an id stands for
is its last record (`Current`), but its place among the others is that of its first one (`rank`).

The words that a flow declares are defined by the three places where they stand, without the order
in which these are gone through (`FlowRecord.Declares`).
-/

namespace ChatFlow

/-! ### Words -/

/-- The words that a value gives as keywords: those between the commas of a text, or the items of a
list. -/
def wordsIn : Value → List String
  | .str s => (Text.splitAt ',' s).map Flows.wordOf
  | .list items => items.map fun item => Flows.wordOf item.display
  | _ => []

section

variable {word : String}

theorem mem_map_wordOf_iff (hword : word ≠ "") (texts : List String) :
    word ∈ texts.map Flows.wordOf ↔
      ∃ k ∈ (texts.map Text.strip).filter (· ≠ ""), Text.lower k = word := by
  constructor
  · intro h
    obtain ⟨s, hs, rfl⟩ := List.mem_map.mp h
    have hstrip : Text.strip s ≠ "" := by
      intro hempty
      refine hword ?_
      rw [Flows.wordOf, hempty]
      rfl
    exact ⟨_, List.mem_filter.mpr ⟨List.mem_map_of_mem hs, decide_eq_true hstrip⟩, rfl⟩
  · rintro ⟨k, hk, rfl⟩
    obtain ⟨s, hs, rfl⟩ := List.mem_map.mp (List.mem_filter.mp hk).1
    exact List.mem_map_of_mem hs

/-- A value gives a word if one of its keywords is this word in lower case. -/
theorem mem_wordsIn_iff (hword : word ≠ "") (v : Value) :
    word ∈ wordsIn v ↔ ∃ k ∈ splitKeywords v, Text.lower k = word := by
  cases v with
  | str s => exact mem_map_wordOf_iff hword _
  | list items =>
    have hmap : wordsIn (.list items) = (items.map Value.display).map Flows.wordOf := by
      rw [wordsIn, List.map_map]
      rfl
    rw [hmap]
    exact mem_map_wordOf_iff hword (items.map Value.display)
  | _ =>
    refine iff_of_false (fun h => nomatch h) ?_
    rintro ⟨k, hk, -⟩
    cases hk

end

namespace FlowRecord

/-- What stands in the place of the keywords in the trigger block of a document. -/
def blockSetting (config : Value) : Value :=
  (((config.part "trigger").part "data").part "config").part "keywords"

/-- A flow declares a word: among its own keywords, in the trigger block of its document, or in the
settings of a node that starts it on a message. -/
inductive Declares (word : String) (r : FlowRecord) : Prop
  | own {k : String} (hk : k ∈ r.triggerKeywords) (h : Flows.wordOf k = word)
  | block (h : word ∈ wordsIn (blockSetting r.configValue))
  | node {d : Document} {n : Node} (hd : Document.ofStored r.configValue = .ok d)
      (hn : n ∈ d.nodes) (htype : n.type = "on_message")
      (h : word ∈ wordsIn (Value.ofOption (n.config.find? "keywords")))

variable {r : FlowRecord} {word : String} {ks : List String}

theorem eq_of_blockKeywords {config : Value} (h : blockKeywords config = .ok ks) :
    ks = splitKeywords (blockSetting config) := by
  have hpart : (config.field? "trigger").getD .null = config.part "trigger" := Value.getD_null _
  rw [blockKeywords, hpart] at h
  rw [blockSetting]
  cases htrigger : config.part "trigger" with
  | object trigger =>
    rw [htrigger] at h
    obtain ⟨data, hdata, h⟩ := bind_eq_ok_iff.mp h
    obtain ⟨settings, hsettings, h⟩ := bind_eq_ok_iff.mp h
    obtain rfl := pure_eq_ok_iff.mp h
    obtain ⟨-, rfl⟩ := Value.orObject_get_eq_ok_iff.mp hsettings
    obtain rfl := Except.ok.inj hdata
    rfl
  | _ =>
    rw [htrigger] at h
    exact (Except.ok.inj h).symm

theorem exists_keyword_of_node_iff (hword : word ≠ "") (n : Node) :
    (∃ k ∈ n.keywords, Text.lower k = word) ↔ n.type = "on_message" ∧
      word ∈ wordsIn (Value.ofOption (n.config.find? "keywords")) := by
  rw [mem_wordsIn_iff hword, Node.keywords]
  split
  · rename_i htype
    exact (and_iff_right htype).symm
  · rename_i htype
    refine iff_of_false ?_ fun h => htype h.1
    rintro ⟨k, hk, -⟩
    cases hk

/-- The keywords of a flow are the words that it declares. -/
theorem declares_iff (hword : word ≠ "") (h : r.keywords = .ok ks) :
    r.Declares word ↔ ∃ k ∈ ks, Text.lower k = word := by
  obtain ⟨block, hblock, h⟩ := bind_eq_ok_iff.mp h
  obtain ⟨d, hd, hks⟩ := bind_eq_ok_iff.mp h
  obtain rfl := pure_eq_ok_iff.mp hks
  obtain rfl := eq_of_blockKeywords hblock
  have hown : (∃ k ∈ r.triggerKeywords, Flows.wordOf k = word) ↔
      ∃ k ∈ splitKeywords (.list (r.triggerKeywords.map .str)), Text.lower k = word := by
    rw [← mem_wordsIn_iff hword, wordsIn, List.map_map, List.mem_map]
    rfl
  constructor
  · rintro (⟨hk, hsays⟩ | hsays | ⟨hd', hn, htype, hsays⟩)
    · obtain ⟨k, hk, hkey⟩ := hown.mp ⟨_, hk, hsays⟩
      exact ⟨k, List.mem_append_left _ (List.mem_append_left _ hk), hkey⟩
    · obtain ⟨k, hk, hkey⟩ := (mem_wordsIn_iff hword _).mp hsays
      exact ⟨k, List.mem_append_left _ (List.mem_append_right _ hk), hkey⟩
    · obtain rfl := Except.ok.inj (hd'.symm.trans hd)
      obtain ⟨k, hk, hkey⟩ := (exists_keyword_of_node_iff hword _).mpr ⟨htype, hsays⟩
      refine ⟨k, List.mem_append_right _ ?_, hkey⟩
      rw [nodeKeywords_eq]
      exact List.mem_flatMap.mpr ⟨_, hn, hk⟩
  · rintro ⟨k, hk, hkey⟩
    rcases List.mem_append.mp hk with hk | hk
    · rcases List.mem_append.mp hk with hk | hk
      · obtain ⟨k, hk, hsays⟩ := hown.mpr ⟨k, hk, hkey⟩
        exact .own hk hsays
      · exact .block ((mem_wordsIn_iff hword _).mpr ⟨k, hk, hkey⟩)
    · rw [nodeKeywords_eq] at hk
      obtain ⟨n, hn, hk⟩ := List.mem_flatMap.mp hk
      obtain ⟨htype, hsays⟩ := (exists_keyword_of_node_iff hword n).mp ⟨k, hk, hkey⟩
      exact .node hd hn htype hsays

end FlowRecord

/-! ### The first of a list -/

/-- Where the places in a list increase, a search finds what is least in place. -/
theorem find?_eq_some_iff_least {α : Type} {place : α → Nat} {p : α → Bool} {l : List α} {a : α}
    (h : l.Pairwise fun b c => place b < place c) :
    l.find? p = some a ↔ a ∈ l ∧ p a = true ∧ ∀ b ∈ l, p b = true → place a ≤ place b := by
  induction l with
  | nil => simp
  | cons c rest ih =>
    obtain ⟨hc, hrest⟩ := List.pairwise_cons.mp h
    rw [List.find?_cons]
    cases hp : p c with
    | true =>
      simp only [Option.some.injEq]
      constructor
      · rintro rfl
        refine ⟨List.mem_cons_self, hp, fun b hb _ => ?_⟩
        rcases List.mem_cons.mp hb with rfl | hb
        · exact Nat.le_refl _
        · exact Nat.le_of_lt (hc b hb)
      · rintro ⟨ha, -, hleast⟩
        rcases List.mem_cons.mp ha with rfl | ha
        · rfl
        · exact absurd (hc a ha) (Nat.not_lt.mpr (hleast c List.mem_cons_self hp))
    | false =>
      rw [ih hrest]
      constructor
      · rintro ⟨ha, hpa, hleast⟩
        refine ⟨List.mem_cons_of_mem c ha, hpa, fun b hb hpb => ?_⟩
        rcases List.mem_cons.mp hb with rfl | hb
        · rw [hp] at hpb
          cases hpb
        · exact hleast b hb hpb
      · rintro ⟨ha, hpa, hleast⟩
        rcases List.mem_cons.mp ha with rfl | ha
        · rw [hp] at hpa
          cases hpa
        · exact ⟨ha, hpa, fun b hb => hleast b (List.mem_cons_of_mem c hb)⟩

namespace Flows

variable {records : List FlowRecord} {r : FlowRecord} {word : String}

/-! ### The order of the store -/

/-- The last record that was saved under its id. -/
def Current (records : List FlowRecord) (r : FlowRecord) : Prop :=
  (records.filter fun r' => r'.id = r.id).getLast? = some r

/-- The place of an id in the order in which the ids were first saved. -/
def rank (records : List FlowRecord) (id : String) : Nat := (records.map FlowRecord.id).idxOf id

theorem saved_concat (records : List FlowRecord) (r : FlowRecord) :
    saved (records ++ [r]) = (saved records).save r := List.foldl_append

/-- An id stands for the last record that was saved under it, or else for what it stood for before. -/
theorem find?_foldl_save (records : List FlowRecord) (flows : Flows) (id : String) :
    (records.foldl save flows).find? id =
      ((records.filter fun r => r.id = id).getLast?).or (flows.find? id) := by
  induction records using List.reverseRecOn with
  | nil => rfl
  | append_singleton records r ih =>
    rw [List.foldl_append, List.foldl_cons, List.foldl_nil, find?_save, List.filter_append]
    by_cases hid : r.id = id
    · simp [hid]
    · simp [hid, ih, Ne.symm hid]

theorem find?_saved (records : List FlowRecord) (id : String) :
    (saved records).find? id = (records.filter fun r => r.id = id).getLast? := by
  rw [saved, find?_foldl_save]
  exact Option.or_none

theorem mem_keys_saved {id : String} :
    id ∈ Entries.keys (saved records) ↔ id ∈ records.map FlowRecord.id := by
  induction records using List.reverseRecOn with
  | nil => rfl
  | append_singleton records r ih =>
    rw [saved_concat, save, Entries.keys_put, List.map_append, List.mem_append, ← ih,
      List.map_singleton, List.mem_singleton]
    split
    · rename_i hmem
      refine ⟨Or.inl, ?_⟩
      rintro (h | rfl)
      · exact h
      · exact hmem
    · rw [List.mem_append, List.mem_singleton]

/-- Saving once more leaves the ranks as they are. -/
theorem rank_concat {id : String} (h : id ∈ records.map FlowRecord.id) (r : FlowRecord) :
    rank (records ++ [r]) id = rank records id := by
  rw [rank, List.map_append, List.idxOf_append_of_mem h, rank]

/-- An id that is new ranks behind all others. -/
theorem rank_lt_rank_concat {id : String} (h : id ∈ records.map FlowRecord.id)
    (hr : r.id ∉ records.map FlowRecord.id) : rank (records ++ [r]) id < rank (records ++ [r]) r.id := by
  rw [rank_concat h, rank, rank, List.map_append, List.idxOf_append_of_notMem hr]
  have hlt := List.idxOf_lt_length_of_mem h
  omega

/-- The ids stand in the order in which they were first saved. -/
theorem pairwise_keys_saved (records : List FlowRecord) :
    (Entries.keys (saved records)).Pairwise fun a b => rank records a < rank records b := by
  induction records using List.reverseRecOn with
  | nil => exact List.Pairwise.nil
  | append_singleton records r ih =>
    have hkept : (Entries.keys (saved records)).Pairwise fun a b =>
        rank (records ++ [r]) a < rank (records ++ [r]) b := by
      refine ih.imp_of_mem fun {a b} ha hb hlt => ?_
      rw [rank_concat (mem_keys_saved.mp ha), rank_concat (mem_keys_saved.mp hb)]
      exact hlt
    rw [saved_concat, save, Entries.keys_put]
    split
    · exact hkept
    · rename_i hnew
      refine List.pairwise_append.mpr ⟨hkept, List.pairwise_singleton _ _, fun a ha b hb => ?_⟩
      obtain rfl := List.mem_singleton.mp hb
      exact rank_lt_rank_concat (mem_keys_saved.mp ha) fun h => hnew (mem_keys_saved.mpr h)

theorem keyed_saved (records : List FlowRecord) : Keyed (saved records) :=
  keyed_foldl_save records fun _ _ h => nomatch h

/-- The records in the store are the current ones. -/
theorem mem_values_saved : r ∈ (saved records).map (·.2) ↔ Current records r := by
  rw [Current, ← find?_saved]
  constructor
  · intro h
    obtain ⟨⟨id, r'⟩, he, rfl⟩ := List.mem_map.mp h
    have hfind := (Entries.find?_eq_some_iff_mem (nodup_keys_saved records)).mpr he
    obtain rfl := keyed_saved records id r' hfind
    exact hfind
  · exact fun h => List.mem_map_of_mem (Entries.mem_of_find? h)

/-- The records in the store stand in the order in which their ids were first saved. -/
theorem pairwise_values_saved (records : List FlowRecord) : ((saved records).map (·.2)).Pairwise
    fun r r' => rank records r.id < rank records r'.id := by
  have hkeys := pairwise_keys_saved records
  rw [Entries.keys, List.pairwise_map] at hkeys
  rw [List.pairwise_map]
  refine hkeys.imp_of_mem fun {e e'} he he' hlt => ?_
  have hid {e : String × FlowRecord} (he : e ∈ saved records) : e.2.id = e.1 :=
    keyed_saved records e.1 e.2
      ((Entries.find?_eq_some_iff_mem (nodup_keys_saved records)).mpr he)
  rw [hid he, hid he']
  exact hlt

/-! ### The search -/

/-- The search does not pass by an active flow that declares the word. -/
theorem stops_of_declares (hword : word ≠ "") (hactive : r.status = .active)
    (h : r.Declares word) : stops word r = true := by
  by_contra hstops
  obtain ⟨ks, hks, hpass⟩ := stops_eq_false_iff.mp (Bool.not_eq_true _ ▸ hstops) hactive
  obtain ⟨k, hk, hkey⟩ := (FlowRecord.declares_iff hword hks).mp h
  exact hpass k hk hkey

/-- Where the search has a result, this is the first flow that it does not pass by, which is active
and declares the word. -/
theorem find?_stops_of_firstFor (hword : word ≠ "") {flows : Flows} {result : Option FlowRecord}
    (h : firstFor word flows = .ok result) : (flows.map (·.2)).find? (stops word) = result ∧
      ∀ r, result = some r → r.status = .active ∧ r.Declares word := by
  rw [firstFor_eq] at h
  cases hfind : (flows.map (·.2)).find? (stops word) with
  | none =>
    rw [hfind] at h
    obtain rfl := Except.ok.inj h
    exact ⟨rfl, fun r hr => nomatch hr⟩
  | some r =>
    rw [hfind] at h
    obtain ⟨found, hfound, rfl⟩ := map_eq_ok_iff.mp h
    refine ⟨rfl, fun r' hr' => ?_⟩
    obtain rfl := Option.some.inj hr'
    have hstops := List.find?_some hfind
    rw [stops, hfound, Bool.and_eq_true, decide_eq_true_iff] at hstops
    obtain ⟨hactive, rfl⟩ := hstops
    obtain ⟨ks, hks, hany⟩ := bind_eq_ok_iff.mp hfound
    obtain ⟨k, hk, hkey⟩ := List.any_eq_true.mp (pure_eq_ok_iff.mp hany).symm
    exact ⟨hactive, (FlowRecord.declares_iff hword hks).mpr ⟨k, hk, of_decide_eq_true hkey⟩⟩

/-- A flow leads for a word: its current record is active and declares the word, and no other flow
of which this is true was first saved before it. -/
structure Leads (records : List FlowRecord) (word : String) (r : FlowRecord) : Prop where
  current : Current records r
  active : r.status = .active
  declares : r.Declares word
  first : ∀ r', Current records r' → r'.status = .active → r'.Declares word →
    rank records r.id ≤ rank records r'.id

/-- The search finds the flow that leads. -/
theorem eq_some_iff_leads (hword : word ≠ "") {result : Option FlowRecord}
    (h : firstFor word (saved records) = .ok result) : result = some r ↔ Leads records word r := by
  obtain ⟨hfind, hresult⟩ := find?_stops_of_firstFor hword h
  have hleast {r : FlowRecord} : ((saved records).map (·.2)).find? (stops word) = some r ↔ _ :=
    find?_eq_some_iff_least (pairwise_values_saved records)
  have hleads {r : FlowRecord} (hr : result = some r) : Leads records word r := by
    obtain ⟨hactive, hdeclares⟩ := hresult r hr
    obtain ⟨hmem, -, hfirst⟩ := hleast.mp (hfind.trans hr)
    exact ⟨mem_values_saved.mp hmem, hactive, hdeclares, fun r' hcurrent hactive' hdeclares' =>
      hfirst r' (mem_values_saved.mpr hcurrent) (stops_of_declares hword hactive' hdeclares')⟩
  refine ⟨hleads, fun hr => ?_⟩
  have hmem := mem_values_saved.mpr hr.current
  have hstops := stops_of_declares hword hr.active hr.declares
  cases result with
  | none => exact absurd hstops (List.find?_eq_none.mp hfind r hmem)
  | some first =>
    -- both come first, each before the other one
    have hlead := hleads rfl
    obtain ⟨-, -, hfirst⟩ := hleast.mp hfind
    have hbefore := hr.first first hlead.current hlead.active hlead.declares
    rw [← hfind]
    exact hleast.mpr ⟨hmem, hstops, fun b hb hpb => Nat.le_trans hbefore (hfirst b hb hpb)⟩

/-- The search finds nothing if no active flow declares the word. -/
theorem eq_none_iff_of_firstFor (hword : word ≠ "") {result : Option FlowRecord}
    (h : firstFor word (saved records) = .ok result) : result = none ↔
      ∀ r, Current records r → r.status = .active → ¬ r.Declares word := by
  constructor
  · rintro rfl r hcurrent hactive hdeclares
    obtain ⟨hfind, -⟩ := find?_stops_of_firstFor hword h
    exact List.find?_eq_none.mp hfind r (mem_values_saved.mpr hcurrent)
      (stops_of_declares hword hactive hdeclares)
  · intro hnone
    refine Option.eq_none_iff_forall_ne_some.mpr fun r hr => ?_
    have hlead := (eq_some_iff_leads hword h).mp hr
    exact hnone r hlead.current hlead.active hlead.declares

/-! ### Calls -/

/-- What a flow is saved from: a record, or a value that has to be one. -/
inductive Given where
  | record (r : FlowRecord)
  | value (v : Value)

/-- The record that is saved, if there is one. -/
def Given.read : Given → Except Failure FlowRecord
  | .record r => .ok r
  | .value v => FlowRecord.ofValue v

/-- The store after a call: one that fails saves nothing. -/
def attempt (flows : Flows) (g : Given) : Flows :=
  match g.read with
  | .ok r => flows.save r
  | .error _ => flows

/-- The store after calls one after the other. -/
def after (given : List Given) : Flows := given.foldl attempt []

/-- The records that calls save. -/
def recordsOf (given : List Given) : List FlowRecord :=
  given.filterMap fun g => g.read.toOption

theorem after_eq_saved (given : List Given) : after given = saved (recordsOf given) := by
  rw [after, saved, recordsOf, List.foldl_filterMap]
  refine congrArg (fun step => given.foldl step []) (funext fun flows => funext fun g => ?_)
  rw [attempt]
  cases g.read <;> rfl

/-- The flows that may be started, in their order. -/
def actives (flows : Flows) : List FlowRecord :=
  (flows.map (·.2)).filter fun r => r.status = .active

/-- The search only looks at flows that may be started. -/
theorem firstFor_congr {flows flows' : Flows} (h : actives flows = actives flows') (word : String) :
    firstFor word flows = firstFor word flows' := by
  have hactives (flows : Flows) :
      (flows.map (·.2)).find? (stops word) = (actives flows).find? (stops word) := by
    rw [actives, List.find?_filter]
    refine congrArg (fun p => (flows.map (·.2)).find? p) (funext fun r => ?_)
    simp [stops]
  rw [firstFor_eq, firstFor_eq, hactives, hactives, h]

theorem recordsOf_concat {given : List Given} {g : Given} {r : FlowRecord} (h : g.read = .ok r) :
    recordsOf (given ++ [g]) = recordsOf given ++ [r] := by
  rw [recordsOf, List.filterMap_append, recordsOf]
  simp only [List.filterMap_cons, List.filterMap_nil, h, Except.toOption]

/-- **The first flow that declares the word.**  Flows are saved by any calls.  A message that gets an
answer starts nothing if it has no word, or no active flow declares its word.  Otherwise it starts
the current record of the first such flow, in the order in which the ids were first saved.  A call
that saves a flow again leaves all ids in their places, and changes the record of this id alone.
And flows that are not active do not matter: where the active ones are the same, in the same order,
every message gets the same answer. -/
theorem message_starts_first (given : List Given) (text : String) :
    (∀ result, forMessage (after given) text = .ok result →
      (result = none ↔ wordOf text = "" ∨ ∀ r, Current (recordsOf given) r →
        r.status = .active → ¬ r.Declares (wordOf text)) ∧
      ∀ r, result = some r ↔ wordOf text ≠ "" ∧ Leads (recordsOf given) (wordOf text) r) ∧
    (∀ g r, g.read = .ok r → r.id ∈ (recordsOf given).map FlowRecord.id →
      Entries.keys (after (given ++ [g])) = Entries.keys (after given) ∧
      ∀ id, (after (given ++ [g])).find? id =
        if id = r.id then some r else (after given).find? id) ∧
    ∀ given', actives (after given') = actives (after given) →
      forMessage (after given') text = forMessage (after given) text := by
  refine ⟨fun result h => ?_, fun g r hg hid => ?_, fun given' h => ?_⟩
  · rw [forMessage_eq, after_eq_saved] at h
    by_cases hword : wordOf text = ""
    · rw [if_pos hword] at h
      obtain rfl := Except.ok.inj h
      exact ⟨iff_of_true rfl (Or.inl hword),
        fun r => iff_of_false (fun hr => nomatch hr) fun hr => hr.1 hword⟩
    · rw [if_neg hword] at h
      rw [eq_none_iff_of_firstFor hword h]
      refine ⟨(or_iff_right hword).symm, fun r => ?_⟩
      rw [eq_some_iff_leads hword h]
      exact (and_iff_right hword).symm
  · rw [after_eq_saved, after_eq_saved, recordsOf_concat hg, saved_concat]
    refine ⟨?_, fun id => find?_save _ r id⟩
    rw [save, Entries.keys_put, if_pos (mem_keys_saved.mpr hid)]
  · rw [forMessage_eq, forMessage_eq, firstFor_congr h]

/-- The keyword comes to the first flow with its second record, and it is the first flow still. -/
def resaved : List Given :=
  [.record (started "a" ["bye"] .null), .record (started "b" ["hi"] .null), .value (.int 5),
    .record (started "a" ["Hi"] .null)]

theorem message_starts_first_resaved : ∃ r, forMessage (after resaved) " HI " = .ok (some r) ∧
    r.id = "a" ∧ Leads (recordsOf resaved) "hi" r := by
  have hid : (forMessage (after resaved) " HI ").toOption.join.map FlowRecord.id = some "a" := by
    decide +kernel
  have hword : wordOf " HI " = "hi" := by decide +kernel
  obtain ⟨hstarts, -⟩ := message_starts_first resaved " HI "
  cases hresult : forMessage (after resaved) " HI " with
  | error e =>
    rw [hresult] at hid
    cases hid
  | ok result =>
    rw [hresult] at hid
    obtain ⟨r, rfl, hr⟩ := Option.map_eq_some_iff.mp hid
    obtain ⟨-, hlead⟩ := ((hstarts _ hresult).2 r).mp rfl
    exact ⟨r, rfl, hr, hword ▸ hlead⟩

end Flows

end ChatFlow
