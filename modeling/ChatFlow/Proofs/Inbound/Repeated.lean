import ChatFlow.Proofs.Inbound.Reply

/-!
# A reply repeats what the message says

The same message can start a run or answer a paused one, and it is read by other means
for the one than for the other.  Under the names that both give to it the two readings
agree: apart from what belongs to the node that waits, nothing is told to a paused run
that a new run would not be told too (`Message.Delivered.reply_repeats`).
-/

namespace ChatFlow

namespace Entries

variable {α : Type} {own pairs : Entries α} {name : String}

theorem find?_ofPairs_eq_none (h : name ∉ keys pairs) : (ofPairs pairs).find? name = none := by
  refine find?_merge_of_forall_ne fun e he heq => ?_
  exact h (List.mem_map.mpr ⟨e, he, heq⟩)

/-- What comes before under other names does not show. -/
theorem find?_ofPairs_append (h : name ∉ keys own) :
    (ofPairs (own ++ pairs)).find? name = (ofPairs pairs).find? name := by
  rw [ofPairs, merge_append, find?_merge, ← ofPairs, find?_ofPairs_eq_none h, Option.or_none]

end Entries

namespace Message

open Entries

/-! ### Names -/

/-- The beginnings of the names that buttons, rows of lists, locations and the fields of forms go by. -/
def sharedStarts : List String := ["button.", "list.", "location.", "flow_response."]

/-- Whether a name tells of a button, of a row of a list, of a location or of a form. -/
def isShared (name : String) : Bool :=
  name == "flow_response" || sharedStarts.any fun start => Text.startsWith start.toList name.toList

/-- A name that neither belongs to the node that waits nor is the one under which it keeps a text. -/
structure Common (node : String) (saveAs : Option String) (name : String) : Prop where
  own : ¬ OfNode node name
  saved : saveAs ≠ some name

/-- The names under which a message says the same to a paused run as to one that it starts: those
that tell of a button, a row, a location or a form, and for a text those of the text itself. -/
def Repeats (m : Message) (name : String) : Prop :=
  isShared name = true ∨ (m.type = "text" ∧ name ∈ ["message.body", "userMessage"])

variable {m : Message} {head typed further : Entries Value} {node name : String}
  {saveAs : Option String}

theorem not_isShared_of_mem_headNames (h : name ∈ headNames) : isShared name = false := by
  have hall : ∀ name ∈ headNames, isShared name = false := by decide
  exact hall name h

theorem isShared_of_location (h : Text.startsWith "location.".toList name.toList = true) :
    isShared name = true := by
  rw [isShared, Bool.or_eq_true]
  exact Or.inr (List.any_eq_true.mpr ⟨"location.", by decide, h⟩)

theorem Common.not_mem_keys {own : Entries Value} (hc : Common node saveAs name)
    (h : ∀ e ∈ own, OfNode node e.1) : name ∉ keys own := by
  intro hname
  obtain ⟨e, he, rfl⟩ := List.mem_map.mp hname
  exact hc.own (h e he)

/-! ### What a message has by its type -/

theorem startsWith_locationVariables {location : Value}
    (h : locationVariables location = .ok typed) (hname : name ∈ keys typed) :
    Text.startsWith "location.".toList name.toList = true := by
  simp only [locationVariables, bind_eq_ok_iff, pure_eq_ok_iff] at h
  obtain ⟨_, -, _, -, _, -, _, -, rfl⟩ := h
  have hall : ∀ name ∈ ["location.latitude", "location.longitude", "location.name",
      "location.address"], Text.startsWith "location.".toList name.toList = true := by decide
  exact hall name hname

theorem not_isShared_mediaVariables {kind : String} {media : Value} (hkind : kind ∈ mediaTypes)
    (h : mediaVariables kind media = .ok typed) (hname : name ∈ keys typed) :
    isShared name = false := by
  have hall : ∀ kind ∈ mediaTypes, ∀ name ∈ ["media.type", "media.id", "media.mime_type",
      kind ++ ".id", "media.caption", "media.filename"], isShared name = false := by decide
  refine hall kind hkind name ?_
  obtain ⟨fs, rfl⟩ := Value.exists_of_isObject (exists_mediaVariables_iff.mp ⟨typed, h⟩)
  simp only [mediaTypes, List.mem_cons, List.not_mem_nil, or_false] at hkind
  rcases hkind with rfl | rfl | rfl | rfl
  all_goals
    obtain rfl := Except.ok.inj h
    simp only [keys, List.map_append, List.map_cons, List.map_nil, List.mem_append, List.mem_cons,
      List.not_mem_nil, or_false] at hname ⊢
    grind

/-- A message that is neither interactive nor a location tells of none of the shared things. -/
theorem not_isShared_typeVariables {fs : Entries Value} {kind : String}
    (hinteractive : kind ≠ "interactive") (hlocation : kind ≠ "location")
    (h : typeVariables (.object fs) (.str kind) = .ok typed) (hname : name ∈ keys typed) :
    isShared name = false := by
  unfold typeVariables at h
  split at h
  · obtain ⟨text, -, h⟩ := bind_eq_ok_iff.mp h
    obtain ⟨body, -, h⟩ := bind_eq_ok_iff.mp h
    obtain rfl := pure_eq_ok_iff.mp h
    obtain rfl := List.mem_singleton.mp hname
    exact (by decide : isShared "text.body" = false)
  · rename_i heq
    exact absurd (Value.str.inj heq) hlocation
  · rename_i heq
    exact absurd (Value.str.inj heq) hinteractive
  · rename_i heq
    split at h
    · rename_i hmedia
      obtain ⟨media, -, h⟩ := bind_eq_ok_iff.mp h
      split at h
      · exact not_isShared_mediaVariables (List.contains_iff_mem.mp hmedia) h hname
      · obtain rfl := pure_eq_ok_iff.mp h
        cases hname
    · obtain rfl := pure_eq_ok_iff.mp h
      cases hname
  · obtain rfl := pure_eq_ok_iff.mp h
    cases hname

/-! ### A text that answers -/

/-- Apart from what belongs to the node, a text is told as the text of the message. -/
theorem find?_textReply (hc : Common node saveAs name) :
    (textReply node saveAs m).find? name =
      if name ∈ ["message.body", "userMessage"] then some (.str m.body) else none := by
  obtain ⟨saved, hsaved, hreply⟩ : ∃ saved : Entries Value, (∀ e ∈ saved, e.1 ≠ name) ∧
      textReply node saveAs m = (ofPairs ([(node, .object [("type", .str "text"), ("text", .str m.body)])]
        ++ [("message.body", .str m.body), ("userMessage", .str m.body)])).merge saved := by
    refine ⟨_, ?_, merge_append _ _ _⟩
    intro e he heq
    split at he
    · split at he
      · cases he
      · rename_i saveAs _
        obtain rfl := List.mem_singleton.mp he
        exact hc.saved (congrArg some heq)
    · cases he
  have hown : name ∉ keys [(node, Value.object [("type", .str "text"), ("text", .str m.body)])] := by
    intro hmem
    exact hc.own (Or.inl (List.mem_singleton.mp hmem))
  have hn : (keys [("message.body", Value.str m.body), ("userMessage", .str m.body)]).Nodup :=
    (by decide : ["message.body", "userMessage"].Nodup)
  rw [hreply, find?_merge_of_forall_ne hsaved, find?_ofPairs_append hown, find?_ofPairs hn]
  by_cases hbody : "message.body" = name
  · simp [find?_cons, hbody.symm]
  · by_cases hsaid : "userMessage" = name
    · simp [find?_cons, hsaid.symm]
    · simp [find?_cons, hbody, hsaid, Ne.symm hbody, Ne.symm hsaid]

/-! ### The two readings side by side -/

/-- Under a name the paused run is told what the message has by its type. -/
def Tells (typed further : Entries Value) (name : String) : Prop :=
  further.find? name = (ofPairs typed).find? name

/-- What a paused run is told, `further`, agrees with what the message tells to one that it starts. -/
structure Agrees (m : Message) (further : Entries Value) (name : String) : Prop where
  repeated : m.Repeats name → further.find? name = m.vars.find? name
  only : ∀ v, further.find? name = some v → m.vars.find? name = some v

namespace Parted

variable (h : m.Parted head typed)
include h

theorem find?_vars : m.vars.find? name = ((ofPairs typed).find? name).or (head.find? name) := by
  rw [h.vars, find?_merge]

theorem find?_vars_of_isShared (hname : isShared name = true) :
    m.vars.find? name = (ofPairs typed).find? name := by
  have hhead : head.find? name = none := by
    refine find?_eq_none fun hmem => ?_
    rw [not_isShared_of_mem_headNames (h.names name hmem)] at hname
    cases hname
  rw [h.find?_vars, hhead, Option.or_none]

theorem agrees_of_tells (htype : m.type ≠ "text") (ht : Tells typed further name) :
    m.Agrees further name where
  repeated hr := by
    rcases hr with hshared | ⟨htext, -⟩
    · rw [ht, h.find?_vars_of_isShared hshared]
    · exact absurd htext htype
  only v hv := by
    have htyped : (ofPairs typed).find? name = some v := ht.symm.trans hv
    rw [h.find?_vars, htyped, Option.some_or]

/-- A paused run is told the location under the names that the message has it under. -/
theorem tells_locationReply (htype : m.type = "location") (hname : name ≠ node) :
    Tells typed (locationReply node m) name := by
  have hput : (locationReply node m).find? name =
      find? (m.vars.filter fun e => Text.startsWith "location.".toList e.1.toList) name :=
    find?_put_ne _ _ hname
  rw [Tells, hput, find?_filter fun k => Text.startsWith "location.".toList k.toList]
  split
  · rename_i hstart
    exact h.find?_vars_of_isShared (isShared_of_location hstart)
  · rename_i hstart
    refine (find?_ofPairs_eq_none fun hmem => hstart ?_).symm
    have htyped := h.typed
    rw [htype] at htyped
    obtain ⟨location, -, htyped⟩ :=
      (bind_eq_ok_iff (x := Value.get (.object m.raw) "location")).mp htyped
    split at htyped
    · exact startsWith_locationVariables htyped hmem
    · obtain rfl := pure_eq_ok_iff.mp htyped
      cases hmem

theorem nodup_vars : (keys m.vars).Nodup := by
  rw [h.vars]
  exact nodup_keys_merge h.nodup typed

/-- The text of a message is not touched by what it has by its type. -/
theorem find?_vars_text (htype : m.type = "text") (hname : name ∈ ["message.body", "userMessage"]) :
    m.vars.find? name = some (.str m.body) := by
  have htyped := h.typed
  rw [htype] at htyped
  obtain ⟨text, -, htyped⟩ :=
    (bind_eq_ok_iff (x := Value.get (.object m.raw) "text")).mp htyped
  obtain ⟨body, -, htyped⟩ := bind_eq_ok_iff.mp htyped
  obtain rfl := pure_eq_ok_iff.mp htyped
  have hhead : head.find? name = some (.str m.body) := by
    rcases List.mem_cons.mp hname with rfl | hname
    · exact h.body
    · obtain rfl := List.mem_singleton.mp hname
      exact h.said
  have hother : name ∉ keys [("text.body", body.orEmpty)] := by
    intro hmem
    obtain rfl : name = "text.body" := List.mem_singleton.mp hmem
    exact absurd hname (by decide)
  rw [h.find?_vars, find?_ofPairs_eq_none hother, Option.none_or, hhead]

/-- A message that is neither interactive nor a location has nothing under a shared name. -/
theorem find?_vars_eq_none (hinteractive : m.type ≠ "interactive") (hlocation : m.type ≠ "location")
    (hname : isShared name = true) : m.vars.find? name = none := by
  rw [h.find?_vars_of_isShared hname]
  refine find?_ofPairs_eq_none fun hmem => ?_
  rw [not_isShared_typeVariables hinteractive hlocation h.typed hmem] at hname
  cases hname

theorem agrees_textReply (htype : m.type = "text") (hc : Common node saveAs name) :
    m.Agrees (textReply node saveAs m) name where
  repeated hr := by
    rw [find?_textReply hc]
    rcases hr with hshared | ⟨-, hname⟩
    · have hname : name ∉ ["message.body", "userMessage"] := by
        intro hname
        have hall : ∀ name ∈ ["message.body", "userMessage"], isShared name = false := by decide
        rw [hall name hname] at hshared
        cases hshared
      rw [if_neg hname, h.find?_vars_eq_none (by simp [htype]) (by simp [htype]) hshared]
    · rw [if_pos hname, h.find?_vars_text htype hname]
  only v hv := by
    rw [find?_textReply hc] at hv
    split at hv
    · rename_i hname
      rw [h.find?_vars_text htype hname, hv]
    · cases hv

/-- However a message is read as a reply, it agrees with what it tells to a run that it starts. -/
theorem exists_agrees (node : String) (saveAs : Option String) :
    ∃ further, m.replyVariables node saveAs = .ok further ∧ (keys further).Nodup ∧
      ∀ name, Common node saveAs name → m.Agrees further name := by
  by_cases hinteractive : m.type = "interactive"
  · obtain ⟨own, hown, hreply⟩ := replyVariables_interactive hinteractive h.typed node saveAs
    refine ⟨_, hreply, nodup_keys_ofPairs _, fun name hc => ?_⟩
    have ht : Tells typed (ofPairs (own ++ typed)) name := find?_ofPairs_append (hc.not_mem_keys hown)
    exact h.agrees_of_tells (by simp [hinteractive]) ht
  by_cases hlocation : m.type = "location"
  · refine ⟨locationReply node m, by simp [replyVariables, hlocation], ?_, fun name hc => ?_⟩
    · exact nodup_keys_put (nodup_keys_filter h.nodup_vars _) _
    · have hname : name ≠ node := fun heq => hc.own (Or.inl heq)
      exact h.agrees_of_tells (by simp [hlocation]) (h.tells_locationReply hlocation hname)
  by_cases htext : m.type = "text"
  · refine ⟨textReply node saveAs m, by simp [replyVariables, htext], nodup_keys_ofPairs _, ?_⟩
    exact fun name hc => h.agrees_textReply htext hc
  · refine ⟨[], by simp [replyVariables, *], List.nodup_nil, fun name hc => ⟨fun hr => ?_, ?_⟩⟩
    · rcases hr with hshared | ⟨htype, -⟩
      · exact (h.find?_vars_eq_none hinteractive hlocation hshared).symm
      · exact absurd htype htext
    · intro v hv
      cases hv

end Parted

/-- **A reply repeats what the message says.**  A message that was delivered can be read as a reply
to a run that waits at any node.  All that the reply tells beside what belongs to the node and the
name under which the node keeps a text, the message tells to a run that it starts, with the same
value.  Under the names of buttons, rows, locations and forms, and for a text under those of the
text, the run that goes on finds what the new run finds, and where that finds nothing, what it had
found before. -/
theorem Delivered.reply_repeats (h : m.Delivered) (node : String) (saveAs : Option String) :
    ∃ further, m.replyVariables node saveAs = .ok further ∧
      (∀ e ∈ further, Common node saveAs e.1 → m.vars.find? e.1 = some e.2) ∧
      ∀ name, Common node saveAs name → m.Repeats name →
        further.find? name = m.vars.find? name ∧
        ∀ vars : Entries Value,
          (vars.merge further).find? name = (m.vars.find? name).or (vars.find? name) := by
  obtain ⟨head, typed, hparted⟩ := h.parted
  obtain ⟨further, hreply, hn, hagrees⟩ := hparted.exists_agrees node saveAs
  refine ⟨further, hreply, fun e he hc => ?_, fun name hc hr => ?_⟩
  · exact (hagrees e.1 hc).only e.2 ((find?_eq_some_iff_mem hn).mpr he)
  · have hsame := (hagrees name hc).repeated hr
    refine ⟨hsame, fun vars => ?_⟩
    rw [find?_merge, find?_ofPairs hn, hsame]

/-- The message of a user who submits a form with these data. -/
def submission (data : Entries Value) : Message where
  phone := "c"
  type := "interactive"
  body := ""
  id := none
  timestamp := none
  contactName := none
  raw := [("from", .str "c"), ("type", .str "interactive"), ("interactive",
    .object [("type", .str "nfm_reply"), ("nfm_reply", .object [("response_json", .object data)])])]
  vars := Entries.merge [("userMessage", .str ""), ("user.phone", .str "c"),
    ("message.type", .str "interactive"), ("message.body", .str ""), ("message.timestamp", .null),
    ("message.id", .null)] (formVariables "flow_response" data)

/-- The delivery that brings the message of a user who submits a form. -/
def submissionDelivery (data : Entries Value) : Value :=
  .object [("entry", .list [.object [("changes", .list [.object [("value",
    .object [("messages", .list [.object (submission data).raw])])]])]])]

/-- A form that is submitted to a run which waits shows the size as to a run which it starts. -/
theorem submission_repeats : (submission [("size", .str "L")]).Delivered ∧
    ∃ further, (submission [("size", .str "L")]).replyVariables "ask" none = .ok further ∧
      ∀ vars : Entries Value,
        (vars.merge further).find? "flow_response.size" = some (.str "L") := by
  have hd : (submission [("size", .str "L")]).Delivered :=
    ⟨submissionDelivery [("size", .str "L")], rfl⟩
  obtain ⟨further, hreply, -, hsame⟩ := hd.reply_repeats "ask" none
  refine ⟨hd, further, hreply, fun vars => ?_⟩
  have hc : Common "ask" none "flow_response.size" := by
    refine ⟨?_, by decide⟩
    rintro (h | ⟨rest, h⟩)
    · exact absurd h (by decide)
    · have hchars := congrArg String.toList h
      simp [String.toList_append] at hchars
  exact ((hsame "flow_response.size" hc (Or.inl (by decide))).2 vars).trans rfl

end Message

end ChatFlow
