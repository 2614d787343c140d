import ChatFlow.Inbound.Reply
import ChatFlow.Proofs.Inbound.Delivery

/-!
# Replies can be read

A message that was taken out of a delivery has been read once, for the variables of
a run that it might start: some that every message has, and some that it has by its
type (`Message.Parted`).  As a reply to a paused run the same parts of it are read
again, so a message that was delivered can always be read as a reply
(`Message.Delivered.exists_reply`).
-/

namespace ChatFlow

namespace Message

/-- A message that was taken out of a delivery. -/
def Delivered (m : Message) : Prop := ∃ payload, ofPayload payload = .ok (some m)

variable {m : Message} {fs : Entries Value} {contactName : Value}

/-- The names of the variables that every message gives to a run which it starts. -/
def headNames : List String :=
  ["userMessage", "user.phone", "message.type", "message.body", "message.timestamp", "message.id",
    "user.name"]

/-- The variables of a message are those that every message has, `head`, with those over them that
this one has by its type, `typed`. -/
structure Parted (m : Message) (head typed : Entries Value) : Prop where
  vars : m.vars = head.merge typed
  typed : typeVariables (.object m.raw) (.str m.type) = .ok typed
  names : ∀ name ∈ Entries.keys head, name ∈ headNames
  nodup : (Entries.keys head).Nodup
  body : head.find? "message.body" = some (.str m.body)
  said : head.find? "userMessage" = some (.str m.body)

theorem exists_str_of_isText {v : Value} (h : v.isText = true) : ∃ s, v = .str s := by
  cases v with
  | str s => exact ⟨s, rfl⟩
  | _ => cases h

theorem parted_of_ofObject (h : ofObject (.object fs) contactName = .ok m) :
    ∃ head typed, m.Parted head typed := by
  unfold ofObject at h
  obtain ⟨vars, hv, h⟩ := bind_eq_ok_iff.mp h
  obtain ⟨id, hid, h⟩ := bind_eq_ok_iff.mp h
  obtain ⟨timestamp, htime, h⟩ := bind_eq_ok_iff.mp h
  rw [Value.get_object] at hid htime
  obtain rfl := Except.ok.inj hid
  obtain rfl := Except.ok.inj htime
  have hsaid : vars.find? "message.body" = some (said (.object fs)) := body_of_startVariables hv
  dsimp only at h
  split at h
  · cases h
  rename_i hwrong
  obtain ⟨phone, -, h⟩ := bind_eq_ok_iff.mp h
  obtain rfl := Except.ok.inj h
  rw [hsaid] at hwrong
  -- had its type or its text been of another kind, they would be among the fields that are wrong
  have hworded : Worded (.object fs) contactName := by
    rw [worded_iff]
    simpa [Value.ofOption, typeOf] using hwrong
  obtain ⟨type, htype⟩ := exists_str_of_isText hworded.type
  obtain ⟨text, htext⟩ := exists_str_of_isText hworded.body
  unfold startVariables at hv
  obtain ⟨body, hbody, hv⟩ := bind_eq_ok_iff.mp hv
  obtain ⟨sender, -, hv⟩ := bind_eq_ok_iff.mp hv
  obtain ⟨time, -, hv⟩ := bind_eq_ok_iff.mp hv
  obtain ⟨own, -, hv⟩ := bind_eq_ok_iff.mp hv
  obtain ⟨typed, ht, hv⟩ := bind_eq_ok_iff.mp hv
  have hvars := pure_eq_ok_iff.mp hv
  obtain rfl := (bodyOf_eq_ok_iff.mp hbody).2
  refine ⟨_, typed, hvars, ?_, ?_, ?_, ?_, ?_⟩
  · rw [← typeOf, htype] at ht ⊢
    exact ht
  · intro name hname
    rw [Entries.keys, List.map_append] at hname
    rcases List.mem_append.mp hname with hname | hname
    · exact List.mem_append_left ["user.name"] hname
    · split at hname
      · obtain rfl := List.mem_singleton.mp hname
        exact (by decide : "user.name" ∈ headNames)
      · cases hname
  · split
    · exact (by decide : headNames.Nodup)
    · exact (by decide : headNames.dropLast.Nodup)
  all_goals simp [Entries.find?_cons, htext, hsaid, Value.ofOption, Value.text?]

/-- A message that was delivered is what an object with a sender was read as. -/
theorem Delivered.exists_object (h : m.Delivered) :
    ∃ fs contactName, ofObject (.object fs) contactName = .ok m := by
  obtain ⟨payload, h⟩ := h
  unfold ofPayload at h
  split at h
  · rename_i delivery _
    obtain ⟨messages, -, h⟩ := bind_eq_ok_iff.mp h
    split at h
    · cases h
    obtain ⟨first, -, h⟩ := bind_eq_ok_iff.mp h
    split at h
    · obtain ⟨sender, -, h⟩ := bind_eq_ok_iff.mp h
      split at h
      · cases h
      obtain ⟨name, -, h⟩ := bind_eq_ok_iff.mp h
      obtain ⟨message, hm, h⟩ := bind_eq_ok_iff.mp h
      obtain rfl := Option.some.inj (Except.ok.inj h)
      exact ⟨_, name, hm⟩
    · cases h
  · cases h

theorem Delivered.parted (h : m.Delivered) : ∃ head typed, m.Parted head typed := by
  obtain ⟨fs, contactName, hm⟩ := h.exists_object
  exact parted_of_ofObject hm

/-! ### Replies -/

variable {reply : Value} {typed : Entries Value}

/-- A name that belongs to a node: its id, or one that goes on from it behind a dot. -/
def OfNode (node name : String) : Prop := name = node ∨ ∃ rest, name = node ++ "." ++ rest

theorem buttonReply_eq (h : buttonVariables reply = .ok typed) (node : String) :
    ∃ w, buttonReply node reply = .ok (Entries.ofPairs ((node, w) :: typed)) := by
  obtain ⟨id, hid, h⟩ := bind_eq_ok_iff.mp h
  obtain ⟨title, htitle, h⟩ := bind_eq_ok_iff.mp h
  obtain rfl := pure_eq_ok_iff.mp h
  exact ⟨_, by rw [buttonReply, hid, htitle]; rfl⟩

theorem listReply_eq (h : listVariables reply = .ok typed) (node : String) :
    ∃ w, listReply node reply = .ok (Entries.ofPairs ((node, w) :: typed)) := by
  obtain ⟨id, hid, h⟩ := bind_eq_ok_iff.mp h
  obtain ⟨title, htitle, h⟩ := bind_eq_ok_iff.mp h
  obtain ⟨description, hdescription, h⟩ := bind_eq_ok_iff.mp h
  obtain rfl := pure_eq_ok_iff.mp h
  exact ⟨_, by rw [listReply, hid, htitle, hdescription]; rfl⟩

theorem ofNode_of_mem_formVariables {node : String} {data : Entries Value} {e : String × Value}
    (h : e ∈ formVariables node data) : OfNode node e.1 := by
  rcases List.mem_cons.mp h with rfl | h
  · exact Or.inl rfl
  · obtain ⟨field, -, rfl⟩ := List.mem_map.mp h
    exact Or.inr ⟨field.1, rfl⟩

/-- An interactive message gives to a paused run what belongs to the node that waits, and then all
that it has by its type. -/
theorem replyVariables_interactive (htype : m.type = "interactive")
    (h : typeVariables (.object m.raw) (.str m.type) = .ok typed) (node : String)
    (saveAs : Option String) :
    ∃ own, (∀ e ∈ own, OfNode node e.1) ∧
      m.replyVariables node saveAs = .ok (Entries.ofPairs (own ++ typed)) := by
  have hnode (w : Value) : ∀ e ∈ [(node, w)], OfNode node e.1 := by
    intro e he
    obtain rfl := List.mem_singleton.mp he
    exact Or.inl rfl
  have hnone : ∀ e ∈ ([] : Entries Value), OfNode node e.1 := fun e he => nomatch he
  rw [htype] at h
  obtain ⟨kind, hkind, h⟩ := (bind_eq_ok_iff (x := replyKind (.object m.raw))).mp h
  split at h
  · obtain ⟨reply, hreply, h⟩ :=
      (bind_eq_ok_iff (x := replyPart (.object m.raw) "button_reply")).mp h
    obtain ⟨w, hw⟩ := buttonReply_eq h node
    refine ⟨_, hnode w, ?_⟩
    simp only [replyVariables, htype, hkind, hreply, bind, Except.bind]
    exact hw
  · obtain ⟨reply, hreply, h⟩ :=
      (bind_eq_ok_iff (x := replyPart (.object m.raw) "list_reply")).mp h
    obtain ⟨w, hw⟩ := listReply_eq h node
    refine ⟨_, hnode w, ?_⟩
    simp only [replyVariables, htype, hkind, hreply, bind, Except.bind]
    exact hw
  · obtain ⟨data, hdata, h⟩ := (bind_eq_ok_iff (x := formResponse? (.object m.raw))).mp h
    obtain rfl := pure_eq_ok_iff.mp h
    simp only [replyVariables, htype, hkind, hdata, bind, Except.bind]
    cases data with
    | none => exact ⟨[], hnone, rfl⟩
    | some data => exact ⟨_, fun e => ofNode_of_mem_formVariables, rfl⟩
  · obtain rfl := pure_eq_ok_iff.mp h
    refine ⟨[], hnone, ?_⟩
    -- no other kind is read as a reply, as the hypotheses of this case say
    simp only [replyVariables, htype, hkind, bind, Except.bind]
    rfl

/-- A message that was delivered can be read as a reply. -/
theorem Delivered.exists_reply (h : m.Delivered) (node : String) (saveAs : Option String) :
    ∃ further, m.replyVariables node saveAs = .ok further := by
  obtain ⟨head, typed, hparted⟩ := h.parted
  by_cases htype : m.type = "interactive"
  · obtain ⟨own, -, hreply⟩ := replyVariables_interactive htype hparted.typed node saveAs
    exact ⟨_, hreply⟩
  · unfold replyVariables
    split
    · rename_i hinteractive
      exact absurd hinteractive htype
    all_goals exact ⟨_, rfl⟩

end Message

end ChatFlow
