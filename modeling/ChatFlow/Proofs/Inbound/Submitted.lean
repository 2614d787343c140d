import ChatFlow.Proofs.Inbound.Reply
import ChatFlow.Proofs.Node.Fetching

/-!
# What is read after a form has been submitted

The data of a form are kept twice, under the id of the node that waits for it and under
the name that all forms have in common, each time as a whole and field by field.  The
fields are written under names of their own, and what is not among the data of this form
is not written at all.  So a field is read as this form has it, and one that it does not
have as it was read before (`Message.resolve_common_field`, `Message.resolve_own_field`).
Only a node whose id goes on from the common name shares names with the fields of the
form (`Message.resolve_own_field_of_below`).
-/

namespace ChatFlow

namespace Message

open Entries Services

variable {data vars : Entries Value} {node base name path : String}

/-- A message that submits a form with these data, which are an object. -/
structure Submits (m : Message) (data : Entries Value) : Prop where
  type : m.type = "interactive"
  kind : replyKind (.object m.raw) = .ok (.str "nfm_reply")
  response : formResponse? (.object m.raw) = .ok (some data)
  nodup : (keys data).Nodup

/-- A message that submits a form of which there are no data to be read, be it that they are no
object or that an empty one stands there itself. -/
structure SubmitsNothing (m : Message) : Prop where
  type : m.type = "interactive"
  kind : replyKind (.object m.raw) = .ok (.str "nfm_reply")
  response : formResponse? (.object m.raw) = .ok none

section

variable {m : Message}

theorem Submits.replyVariables (h : m.Submits data) (node : String) (saveAs : Option String) :
    m.replyVariables node saveAs = .ok (formReply node data) := by
  simp only [Message.replyVariables, h.type, h.kind, h.response]
  rfl

theorem SubmitsNothing.replyVariables (h : m.SubmitsNothing) (node : String) (saveAs : Option String) :
    m.replyVariables node saveAs = .ok [] := by
  simp only [Message.replyVariables, h.type, h.kind, h.response]
  rfl

/-- The data of a form have different names, be they read from a text or sent as an object. -/
theorem nodup_of_formResponse? {fs : Entries Value} (hk : (Value.object fs).Keyed)
    (h : formResponse? (.object fs) = .ok (some data)) : (keys data).Nodup := by
  have hpart {v : Value} (hv : v.Keyed) (name : String) : (v.part name).Keyed := by
    unfold Value.part
    cases hw : v.field? name with
    | none => exact Value.within_of_not_isObject rfl
    | some w => exact Value.Within.field hv hw
  have hresponse := hpart (hpart (hpart hk "interactive") "nfm_reply") "response_json"
  simp only [formResponse?, bind_eq_ok_iff, Value.get_object, Value.orObject_get_eq_ok_iff,
    Except.ok.injEq, exists_eq_left', exists_eq_left, exists_and_left, and_assoc] at h
  obtain ⟨-, -, h⟩ := h
  split at h
  · cases h
  · have hdata := Except.ok.inj h
    split at hdata
    · rename_i fields hread
      obtain rfl := Option.some.inj hdata
      split at hread
      · exact (Json.keyed_of_parse? hread).nodup
      · rw [Option.some.inj hread] at hresponse
        exact hresponse.nodup
    · cases hdata

/-- A form that was delivered has data to be read, or it has none. -/
theorem Delivered.submits (h : m.Delivered) (hk : (Value.object m.raw).Keyed)
    (htype : m.type = "interactive") (hkind : replyKind (.object m.raw) = .ok (.str "nfm_reply")) :
    (∃ data, m.Submits data) ∨ m.SubmitsNothing := by
  obtain ⟨head, typed, hparted⟩ := h.parted
  have htyped := hparted.typed
  rw [htype] at htyped
  obtain ⟨kind, hkind', htyped⟩ := (bind_eq_ok_iff (x := replyKind (.object m.raw))).mp htyped
  obtain rfl := Except.ok.inj (hkind.symm.trans hkind')
  obtain ⟨response, hresponse, -⟩ :=
    (bind_eq_ok_iff (x := formResponse? (.object m.raw))).mp htyped
  cases response with
  | some data => exact Or.inl ⟨data, htype, hkind, hresponse, nodup_of_formResponse? hk hresponse⟩
  | none => exact Or.inr ⟨htype, hkind, hresponse⟩

end

/-! ### The names that a form is kept under -/

theorem formVariables_eq (base : String) (data : Entries Value) :
    formVariables base data = (base, .object data) :: under base data := rfl

theorem find?_ofPairs_formVariables (hn : (keys data).Nodup) (path : String) :
    (ofPairs (formVariables base data)).find? path =
      if base = path then some (.object data) else (under base data).find? path := by
  have hfresh : base ∉ keys (under base data) := by
    intro hmem
    obtain ⟨e, he, heq⟩ := List.mem_map.mp hmem
    obtain ⟨e, -, rfl⟩ := List.mem_map.mp he
    exact Scope.below_ne base e.1 heq
  have hkeys : (keys ((base, Value.object data) :: under base data)).Nodup :=
    List.nodup_cons.mpr ⟨hfresh, nodup_keys_under hn⟩
  rw [formVariables_eq, find?_ofPairs hkeys, find?_cons]

/-- Nothing is kept field by field under a name that goes on from another one. -/
theorem find?_under_eq_none (h : ∀ rest value, (rest, value) ∈ data → path ≠ base ++ "." ++ rest) :
    (under base data).find? path = none := by
  refine find?_eq_none fun hmem => ?_
  obtain ⟨e, he, rfl⟩ := List.mem_map.mp hmem
  obtain ⟨⟨rest, value⟩, hdata, rfl⟩ := List.mem_map.mp he
  exact h rest value hdata rfl

/-- What is kept under the common name takes the place of what is kept under the id of the node. -/
theorem find?_merge_formReply (hn : (keys data).Nodup) (path : String) :
    (vars.merge (formReply node data)).find? path =
      (if "flow_response" = path then some (.object data)
        else (under "flow_response" data).find? path).or
      ((if node = path then some (.object data) else (under node data).find? path).or
        (vars.find? path)) := by
  have hreply : (ofPairs (formReply node data)).find? path = (formReply node data).find? path :=
    find?_ofPairs (nodup_keys_ofPairs _)
  rw [find?_merge, hreply, formReply, ofPairs, merge_append, find?_merge, ← ofPairs,
    find?_ofPairs_formVariables hn, find?_ofPairs_formVariables hn, Option.or_assoc]

theorem ne_below_of_dotless {s : String} (hs : '.' ∉ s.toList) (base name : String) :
    s ≠ base ++ "." ++ name := by
  rintro rfl
  rw [Scope.toList_path] at hs
  simp at hs

theorem dotless_common : '.' ∉ "flow_response".toList := by decide

/-! ### Fields behind the common name -/

/-- Behind the common name a field is read as this form has it, else as it was read before; a node
that is called by the whole path shows the whole form there. -/
theorem resolve_common_field (hn : (keys data).Nodup) (hname : '.' ∉ name.toList) :
    Scope.resolve (vars.merge (formReply node data)) ("flow_response" ++ "." ++ name) =
      (data.find? name).or
        ((if node = "flow_response" ++ "." ++ name then some (.object data) else none).or
          (vars.find? ("flow_response" ++ "." ++ name))) := by
  have hcommon : (vars.merge (formReply node data)).find? "flow_response" = some (.object data) := by
    rw [find?_merge_formReply hn, if_pos rfl, Option.some_or]
  rw [Scope.resolve_below hcommon hname, find?_merge_formReply hn,
    if_neg (Scope.below_ne "flow_response" name).symm, find?_under]
  cases hfield : data.find? name with
  | some value => rfl
  | none =>
    -- the fields of the form under the id of the node do not have this path as their name either
    have hown : (under node data).find? ("flow_response" ++ "." ++ name) = none := by
      refine find?_under_eq_none fun rest value hmem heq => ?_
      rcases Scope.below_eq_below hname heq.symm with ⟨-, rfl⟩ | ⟨mid, hmid, -⟩
      · obtain ⟨found, hfound⟩ := find?_isSome_of_mem hmem
        rw [hfield] at hfound
        cases hfound
      · exact ne_below_of_dotless dotless_common node mid hmid
    have hobject : (Value.object data).field? name = none := hfield
    rw [hown, hobject, Option.or_none]

/-! ### Fields behind the id of the node -/

/-- Behind the id of the node a field is read as this form has it, else as it was read before. -/
theorem resolve_own_field (hn : (keys data).Nodup) (hname : '.' ∉ name.toList)
    (hnode : ∀ mid, node ≠ "flow_response" ++ "." ++ mid) :
    Scope.resolve (vars.merge (formReply node data)) (node ++ "." ++ name) =
      (data.find? name).or (vars.find? (node ++ "." ++ name)) := by
  have hown : (vars.merge (formReply node data)).find? node = some (.object data) := by
    have hcommon : (under "flow_response" data).find? node = none :=
      find?_under_eq_none fun rest _ _ => hnode rest
    rw [find?_merge_formReply hn, hcommon, if_pos rfl]
    split <;> rfl
  have hcommon : (under "flow_response" data).find? (node ++ "." ++ name) =
      if node = "flow_response" then data.find? name else none := by
    split
    · rename_i heq
      rw [heq, find?_under]
    · rename_i hne
      refine find?_under_eq_none fun rest _ _ heq => ?_
      rcases Scope.below_eq_below hname heq.symm with ⟨heq, -⟩ | ⟨mid, hmid, -⟩
      · exact hne heq.symm
      · exact hnode mid hmid
  rw [Scope.resolve_below hown hname, find?_merge_formReply hn, hcommon,
    if_neg (ne_below_of_dotless dotless_common node name), if_neg (Scope.below_ne node name).symm,
    find?_under]
  have hobject : (Value.object data).field? name = data.find? name := rfl
  rw [hobject]
  cases data.find? name with
  | none => simp
  | some value => split <;> simp

/-- The id of a node that goes on from the common name is the name of a field too, and a path that goes
on from it may be the name of another one. -/
theorem resolve_own_field_of_below (hn : (keys data).Nodup) (hname : '.' ∉ name.toList) (mid : String) :
    Scope.resolve (vars.merge (formReply ("flow_response" ++ "." ++ mid) data))
        ("flow_response" ++ "." ++ mid ++ "." ++ name) =
      (data.find? (mid ++ "." ++ name)).or ((data.find? name).or
        ((vars.find? ("flow_response" ++ "." ++ mid ++ "." ++ name)).or
          ((data.find? mid).bind fun v => v.field? name))) := by
  have hown : (vars.merge (formReply ("flow_response" ++ "." ++ mid) data)).find?
      ("flow_response" ++ "." ++ mid) = some ((data.find? mid).getD (.object data)) := by
    rw [find?_merge_formReply hn, if_neg (Scope.below_ne "flow_response" mid).symm, find?_under,
      if_pos rfl]
    cases data.find? mid <;> rfl
  have hcommon : (under "flow_response" data).find? ("flow_response" ++ "." ++ mid ++ "." ++ name) =
      data.find? (mid ++ "." ++ name) := by
    rw [← Scope.below_append, find?_under]
  rw [Scope.resolve_below hown hname, find?_merge_formReply hn, hcommon,
    if_neg (ne_below_of_dotless dotless_common _ name), if_neg (Scope.below_ne _ name).symm, find?_under]
  have hobject : (Value.object data).field? name = data.find? name := rfl
  cases data.find? mid with
  | some v => simp [Option.or_assoc]
  | none =>
    simp only [Option.getD_none, hobject, Option.bind_none, Option.or_none]
    cases data.find? name <;> simp

/-- A path behind the common name means no system variable and does not ask the clock. -/
theorem read_common {scope : Scope}
    (hstrip : Text.strip ("flow_response" ++ "." ++ name) = "flow_response" ++ "." ++ name) :
    scope.read ("flow_response" ++ "." ++ name) =
      .ok (Scope.resolve scope.vars ("flow_response" ++ "." ++ name)) := by
  have hstart : Text.startsWith "system.".toList ("flow_response" ++ "." ++ name).toList = false := by
    rw [Scope.toList_path]
    rfl
  have hsystem : Scope.systemVariable? scope.locale ("flow_response" ++ "." ++ name) = none := by
    rw [Scope.systemVariable?, hstart]
    rfl
  have hclock : Scope.asksClock ("flow_response" ++ "." ++ name) = false := by
    have hchars := congrArg String.toList hstrip
    rw [Text.strip, String.toList_ofList] at hchars
    rw [Scope.asksClock, hchars, hstart]
  exact Scope.read_eq_resolve hstrip hsystem fun hasks => by rw [hclock] at hasks; cases hasks

end Message

end ChatFlow
