import ChatFlow.Proofs.Document.Mapped
import ChatFlow.Proofs.Document.Tidy
import ChatFlow.Proofs.Form
import ChatFlow.Proofs.Node.Requesting
import ChatFlow.Proofs.Outside.Choices
import ChatFlow.Proofs.Value.Keyed

/-!
# Where a reply leads

The id of a button is made out twice: when a document in the older form is read, for the
edge of the button, and when the button is sent, for the reply.  The first time it is
taken from what is stored, the second time from the settings, in which numbers have
become texts.  So the two differ for one kind of id only, a zero, which counts as missing
the first time and not the second time (`Document.replyIds_eq`).

`reply_leads_along_edge` is the main statement: whatever such a node sends, a reply by a
button leads where the button says, unless the id of this button or of an earlier one
is a zero.
-/

namespace ChatFlow

namespace Value

/-- Whether a value is the number zero. -/
def isZero : Value → Bool
  | int n => n = 0
  | float x => x == 0
  | _ => false

theorem display_of_asText? {v : Value} {s : String} (h : v.asText? = some s) : v.display = s := by
  cases v with
  | str t => exact Option.some.inj h
  | int n => exact Option.some.inj h
  | float x => exact Option.some.inj h
  | _ => cases h

/-- The text that is made of a value is empty if the value counts as missing and is no zero. -/
theorem ne_empty_iff_of_asText? {v : Value} {s : String} (h : v.asText? = some s) :
    s ≠ "" ↔ v.isZero = true ∨ v.truthy = true := by
  have hshown {chars : List Char} (hc : chars ≠ []) : String.ofList chars ≠ "" :=
    fun he => hc (String.ofList_injective he)
  cases v with
  | str t =>
    obtain rfl := Option.some.inj h
    simp [isZero, truthy]
  | int n =>
    obtain rfl := Option.some.inj h
    refine iff_of_true (hshown (Decimal.intChars_ne_nil n)) ?_
    by_cases hn : n = 0 <;> simp [isZero, truthy, hn]
  | float x =>
    obtain rfl := Option.some.inj h
    refine iff_of_true (hshown (Decimal.write_plain_ne_nil x)) ?_
    cases hx : x == 0 <;> simp [isZero, truthy, bne, hx]
  | _ => cases h

end Value

/-! ### The two ids of a button -/

namespace Send

/-- The id of a button as it is sent: its own, else its place. -/
def replyId (place : Nat) (b : Filled) : Value :=
  (Value.str (b.text "id")).orElse (WhatsApp.numbered "btn_" place)

theorem truthy_replyId (place : Nat) (b : Filled) : (replyId place b).truthy = true := by
  unfold replyId Value.orElse
  split
  · assumption
  · have hmade : "btn_" ++ String.ofList (Decimal.natChars place) ≠ "" :=
      Document.btn_append_ne_empty _
    exact decide_eq_true hmade

theorem ids_of_buttonItems {scope : Scope} {place : Nat} {bs : List Filled} {items : List Value}
    (h : buttonItems scope place bs = .ok items) :
    items.map (fun item => item.part "id") = (bs.zipIdx place).map fun b => replyId b.2 b.1 := by
  induction bs generalizing place items with
  | nil =>
    obtain rfl := Except.ok.inj h
    rfl
  | cons b rest ih =>
    obtain ⟨title, -, h⟩ := bind_eq_ok_iff.mp h
    obtain ⟨items', hitems, h⟩ := bind_eq_ok_iff.mp h
    obtain rfl := pure_eq_ok_iff.mp h
    rw [List.map_cons, List.zipIdx_cons, List.map_cons, ih hitems]
    rfl

end Send

namespace Document

/-- The id that a reply by a button has: a zero is a text there. -/
def replyAt (place : Nat) (button : Value) : String :=
  if (button.part "id").isZero then (button.part "id").display else handleAt place button

/-- The id that is sent for a button whose settings can be read. -/
theorem replyId_eq {place : Nat} {button : Value} {b : Filled}
    (hn : (Entries.keys button.fields).Nodup) (h : Forms.button.fill button.fields = .ok b) :
    Send.replyId place b = .str (replyAt place button) := by
  have hfield : Entries.find? Forms.button "id" = some (["id"], .text, .str "") := rfl
  have hread := Form.get_of_fill_named h hfield hn
  have hpart : Value.ofOption (Entries.find? button.fields "id") = button.part "id" :=
    congrArg _ (Value.find?_fields button "id")
  rw [hpart] at hread
  rcases hread with ⟨hnull, hget⟩ | ⟨-, hfit⟩
  · have hid : button.part "id" = .null := by
      cases hid : button.part "id" with
      | null => rfl
      | _ => simp [hid, Value.isNull] at hnull
    simp [Send.replyId, Filled.text, hget, Value.text?, replyAt, handleAt, hid, Value.isZero,
      Value.orElse, Value.truthy, WhatsApp.numbered]
  · rw [FieldKind.fit?] at hfit
    obtain ⟨s, hs, hget⟩ := Option.map_eq_some_iff.mp hfit
    have htext : b.text "id" = s := by rw [Filled.text, ← hget]; rfl
    have hempty := Value.ne_empty_iff_of_asText? hs
    have hdisplay := Value.display_of_asText? hs
    by_cases hs : s = ""
    · obtain ⟨hzero, hmissing⟩ := not_or.mp (mt hempty.mpr (not_not.mpr hs))
      rw [Send.replyId, htext, replyAt, if_neg hzero, handleAt, if_neg hmissing, hs]
      rfl
    · have hsent : Send.replyId place b = .str s := by
        rw [Send.replyId, htext]
        exact if_pos (decide_eq_true hs)
      rw [hsent, replyAt, handleAt, hdisplay]
      rcases hempty.mp hs with hzero | htruthy
      · rw [if_pos hzero]
      · rw [if_pos htruthy, ite_self]

/-- The ids that are sent for buttons whose settings can be read. -/
theorem replyIds_eq {n : Node} {f : Filled} (hk : NodeKind.ofType? n.type = some .buttons)
    (hf : n.filled = .ok f) (hn : (Entries.keys n.config).Nodup) {buttons : List Value}
    (hb : n.config.find? "buttons" = some (.list buttons))
    (htidy : ∀ b ∈ buttons, (Entries.keys b.fields).Nodup) (place : Nat) :
    (n.buttons[place]?.map fun b => Send.replyId place b) =
      buttons[place]?.map fun button => .str (replyAt place button) := by
  have hfill := Node.fill_of_filled hf
  rw [formOfType, hk] at hfill
  have hfield : Entries.find? Forms.buttons "buttons" =
      some (["buttons"], .nested Forms.button, .list []) := rfl
  have hread := Form.get_of_fill_named hfill hfield hn
  rw [hb] at hread
  rcases hread with ⟨hnull, -⟩ | ⟨-, hfit⟩
  · cases hnull
  · obtain ⟨_, hitems, hall⟩ := FieldKind.exists_of_fit?_nested hfit
    obtain rfl := Value.list.inj hitems
    have hsome : ∀ v ∈ buttons, ∃ b, (Forms.button.fill v.fields).toOption = some b := by
      intro v hv
      obtain ⟨-, b, hb⟩ := hall v hv
      exact ⟨b, by rw [hb]; rfl⟩
    rw [Node.buttons, hb]
    dsimp only
    rw [getElem?_filterMap_of_forall hsome]
    cases hv : buttons[place]? with
    | none => rfl
    | some v =>
      have hmem := List.mem_of_getElem? hv
      obtain ⟨-, b, hb⟩ := hall v hmem
      rw [Option.bind_some, hb]
      exact congrArg some (replyId_eq (htidy v hmem) hb)

end Document

/-! ### The message of a node with buttons -/

/-- A message presents the buttons of a node, whose settings can be read. -/
structure Node.Presents (n : Node) (payload : Value) : Prop where
  settings : ∃ f, n.filled = .ok f
  nonempty : n.buttons ≠ []
  ids : ∀ place < WhatsApp.maxButtons,
    (WhatsApp.buttonIds payload)[place]? = n.buttons[place]?.map fun b => Send.replyId place b

theorem Send.presents_of_buttonPayload {n : Node} {f : Filled} (hf : n.filled = .ok f)
    {scope : Scope} {items : List Value} (hitems : buttonItems scope 0 n.buttons = .ok items)
    (hne : items ≠ []) {recipient body header footer payload : Value}
    (h : WhatsApp.buttonPayload recipient body (.list items) header footer = .ok payload) :
    n.Presents payload := by
  have hids := ids_of_buttonItems hitems
  refine ⟨⟨f, hf⟩, fun hnone => ?_, fun place hplace => ?_⟩
  · rw [hnone] at hids
    exact hne (List.map_eq_nil_iff.mp hids)
  · have hid := congrArg (·[place]?) hids
    rw [WhatsApp.buttonIds_eq h, WhatsApp.shownButtons]
    simp only [List.getElem?_map, List.getElem?_zipIdx, List.getElem?_take_of_lt hplace,
      Option.map_map, Nat.zero_add] at hid ⊢
    cases hitem : items[place]? with
    | none =>
      rw [hitem] at hid
      exact hid
    | some item =>
      rw [hitem] at hid
      obtain ⟨b, hb, hid⟩ := Option.map_eq_some_iff.mp hid.symm
      have hid : replyId place b = item.part "id" := hid
      have hpresent : (item.part "id").truthy = true := hid ▸ truthy_replyId place b
      rw [hb]
      exact congrArg some ((if_pos hpresent).trans hid.symm)

theorem sendsOne_execute_buttons {c : NodeContext} {n : Node}
    (hk : NodeKind.ofType? n.type = some .buttons) : (execute [] c n).run.SendsOne fun r =>
      ∀ payload, r.Carries payload → n.Presents payload := by
  refine sendsOne_execute_of c n fun kind hkind f hf => ?_
  obtain rfl := Option.some.inj (hk.symm.trans hkind)
  refine sendsOne_buttons_of c n f fun phone _ items _ _ payload _ hitems hne hpayload => ?_
  rintro payload' ⟨-, hjson⟩
  obtain rfl := Option.some.inj hjson
  exact Send.presents_of_buttonPayload hf hitems hne hpayload

/-! ### The edges of the buttons -/

namespace Document

section

variable {v : Value} {raw nodes : Entries Value} {d : Document} {e : String × Entries Value}
  {before after : List (String × Entries Value)} {buttons : List Value} {button : Value}
  {place : Nat}

theorem find?_buttonExits (buttons : List Value) (handle : String) :
    (buttonExits buttons).find? handle =
      (buttons.zipIdx.find? fun b => leads b.1 && decide (handleAt b.2 b.1 = handle)).map
        fun b => (b.1.part "nextNodeId").display := by
  rw [buttonExits, Entries.find?_map fun b : Value × Nat => handleAt b.2 b.1, List.find?_filter]
  simp only [Bool.decide_and, Bool.decide_eq_true]

/-- A handle leads where its button says if no earlier button has this handle. -/
theorem find?_buttonExits_of_first (hb : buttons[place]? = some button)
    (hl : leads button = true)
    (hfirst : ∀ p < place, ∀ b, buttons[p]? = some b → handleAt p b ≠ handleAt place button) :
    (buttonExits buttons).find? (handleAt place button) =
      some (button.part "nextNodeId").display := by
  rw [find?_buttonExits]
  obtain ⟨hlt, rfl⟩ := List.getElem?_eq_some_iff.mp hb
  have hfound : (buttons.zipIdx.find? fun b =>
      leads b.1 && decide (handleAt b.2 b.1 = handleAt place buttons[place])) =
        some (buttons[place], place) := by
    refine List.find?_eq_some_iff_getElem.mpr ⟨by simp [hl], place, by simpa using hlt, by simp,
      fun p hp => ?_⟩
    have hne := hfirst p hp buttons[p] (List.getElem?_eq_getElem _)
    simp [hne]
  rw [hfound]
  rfl

theorem mem_buttonExits (hb : buttons[place]? = some button) (hl : leads button = true) :
    (handleAt place button, (button.part "nextNodeId").display) ∈ buttonExits buttons :=
  List.mem_map.mpr ⟨(button, place),
    List.mem_filter.mpr ⟨List.mk_mem_zipIdx_iff_getElem?.mpr hb, hl⟩, rfl⟩

/-- A button with a successor has an edge that leads there by its handle. -/
theorem StoresMap.mem_edges (h : StoresMap v raw nodes) (hd : parse v = .ok d)
    (he : e ∈ mapped nodes) (hb : (buttonsOf e.2)[place]? = some button)
    (hl : leads button = true) :
    exitEdge (entryId e) (some (handleAt place button), (button.part "nextNodeId").display) ∈
      d.edges := by
  rw [h.edges_eq hd]
  refine List.mem_flatMap.mpr ⟨e, he, List.mem_map_of_mem ?_⟩
  exact List.mem_append_right _ (List.mem_map.mpr ⟨_, mem_buttonExits hb hl, rfl⟩)

/-- By a handle the document leads where the first entry of the id does, if that leads anywhere. -/
theorem StoresMap.nextBy_of_first (h : StoresMap v raw nodes) (hd : parse v = .ok d)
    (hsplit : mapped nodes = before ++ e :: after)
    (hfirst : ∀ e' ∈ before, entryId e' ≠ entryId e) {handle target : String}
    (hfound : (buttonExits (buttonsOf e.2)).find? handle = some target) :
    d.nextBy (entryId e) handle = some target := by
  have hnone : (before.filter fun e' => entryId e' = entryId e) = [] :=
    List.filter_eq_nil_iff.mpr fun e' he' => by simpa using hfirst e' he'
  rw [nextBy, h.outgoing_eq hd, hsplit, List.filter_append, hnone, List.nil_append,
    List.filter_cons_of_pos (by simp), List.flatMap_cons, List.find?_append]
  rw [← find?_exits (entryId e)] at hfound
  obtain ⟨edge, hedge, htarget⟩ := Option.map_eq_some_iff.mp hfound
  rw [hedge]
  exact congrArg some htarget

/-! ### Ids that are sent -/

/-- A node that has buttons has those of its entry. -/
theorem find?_buttons_of_ne_nil {n : Node} {entry : Entries Value}
    (hconfig : n.config = legacyConfig entry) (hne : n.buttons ≠ []) :
    n.config.find? "buttons" = some (.list (buttonsOf entry)) := by
  unfold Node.buttons at hne
  split at hne
  · rename_i items hitems
    have hpresent : (Value.list items).truthy = true := by
      cases items with
      | nil => exact absurd rfl hne
      | cons item rest => rfl
    have hsettings : fieldOf (legacyConfig entry) "buttons" = .list items := by
      rw [fieldOf, ← hconfig, hitems]
      rfl
    rw [hitems, buttonsOf, hsettings]
    simp only [hpresent, if_true]
  · exact absurd rfl hne

/-- The ids that are sent for the buttons of an entry. -/
theorem buttonIds_of_presents (hv : v.isTidy = true) (h : StoresMap v raw nodes)
    (he : e ∈ mapped nodes) {n : Node} (hread : node? (legacyNode e.1 e.2) = some n)
    (hk : NodeKind.ofType? n.type = some .buttons) {payload : Value} (ho : n.Presents payload)
    (hplace : place < WhatsApp.maxButtons) : (WhatsApp.buttonIds payload)[place]? =
      (buttonsOf e.2)[place]?.map fun button => .str (replyAt place button) := by
  obtain ⟨f, hf⟩ := ho.settings
  obtain ⟨-, -, hconfig, -⟩ := readFrom_legacyNode (node?_eq_some_iff.mp hread)
  have hb := find?_buttons_of_ne_nil hconfig ho.nonempty
  have htidy : (Value.object n.config).isTidy = true :=
    hconfig ▸ isTidy_legacyConfig (isTidy_of_mem_mapped h hv he)
  have hbuttons := Value.isTidy_list.mp (Value.isTidy_of_field? htidy hb)
  rw [ho.ids place hplace]
  refine replyIds_eq hk hf (Value.isTidy_object.mp htidy).1 hb (fun b hmem => ?_) place
  cases b with
  | object fs => exact (Value.isTidy_object.mp (hbuttons _ hmem)).1
  | _ => exact List.nodup_nil

/-- Where the ids that are sent differ, so do the handles, as long as no id is a zero. -/
theorem handleAt_ne_of_nodup {ids : List Value} (hn : ids.Nodup)
    (hids : ∀ p ≤ place, ids[p]? = buttons[p]?.map fun b => .str (replyAt p b))
    (hzero : ∀ p ≤ place, ∀ b, buttons[p]? = some b → (b.part "id").isZero = false)
    (hb : buttons[place]? = some button) {p : Nat} (hp : p < place) {b : Value}
    (hpb : buttons[p]? = some b) : handleAt p b ≠ handleAt place button := by
  have hreply {q : Nat} (hq : q ≤ place) {b' : Value} (hb' : buttons[q]? = some b') :
      ids[q]? = some (.str (handleAt q b')) := by
    have hnot : ¬ (b'.part "id").isZero = true := by simp [hzero q hq b' hb']
    rw [hids q hq, hb', Option.map_some, replyAt, if_neg hnot]
  intro heq
  have hsame : ids[p]? = ids[place]? := by
    rw [hreply (Nat.le_of_lt hp) hpb, hreply (Nat.le_refl _) hb, heq]
  have hlt : p < ids.length := (List.getElem?_eq_some_iff.mp (hreply (Nat.le_of_lt hp) hpb)).1
  exact Nat.ne_of_lt hp ((List.getElem?_inj hlt hn).mp hsame)

/-- **A reply leads along the edge of its button.**  Whatever a node with buttons in a document of
the older form sends, each of its first three buttons that has a successor is sent with its handle
as id, or with the text of the id if this is a zero, and has an edge by its handle to its
successor.  So if the ids that are sent differ and none up to this button is a zero, a reply by
this button leads to its successor, the entry being the first one of its id. -/
theorem reply_leads_along_edge (hv : v.isTidy = true) (h : StoresMap v raw nodes)
    (hd : parse v = .ok d) (hsplit : mapped nodes = before ++ e :: after) {n : Node}
    (hread : node? (legacyNode e.1 e.2) = some n)
    (htype : n.type = "send_button" ∨ n.type = "button_message") (c : NodeContext) (world : World)
    (s : Database.Address) (asked : List Query) :
    let x := (execute [] c n).run.run world s asked
    ∃ more, x.asked = asked ++ more ∧ ∀ request ∈ requests more, ∀ payload,
      request.Carries payload → ∀ place button, place < WhatsApp.maxButtons →
        (buttonsOf e.2)[place]? = some button → leads button = true →
        (WhatsApp.buttonIds payload)[place]? = some (.str (replyAt place button)) ∧
          exitEdge (entryId e) (some (handleAt place button), (button.part "nextNodeId").display) ∈
            d.edges ∧
          ((WhatsApp.buttonIds payload).Nodup →
            (∀ p ≤ place, ∀ b, (buttonsOf e.2)[p]? = some b → (b.part "id").isZero = false) →
            (∀ e' ∈ before, entryId e' ≠ entryId e) →
            d.nextBy (entryId e) (replyAt place button) =
              some (button.part "nextNodeId").display) := by
  intro x
  have he : e ∈ mapped nodes := by
    rw [hsplit]
    exact List.mem_append_right _ List.mem_cons_self
  have hk : NodeKind.ofType? n.type = some .buttons := by
    rcases htype with ht | ht <;> rw [ht] <;> rfl
  obtain ⟨more, hmore, -, hpresents⟩ := (sendsOne_execute_buttons (c := c) hk).run world s asked
  refine ⟨more, hmore, fun request hrequest payload hcarries place button hplace hb hl => ?_⟩
  have hids {p : Nat} (hp : p < WhatsApp.maxButtons) :=
    buttonIds_of_presents hv h he hread hk (hpresents request hrequest payload hcarries) hp
  refine ⟨?_, h.mem_edges hd he hb hl, fun hn hzero hfirst => ?_⟩
  · rw [hids hplace, hb]
    rfl
  · have hnot : ¬ (button.part "id").isZero = true := by
      simp [hzero place (Nat.le_refl _) button hb]
    rw [replyAt, if_neg hnot]
    refine h.nextBy_of_first hd hsplit hfirst
      (find?_buttonExits_of_first hb hl fun p hp b hpb => ?_)
    exact handleAt_ne_of_nodup hn (fun q hq => hids (Nat.lt_of_le_of_lt hq hplace)) hzero hb hp
      hpb

end

/-- A button with this id. -/
def yesButton (id : Value) : Value :=
  .object [("id", id), ("title", .str "Yes"), ("nextNodeId", .str "done")]

/-- A flow that asks with this button. -/
def polling (id : Value) : Entries Value :=
  [("ask", .object [("type", .str "send_button"), ("bodyText", .str "Ready?"),
    ("buttons", .list [yesButton id])]), ("done", .object [("type", .str "end")])]

theorem storesMap_polling (id : Value) :
    StoresMap (.object [("nodes", .object (polling id))]) [("nodes", .object (polling id))]
      (polling id) := ⟨rfl, rfl, List.cons_ne_nil _ _⟩

/-- The node that asks. -/
def poller (id : Value) : Node :=
  ⟨"ask", "send_button", [("bodyText", .str "Ready?"), ("buttons", .list [yesButton id])],
    some [("x", 0), ("y", 0)], "", []⟩

/-- What it sends if the user can be reached. -/
def polled (id : Value) :
    Task.Progress Database.Address (Except Failure (NodeResult × Entries Value)) :=
  (execute [] .sending (poller id)).run.run (.answering .accepted) none []

theorem polled_seven : ∃ payload r, polled (.int 7) =
    ⟨none, [.http (NodeContext.sending.accounts.whatsapp.request payload)], r⟩ ∧
      WhatsApp.buttonIds payload = [.str "7"] :=
  ⟨_, _, by with_unfolding_all rfl, rfl⟩

/-- A number other than zero is a text in the reply and in the handle. -/
theorem reply_leads_along_edge_polling : ∃ d,
    parse (.object [("nodes", .object (polling (.int 7)))]) = .ok d ∧
      d.nextBy "ask" "7" = some "done" := by
  obtain ⟨d, hd⟩ : ∃ d, parse (.object [("nodes", .object (polling (.int 7)))]) = .ok d := ⟨_, rfl⟩
  obtain ⟨payload, r, hpolled, hids⟩ := polled_seven
  have hsplit : mapped (polling (.int 7)) = [] ++
      ("ask", [("type", .str "send_button"), ("bodyText", .str "Ready?"),
        ("buttons", .list [yesButton (.int 7)])]) :: [("done", [("type", .str "end")])] := rfl
  obtain ⟨more, hmore, hled⟩ := reply_leads_along_edge (by decide) (storesMap_polling (.int 7)) hd
    hsplit (n := poller (.int 7)) rfl (Or.inl rfl) .sending (.answering .accepted) none []
  have hrequests : requests more = [NodeContext.sending.accounts.whatsapp.request payload] := by
    have hasked : (polled (.int 7)).asked = [] ++ more := hmore
    rw [List.nil_append, hpolled] at hasked
    rw [← hasked]
    rfl
  obtain ⟨-, -, hnext⟩ := hled _ (hrequests ▸ List.mem_singleton_self _) payload
    (WhatsApp.Account.carries_request _ payload) 0 (yesButton (.int 7)) (by decide) rfl rfl
  refine ⟨d, hd, hnext (hids ▸ List.nodup_singleton _) (fun p hp b hb => ?_)
    (List.forall_mem_nil _)⟩
  obtain rfl := Nat.le_zero.mp hp
  obtain rfl := Option.some.inj hb
  rfl

/-- A zero is a text in the reply, but the handle is made of the place. -/
theorem zero_reply_leads_nowhere : ∃ d payload r,
    parse (.object [("nodes", .object (polling (.int 0)))]) = .ok d ∧
      d.node "ask" = some (poller (.int 0)) ∧
      polled (.int 0) =
        ⟨none, [.http (NodeContext.sending.accounts.whatsapp.request payload)], r⟩ ∧
      WhatsApp.buttonIds payload = [.str "0"] ∧
      exitEdge "ask" (some "btn_0", "done") ∈ d.edges ∧ d.nextBy "ask" "0" = none :=
  ⟨_, _, _, rfl, rfl, by with_unfolding_all rfl, rfl, List.mem_cons_self, rfl⟩

end Document

end ChatFlow
