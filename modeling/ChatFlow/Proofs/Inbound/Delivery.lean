import ChatFlow.Inbound.Message
import ChatFlow.Proofs.Entries
import ChatFlow.Proofs.Value.Parts

/-!
# Which deliveries can be read

A delivery is asked for its parts at every level.  A part that is absent is passed
over, one that is present and is no object stops the reading, and so does a text of
the message in whose place something else stands.  `Legible` says all of that of the
delivery itself, without reading it: a delivery is read, with or without a message
in it, exactly if it is legible (`exists_ofPayload_iff`).
-/

namespace ChatFlow

namespace Message

/-! ### The shape of a delivery -/

/-- What stands at the first change of the first entry of a delivery. -/
def content (payload : Value) : Value :=
  ((payload.part "entry").head.part "changes").head.part "value"

/-- The types of messages that have a part of the same name. -/
def partTypes : List String := ["text", "location", "interactive"] ++ mediaTypes

/-- The types of interactive replies, each of which has a part of the same name. -/
def replyTypes : List String := ["button_reply", "list_reply", "nfm_reply"]

/-- What the sender says in a message: its text, else the title of a pressed button. -/
def said (message : Value) : Value :=
  let body := (message.part "text").part "body"
  if body.truthy then body
  else (((message.part "interactive").part "button_reply").part "title").orEmpty

/-- The name of the first contact of a delivery. -/
def signature (delivery : Value) : Value :=
  ((delivery.part "contacts").head.part "profile").part "name"

/-- The parts from which the sender's name is read are what they have to be. -/
structure Signed (delivery : Value) : Prop where
  contacts : (delivery.part "contacts").isRow = true
  profile : ((delivery.part "contacts").head.part "profile").isOpen = true

/-- The parts from which what the sender says is read are what they have to be. -/
structure Spoken (message : Value) : Prop where
  text : (message.part "text").isOpen = true
  button : ((message.part "text").part "body").truthy = false →
    (message.part "interactive").isOpen = true ∧
      ((message.part "interactive").part "button_reply").isOpen = true

/-- The parts that the type of a message names are what they have to be. -/
structure Typed (message type : Value) : Prop where
  own : ∀ kind ∈ partTypes, type = .str kind → (message.part kind).isOpen = true
  reply : type = .str "interactive" → ∀ kind ∈ replyTypes,
    (message.part "interactive").part "type" = .str kind →
      ((message.part "interactive").part kind).isOpen = true

/-- The type of a message, the empty text if it has none. -/
def typeOf (message : Value) : Value := (message.field? "type").getD (.str "")

/-- Texts stand where a message has texts. -/
structure Worded (message name : Value) : Prop where
  body : (said message).isText = true
  type : (typeOf message).isText = true
  id : message.part "id" = .null ∨ (message.part "id").isText = true
  timestamp : message.part "timestamp" = .null ∨ (message.part "timestamp").isText = true
  name : name = .null ∨ name.isText = true

/-- The first message of a delivery, if it is one that says who sent it. -/
structure Sent (delivery message : Value) : Prop where
  first : (delivery.part "messages").head = message
  object : message.isObject = true
  sender : (message.part "from").truthy = true

/-- A delivery in which everything that is asked for is what it has to be. -/
structure Legible (payload : Value) : Prop where
  messages : ((content payload).part "messages").isRow = true
  message : ∀ message, Sent (content payload) message →
    Signed (content payload) ∧ Spoken message ∧ Typed message (typeOf message) ∧
      Worded message (signature (content payload))

/-! ### The way to the messages -/

variable {payload delivery name type w : Value} {ds fs : Entries Value}

theorem deliveryValue?_eq (payload : Value) : deliveryValue? payload =
    (((payload.part "entry").head.part "changes").head.field? "value") := by
  have hchanges : ∀ entry : Value, (entry.first.toOption.bind fun w => (w.field? "changes").bind
      fun changes => changes.first.toOption.bind fun w => w.field? "value") =
      (entry.head.part "changes").head.field? "value" := fun entry => by
    simp only [Value.first_bind_field?]
    rw [← Option.bind_assoc, Value.first_bind_field?]
    exact Value.field?_bind rfl _ _
  calc deliveryValue? payload = (payload.field? "entry").bind fun entry =>
        entry.first.toOption.bind fun w => (w.field? "changes").bind
          fun changes => changes.first.toOption.bind fun w => w.field? "value" := rfl
    _ = _ := by
      simp only [hchanges]
      exact Value.field?_bind rfl _ _

theorem deliveryValue?_eq_object_iff :
    deliveryValue? payload = some (.object ds) ↔ content payload = .object ds := by
  rw [deliveryValue?_eq, content]
  generalize ((payload.part "entry").head.part "changes").head = change
  unfold Value.part
  cases change.field? "value" with
  | none => exact iff_of_false (fun h => by cases h) (fun h => by cases h)
  | some v => exact ⟨Option.some.inj, congrArg some⟩

/-! ### The parts of a message -/

theorem signed_iff : Signed delivery ↔ (delivery.part "contacts").isRow = true ∧
    ((delivery.part "contacts").head.part "profile").isOpen = true :=
  ⟨fun h => ⟨h.contacts, h.profile⟩, fun h => ⟨h.1, h.2⟩⟩

theorem senderName_eq_ok_iff :
    senderName (.object ds) = .ok w ↔ Signed (.object ds) ∧ w = signature (.object ds) := by
  rw [signed_iff, signature]
  simp only [senderName, Value.get_object, bind_eq_ok_iff, Except.ok.injEq, exists_eq_left']
  generalize (Value.object ds).part "contacts" = contacts
  cases ht : contacts.truthy with
  | false =>
    rw [Value.head_of_not_truthy ht, Value.isRow_of_not_truthy ht]
    exact pure_eq_ok_iff.trans ⟨fun h => ⟨⟨rfl, rfl⟩, h⟩, And.right⟩
  | true =>
    simp only [Bool.not_true, Bool.false_eq_true, if_false, bind_eq_ok_iff]
    rw [← Value.exists_first_iff ht]
    -- a first item that is no object has no profile, and then there is no name
    constructor
    · rintro ⟨c, hc, h⟩
      rw [Value.part_head_of_first hc]
      cases c with
      | object fs =>
        obtain ⟨hopen, hw⟩ := Value.orObject_get_eq_ok_iff.mp h
        exact ⟨⟨⟨_, hc⟩, hopen⟩, hw⟩
      | _ => exact ⟨⟨⟨_, hc⟩, rfl⟩, pure_eq_ok_iff.mp h⟩
    · rintro ⟨⟨⟨c, hc⟩, hopen⟩, hw⟩
      rw [Value.part_head_of_first hc] at hopen hw
      refine ⟨c, hc, ?_⟩
      cases c with
      | object fs => exact Value.orObject_get_eq_ok_iff.mpr ⟨hopen, hw⟩
      | _ => exact pure_eq_ok_iff.mpr hw

theorem replyPart_eq_ok_iff {part : String} : replyPart (.object fs) part = .ok w ↔
    ((Value.object fs).part "interactive").isOpen = true ∧
      w = (((Value.object fs).part "interactive").part part).orObject := by
  simp only [replyPart, Value.get_object, bind_eq_ok_iff, Value.orObject_get_eq_ok_iff,
    pure_eq_ok_iff, Except.ok.injEq, exists_eq_left', and_assoc, exists_and_left, exists_eq_left]

theorem spoken_iff {message : Value} : Spoken message ↔ (message.part "text").isOpen = true ∧
    (((message.part "text").part "body").truthy = false →
      (message.part "interactive").isOpen = true ∧
        ((message.part "interactive").part "button_reply").isOpen = true) :=
  ⟨fun h => ⟨h.text, h.button⟩, fun h => ⟨h.1, h.2⟩⟩

theorem bodyOf_eq_ok_iff :
    bodyOf (.object fs) = .ok w ↔ Spoken (.object fs) ∧ w = said (.object fs) := by
  rw [spoken_iff, said]
  simp only [bodyOf, Value.get_object, bind_eq_ok_iff, Value.orObject_get_eq_ok_iff,
    Except.ok.injEq, exists_eq_left', and_assoc, exists_and_left, exists_eq_left]
  refine and_congr_right fun _ => ?_
  cases ht : (((Value.object fs).part "text").part "body").truthy with
  | true => simp [pure_eq_ok_iff]
  | false =>
    simp only [Bool.false_eq_true, if_false, forall_const, bind_eq_ok_iff, pure_eq_ok_iff,
      replyPart_eq_ok_iff, Value.orObject_get_eq_ok_iff, and_assoc, exists_and_left, exists_eq_left]

/-! ### What a message says by its type -/

theorem exists_mediaVariables_iff {kind : String} {media : Value} :
    (∃ vars, mediaVariables kind media = .ok vars) ↔ media.isObject = true := by
  cases media with
  | object fs =>
    refine iff_of_true ?_ rfl
    unfold mediaVariables
    split <;> split <;> exact ⟨_, rfl⟩
  | _ =>
    refine iff_of_false ?_ (by simp [Value.isObject])
    rintro ⟨vars, h⟩
    cases h

theorem exists_locationVariables_iff {location : Value} :
    (∃ vars, locationVariables location = .ok vars) ↔ location.isObject = true := by
  simp only [locationVariables, exists_ok_bind_iff, Value.get_eq_ok_iff, pure_eq_ok_iff, exists_eq,
    exists_eq_left, exists_and_left, and_assoc, and_true, and_self]

theorem exists_buttonVariables_iff {reply : Value} :
    (∃ vars, buttonVariables reply = .ok vars) ↔ reply.isObject = true := by
  simp only [buttonVariables, exists_ok_bind_iff, Value.get_eq_ok_iff, pure_eq_ok_iff, exists_eq,
    exists_eq_left, exists_and_left, and_assoc, and_true, and_self]

theorem exists_listVariables_iff {reply : Value} :
    (∃ vars, listVariables reply = .ok vars) ↔ reply.isObject = true := by
  simp only [listVariables, exists_ok_bind_iff, Value.get_eq_ok_iff, pure_eq_ok_iff, exists_eq,
    exists_eq_left, exists_and_left, and_assoc, and_true, and_self]

theorem exists_formResponse?_iff : (∃ data, formResponse? (.object fs) = .ok data) ↔
    ((Value.object fs).part "interactive").isOpen = true ∧
      (((Value.object fs).part "interactive").part "nfm_reply").isOpen = true := by
  simp only [formResponse?, exists_ok_bind_iff, Value.get_object, Value.orObject_get_eq_ok_iff,
    Except.ok.injEq, exists_eq_left', exists_eq_left, exists_and_left, and_assoc]
  refine and_congr_right fun _ => and_iff_left ?_
  split <;> exact ⟨_, rfl⟩

theorem replyKind_eq_ok_iff : replyKind (.object fs) = .ok w ↔
    ((Value.object fs).part "interactive").isOpen = true ∧
      w = ((Value.object fs).part "interactive").part "type" := by
  simp only [replyKind, Value.get_object, bind_eq_ok_iff, Value.orObject_get_eq_ok_iff,
    Except.ok.injEq, exists_eq_left']

theorem exists_interactiveVariables_iff :
    (∃ vars, interactiveVariables (.object fs) = .ok vars) ↔
      ((Value.object fs).part "interactive").isOpen = true ∧ ∀ kind ∈ replyTypes,
        ((Value.object fs).part "interactive").part "type" = .str kind →
          (((Value.object fs).part "interactive").part kind).isOpen = true := by
  simp only [interactiveVariables, exists_ok_bind_iff, replyKind_eq_ok_iff, and_assoc,
    exists_and_left, exists_eq_left]
  refine and_congr_right fun hopen => ?_
  split
  · rename_i h
    simp [h, replyTypes, exists_ok_bind_iff, replyPart_eq_ok_iff, exists_buttonVariables_iff,
      Value.isObject_orObject, hopen]
  · rename_i h
    simp [h, replyTypes, exists_ok_bind_iff, replyPart_eq_ok_iff, exists_listVariables_iff,
      Value.isObject_orObject, hopen]
  · rename_i h
    simp only [exists_ok_bind_iff, pure_eq_ok_iff, exists_eq, and_true, exists_formResponse?_iff]
    simp [h, replyTypes, hopen]
  · rename_i hbutton hlist hform
    refine iff_of_true ⟨[], rfl⟩ fun kind hkind htype => ?_
    simp only [replyTypes, List.mem_cons, List.not_mem_nil, or_false] at hkind
    rcases hkind with rfl | rfl | rfl
    · exact absurd htype hbutton
    · exact absurd htype hlist
    · exact absurd htype hform

variable {message : Value} {kind : String}

theorem typed_str_iff (h : kind ≠ "interactive") :
    Typed message (.str kind) ↔ (kind ∈ partTypes → (message.part kind).isOpen = true) := by
  refine ⟨fun ht hkind => ht.own kind hkind rfl, fun ht => ⟨fun kind' hkind' h' => ?_, fun h' => ?_⟩⟩
  · obtain rfl := Value.str.inj h'
    exact ht hkind'
  · exact absurd (Value.str.inj h') h

theorem typed_interactive_iff : Typed message (.str "interactive") ↔
    (message.part "interactive").isOpen = true ∧ ∀ kind ∈ replyTypes,
      (message.part "interactive").part "type" = .str kind →
        ((message.part "interactive").part kind).isOpen = true := by
  refine ⟨fun ht => ⟨ht.own _ (by decide) rfl, ht.reply rfl⟩, fun ⟨hopen, hreply⟩ => ⟨?_, fun _ => hreply⟩⟩
  intro kind _ h
  obtain rfl := Value.str.inj h
  exact hopen

theorem typed_of_not_text (h : ∀ s, type ≠ .str s) : Typed message type :=
  ⟨fun kind _ h' => absurd h' (h kind), fun h' => absurd h' (h _)⟩

/-- A part that is read for variables only if it is present may be absent. -/
theorem exists_present_iff {v : Value} {f : Value → Except Failure (Entries Value)}
    (hf : (∃ vars, f v = .ok vars) ↔ v.isObject = true) :
    (∃ vars, (if v.truthy then f v else return []) = .ok vars) ↔ v.isOpen = true := by
  cases ht : v.truthy with
  | true =>
    rw [Value.isOpen_iff_of_truthy ht, ← hf]
    rfl
  | false => exact iff_of_true ⟨[], rfl⟩ (Value.isOpen_of_not_truthy ht)

theorem exists_typeVariables_iff : (∃ vars, typeVariables (.object fs) type = .ok vars) ↔
    Typed (.object fs) type := by
  unfold typeVariables
  split
  · rw [typed_str_iff (by decide), forall_prop_of_true (by decide)]
    simp only [exists_ok_bind_iff, Value.get_object, Value.orObject_get_eq_ok_iff, pure_eq_ok_iff,
      Except.ok.injEq, exists_eq_left', exists_and_left, exists_eq, and_true]
  · rw [typed_str_iff (by decide), forall_prop_of_true (by decide)]
    simp only [exists_ok_bind_iff, Value.get_object, Except.ok.injEq, exists_eq_left']
    exact exists_present_iff exists_locationVariables_iff
  · rw [typed_interactive_iff]
    exact exists_interactiveVariables_iff
  · rename_i kind htext hlocation hinteractive
    rw [typed_str_iff hinteractive]
    have hmember : kind ∈ partTypes ↔ mediaTypes.contains kind = true := by
      have hown : kind ∉ ["text", "location", "interactive"] := by
        simpa using ⟨htext, hlocation, hinteractive⟩
      rw [partTypes, List.mem_append, or_iff_right hown, List.contains_iff_mem]
    rw [hmember]
    split
    · rename_i hmedia
      rw [forall_prop_of_true hmedia]
      simp only [exists_ok_bind_iff, Value.get_object, Except.ok.injEq, exists_eq_left']
      exact exists_present_iff exists_mediaVariables_iff
    · rename_i hmedia
      exact iff_of_true ⟨[], rfl⟩ fun h => absurd h hmedia
  · rename_i htext
    exact iff_of_true ⟨[], rfl⟩ (typed_of_not_text fun s h => htext s h)

/-! ### The text of a message among its variables -/

/-- None of some variables is the text of the message. -/
def Apart (vars : Entries Value) : Prop := ∀ e ∈ vars, e.1 ≠ "message.body"

variable {vars : Entries Value}

theorem apart_nil : Apart [] := fun _ h => by cases h

theorem apart_mediaVariables {media : Value} (hkind : kind ∈ mediaTypes)
    (h : mediaVariables kind media = .ok vars) : Apart vars := by
  obtain ⟨fs, rfl⟩ := Value.exists_of_isObject (exists_mediaVariables_iff.mp ⟨vars, h⟩)
  simp only [mediaTypes, List.mem_cons, List.not_mem_nil, or_false] at hkind
  rcases hkind with rfl | rfl | rfl | rfl
  all_goals
    obtain rfl := Except.ok.inj h
    simp [Apart]

theorem apart_locationVariables {location : Value} (h : locationVariables location = .ok vars) :
    Apart vars := by
  simp only [locationVariables, bind_eq_ok_iff, pure_eq_ok_iff] at h
  obtain ⟨_, -, _, -, _, -, _, -, rfl⟩ := h
  simp [Apart]

theorem apart_buttonVariables {reply : Value} (h : buttonVariables reply = .ok vars) :
    Apart vars := by
  simp only [buttonVariables, bind_eq_ok_iff, pure_eq_ok_iff] at h
  obtain ⟨_, -, _, -, rfl⟩ := h
  simp [Apart]

theorem apart_listVariables {reply : Value} (h : listVariables reply = .ok vars) : Apart vars := by
  simp only [listVariables, bind_eq_ok_iff, pure_eq_ok_iff] at h
  obtain ⟨_, -, _, -, _, -, rfl⟩ := h
  simp [Apart]

theorem apart_formVariables (data : Entries Value) : Apart (formVariables "flow_response" data) := by
  intro e he
  rcases List.mem_cons.mp he with rfl | he
  · exact (by decide : "flow_response" ≠ "message.body")
  · obtain ⟨e', -, rfl⟩ := List.mem_map.mp he
    intro h
    -- the two names begin with different letters
    have hchars := congrArg String.toList h
    simp [String.toList_append] at hchars

theorem apart_interactiveVariables (h : interactiveVariables (.object fs) = .ok vars) :
    Apart vars := by
  obtain ⟨kind, -, h⟩ := bind_eq_ok_iff.mp h
  split at h
  · obtain ⟨reply, -, h⟩ := bind_eq_ok_iff.mp h
    exact apart_buttonVariables h
  · obtain ⟨reply, -, h⟩ := bind_eq_ok_iff.mp h
    exact apart_listVariables h
  · obtain ⟨data, -, h⟩ := bind_eq_ok_iff.mp h
    obtain rfl := pure_eq_ok_iff.mp h
    cases data with
    | none => exact apart_nil
    | some data => exact apart_formVariables data
  · obtain rfl := pure_eq_ok_iff.mp h
    exact apart_nil

/-- The variables that a message has by its type leave its text as it is. -/
theorem apart_typeVariables (h : typeVariables (.object fs) type = .ok vars) : Apart vars := by
  unfold typeVariables at h
  split at h
  · obtain ⟨text, -, h⟩ := bind_eq_ok_iff.mp h
    obtain ⟨body, -, h⟩ := bind_eq_ok_iff.mp h
    obtain rfl := pure_eq_ok_iff.mp h
    simp [Apart]
  · obtain ⟨location, -, h⟩ := bind_eq_ok_iff.mp h
    split at h
    · exact apart_locationVariables h
    · obtain rfl := pure_eq_ok_iff.mp h
      exact apart_nil
  · exact apart_interactiveVariables h
  · split at h
    · rename_i hmedia
      obtain ⟨media, -, h⟩ := bind_eq_ok_iff.mp h
      split at h
      · exact apart_mediaVariables (List.contains_iff_mem.mp hmedia) h
      · obtain rfl := pure_eq_ok_iff.mp h
        exact apart_nil
    · obtain rfl := pure_eq_ok_iff.mp h
      exact apart_nil
  · obtain rfl := pure_eq_ok_iff.mp h
    exact apart_nil

/-! ### Messages -/

theorem exists_startVariables_iff : (∃ vars, startVariables (.object fs) name = .ok vars) ↔
    Spoken (.object fs) ∧ Typed (.object fs) (typeOf (.object fs)) := by
  simp only [startVariables, exists_ok_bind_iff, bodyOf_eq_ok_iff, Value.get_object,
    Except.ok.injEq, exists_eq_left', and_assoc, exists_and_left, exists_eq_left, pure_eq_ok_iff,
    exists_eq, and_true, exists_typeVariables_iff]
  rfl

theorem body_of_startVariables (h : startVariables (.object fs) name = .ok vars) :
    vars.find? "message.body" = some (said (.object fs)) := by
  unfold startVariables at h
  obtain ⟨body, hbody, h⟩ := bind_eq_ok_iff.mp h
  obtain ⟨sender, -, h⟩ := bind_eq_ok_iff.mp h
  obtain ⟨timestamp, -, h⟩ := bind_eq_ok_iff.mp h
  obtain ⟨id, -, h⟩ := bind_eq_ok_iff.mp h
  obtain ⟨typed, htyped, h⟩ := bind_eq_ok_iff.mp h
  obtain rfl := pure_eq_ok_iff.mp h
  obtain rfl := (bodyOf_eq_ok_iff.mp hbody).2
  rw [Entries.find?_merge_of_forall_ne (apart_typeVariables htyped)]
  simp [Entries.find?_cons]

/-- No field is wrong exactly if each is a text, or null where it may be. -/
theorem notTexts_isEmpty_iff {fields : List (String × Bool × Value)} :
    (notTexts fields).isEmpty = true ↔
      ∀ f ∈ fields, f.2.2.isText = true ∨ (f.2.1 = true ∧ f.2.2 = .null) := by
  simp only [notTexts, List.isEmpty_iff, List.map_eq_nil_iff, List.filter_eq_nil_iff]
  refine forall₂_congr fun f _ => ?_
  obtain ⟨field, nullable, v⟩ := f
  cases v <;> simp [Value.isText, Value.text?]

theorem worded_iff : Worded message name ↔ (notTexts [("body", false, said message),
    ("contact_name", true, name), ("id", true, message.part "id"),
    ("timestamp", true, message.part "timestamp"), ("type", false, typeOf message)]).isEmpty = true := by
  rw [notTexts_isEmpty_iff]
  simp only [List.forall_mem_cons, List.not_mem_nil, false_implies, implies_true, and_true,
    Bool.false_eq_true, false_and, or_false, true_and]
  constructor
  · intro h
    exact ⟨h.body, h.name.symm, h.id.symm, h.timestamp.symm, h.type⟩
  · rintro ⟨hbody, hname, hid, htimestamp, htype⟩
    exact ⟨hbody, htype, hid.symm, htimestamp.symm, hname.symm⟩

theorem exists_ofObject_iff : (∃ m, ofObject (.object fs) name = .ok m) ↔
    Spoken (.object fs) ∧ Typed (.object fs) (typeOf (.object fs)) ∧ Worded (.object fs) name := by
  rw [← and_assoc, ← exists_startVariables_iff, worded_iff]
  simp only [ofObject, exists_ok_bind_iff, Value.get_object, Except.ok.injEq, exists_eq_left']
  constructor
  · rintro ⟨vars, hvars, m, h⟩
    split at h
    · obtain ⟨_, h, -⟩ := bind_eq_ok_iff.mp h
      cases h
    · rename_i hright
      rw [body_of_startVariables hvars] at hright
      exact ⟨⟨vars, hvars⟩, by simpa [Value.ofOption, typeOf] using hright⟩
  · rintro ⟨⟨vars, hvars⟩, hright⟩
    refine ⟨vars, hvars, ?_⟩
    rw [body_of_startVariables hvars]
    split
    · rename_i hwrong
      exact absurd hright (by simpa [Value.ofOption, typeOf] using hwrong)
    · exact ⟨_, rfl⟩

theorem legible_iff : Legible payload ↔ ((content payload).part "messages").isRow = true ∧
    ∀ message, Sent (content payload) message →
      Signed (content payload) ∧ Spoken message ∧ Typed message (typeOf message) ∧
        Worded message (signature (content payload)) :=
  ⟨fun h => ⟨h.messages, h.message⟩, fun h => ⟨h.1, h.2⟩⟩

theorem not_sent_of_not_truthy (h : (delivery.part "messages").truthy = false) :
    ¬ Sent delivery message := by
  intro hs
  have hobject := hs.object
  rw [← hs.first, Value.head_of_not_truthy h] at hobject
  cases hobject

/-- The first message of a delivery is read exactly if what it needs is right, once it has a sender. -/
theorem exists_firstMessage_iff : (∃ r, (do
      let sender ← (Value.object fs).get "from"
      if !sender.truthy then return none
      let name ← senderName (.object ds)
      return some (← ofObject (.object fs) name) : Except Failure (Option Message)) = .ok r) ↔
    (((Value.object fs).part "from").truthy = true →
      Signed (.object ds) ∧ Spoken (.object fs) ∧ Typed (.object fs) (typeOf (.object fs)) ∧
        Worded (.object fs) (signature (.object ds))) := by
  rw [← exists_ofObject_iff]
  simp only [exists_ok_bind_iff, Value.get_object, Except.ok.injEq, exists_eq_left']
  cases hsender : ((Value.object fs).part "from").truthy with
  | false => exact iff_of_true ⟨none, rfl⟩ fun h => by cases h
  | true =>
    simp only [Bool.not_true, Bool.false_eq_true, if_false, forall_const, exists_ok_bind_iff,
      senderName_eq_ok_iff, and_assoc, exists_and_left, exists_eq_left, pure_eq_ok_iff, exists_eq,
      and_true]

/-- A delivery is read, with or without a message in it, exactly if it is legible. -/
theorem exists_ofPayload_iff : (∃ m, ofPayload payload = .ok m) ↔ Legible payload := by
  rw [legible_iff, ofPayload]
  split
  · rename_i ds hd
    rw [deliveryValue?_eq_object_iff.mp hd]
    simp only [exists_ok_bind_iff, Value.get_object, Except.ok.injEq, exists_eq_left']
    cases ht : ((Value.object ds).part "messages").truthy with
    | false =>
      refine iff_of_true ⟨none, rfl⟩ ⟨Value.isRow_of_not_truthy ht, fun message hs => ?_⟩
      exact absurd hs (not_sent_of_not_truthy ht)
    | true =>
      simp only [Bool.not_true, Bool.false_eq_true, if_false, exists_ok_bind_iff]
      rw [← Value.exists_first_iff ht]
      constructor
      · rintro ⟨first, hfirst, h⟩
        refine ⟨⟨first, hfirst⟩, fun message hs => ?_⟩
        obtain ⟨fs, rfl⟩ := Value.exists_of_isObject hs.object
        obtain rfl := Except.ok.inj ((Value.first_eq_object_iff.mpr hs.first).symm.trans hfirst)
        exact exists_firstMessage_iff.mp h hs.sender
      · rintro ⟨⟨first, hfirst⟩, hmessage⟩
        refine ⟨first, hfirst, ?_⟩
        cases first with
        | object fs =>
          exact exists_firstMessage_iff.mpr fun hsender =>
            hmessage _ ⟨Value.first_eq_object_iff.mp hfirst, rfl, hsender⟩
        | _ => exact ⟨none, rfl⟩
  · rename_i hd
    have hpart : (content payload).part "messages" = .null := by
      cases hc : content payload with
      | object ds => exact absurd (deliveryValue?_eq_object_iff.mpr hc) (hd ds)
      | _ => rfl
    refine iff_of_true ⟨none, rfl⟩ ⟨by rw [hpart]; rfl, fun message hs => ?_⟩
    exact absurd hs (not_sent_of_not_truthy (by rw [hpart]; rfl))

end Message

end ChatFlow
