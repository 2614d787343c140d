import Mathlib.Data.List.Nodup
import Mathlib.Data.List.Perm.Basic
import ChatFlow.Outside.WhatsApp.Payload
import ChatFlow.Proofs.Value.Parts

/-!
# Telling choices apart

A reply says by its id which button or row has been chosen.  What is offered without an id
gets one from its place, and nothing sees to it that this one is new: rows are counted in
each section by itself, and an id that is given can be spelled like one that is made.
`nodup_offeredIds_iff` says exactly when the ids of what is offered differ, and
`choices_told_apart_iff` says it of the messages themselves.
-/

namespace ChatFlow

/-- The items of a list, none of any other value. -/
def Value.items : Value → List Value
  | list items => items
  | _ => []

namespace WhatsApp

/-! ### The ids in a message -/

/-- The ids of the buttons of a message. -/
def buttonIds (payload : Value) : List Value :=
  (((payload.part "interactive").part "action").part "buttons").items.map fun button =>
    (button.part "reply").part "id"

/-- The ids of the rows of a message, one section after the other. -/
def rowIds (payload : Value) : List Value :=
  (((payload.part "interactive").part "action").part "sections").items.flatMap fun given =>
    (given.part "rows").items.map fun row => row.part "id"

/-! ### What is offered -/

/-- What stands in a section for its rows. -/
def rowsOf (given : Value) : Value :=
  (given.part "rows").orElse ((given.part "items").orElse (.list []))

/-- The buttons that are shown, each with its place. -/
def shownButtons (buttons : List Value) : List (Value × Nat) := (buttons.take maxButtons).zipIdx

/-- The rows of a section that are shown, each with its place in the section. -/
def shownRowsOf (given : Value) : List (Value × Nat) := ((rowsOf given).items.take maxRows).zipIdx

/-- The rows that are shown of all sections. -/
def shownRows (sections : List Value) : List (Value × Nat) := sections.flatMap shownRowsOf

/-- The id under which something is offered: its own, else a word with its place. -/
def offeredId (word : String) (offer : Value × Nat) : Value :=
  (offer.1.part "id").orElse (numbered word offer.2)

/-- The ids that are given. -/
def givenIds (offers : List (Value × Nat)) : List Value :=
  (offers.filter fun offer => (offer.1.part "id").truthy).map fun offer => offer.1.part "id"

/-- The places of what has no id. -/
def unnamedPlaces (offers : List (Value × Nat)) : List Nat :=
  (offers.filter fun offer => !(offer.1.part "id").truthy).map (·.2)

theorem numbered_injective (word : String) : Function.Injective (numbered word) := by
  intro place place' h
  have hchars := congrArg String.toList (Value.str.inj h)
  rw [String.toList_append, String.toList_append] at hchars
  have hdigits := congrArg (fun ds => Nat.ofDigitChars 10 ds 0) (List.append_cancel_left hchars)
  simpa [Decimal.natChars] using hdigits

/-- The ids of what is offered differ exactly if the given ones do, no place is taken twice by
something without an id, and no given id is the one that such a place makes. -/
theorem nodup_offeredIds_iff (word : String) (offers : List (Value × Nat)) :
    (offers.map (offeredId word)).Nodup ↔
      (givenIds offers).Nodup ∧ (unnamedPlaces offers).Nodup ∧
        ∀ place ∈ unnamedPlaces offers, numbered word place ∉ givenIds offers := by
  have hgiven : (offers.filter fun o => (o.1.part "id").truthy).map (offeredId word) =
      givenIds offers := by
    refine List.map_congr_left fun o ho => if_pos ?_
    exact (List.mem_filter.mp ho).2
  have hunnamed : (offers.filter fun o => !(o.1.part "id").truthy).map (offeredId word) =
      (unnamedPlaces offers).map (numbered word) := by
    rw [unnamedPlaces, List.map_map]
    refine List.map_congr_left fun o ho => if_neg ?_
    simpa using (List.mem_filter.mp ho).2
  have hperm := (List.filter_append_perm (fun o => (o.1.part "id").truthy) offers).map
    (offeredId word)
  rw [List.map_append, hgiven, hunnamed] at hperm
  rw [← hperm.nodup_iff, List.nodup_append, List.nodup_map_iff (numbered_injective word)]
  refine and_congr_right fun _ => and_congr_right fun _ => ?_
  simp only [List.forall_mem_map]
  exact ⟨fun h place hplace hid => h _ hid place hplace rfl,
    fun h id hid place hplace heq => h place hplace (heq ▸ hid)⟩

/-- Buttons are counted once. -/
theorem nodup_unnamedPlaces_shownButtons (buttons : List Value) :
    (unnamedPlaces (shownButtons buttons)).Nodup := by
  have hplaces : ((shownButtons buttons).map (·.2)).Nodup := by
    rw [shownButtons, List.zipIdx_map_snd]
    exact List.nodup_range'
  exact hplaces.sublist (List.filter_sublist.map _)

/-! ### What is made of it -/

section

variable {f : Nat → Value → Except Failure Value}
  {recipient body button header footer payload : Value}

theorem exists_partsFrom_iff (place : Nat) (items : List Value) :
    (∃ parts, partsFrom f place items = .ok parts) ↔
      ∀ x ∈ items.zipIdx place, ∃ part, f x.2 x.1 = .ok part := by
  induction items generalizing place with
  | nil => exact iff_of_true ⟨[], rfl⟩ (List.forall_mem_nil _)
  | cons v rest ih =>
    rw [List.zipIdx_cons, List.forall_mem_cons, ← ih, partsFrom, exists_ok_bind_iff]
    constructor
    · rintro ⟨part, hpart, h⟩
      obtain ⟨parts, hparts, -⟩ := exists_ok_bind_iff.mp h
      exact ⟨⟨part, hpart⟩, parts, hparts⟩
    · rintro ⟨⟨part, hpart⟩, parts, hparts⟩
      exact ⟨part, hpart, exists_ok_bind_iff.mpr ⟨parts, hparts, _, rfl⟩⟩

/-- What is told of each part alone is told of all of them. -/
theorem map_of_partsFrom {α : Type} {g : Value → α} {told : Value × Nat → α}
    (hf : ∀ place v part, f place v = .ok part → g part = told (v, place)) {place : Nat}
    {items parts : List Value} (h : partsFrom f place items = .ok parts) :
    parts.map g = (items.zipIdx place).map told := by
  induction items generalizing place parts with
  | nil =>
    obtain rfl := Except.ok.inj h
    rfl
  | cons v rest ih =>
    obtain ⟨part, hpart, h⟩ := bind_eq_ok_iff.mp h
    obtain ⟨parts', hparts, h⟩ := bind_eq_ok_iff.mp h
    obtain rfl := pure_eq_ok_iff.mp h
    rw [List.map_cons, List.zipIdx_cons, List.map_cons, hf place v part hpart, ih hparts]

theorem forall_mem_zipIdx_iff {p : Value → Prop} {place : Nat} {items : List Value} :
    (∀ x ∈ items.zipIdx place, p x.1) ↔ ∀ v ∈ items, p v := by
  rw [← List.forall_mem_map (f := Prod.fst) (P := p), List.zipIdx_map_fst]

theorem map_zipIdx_fst {α : Type} (g : Value → α) (place : Nat) (items : List Value) :
    ((items.zipIdx place).map fun x => g x.1) = items.map g := by
  rw [← List.zipIdx_map_fst place items, List.map_map, List.zipIdx_map_fst]
  rfl

/-- Where each part is made of an object and nothing else, all are made if all are objects. -/
theorem exists_partsFrom_iff_isObject
    (hf : ∀ place v, (∃ part, f place v = .ok part) ↔ v.isObject = true) (place : Nat)
    (items : List Value) : (∃ parts, partsFrom f place items = .ok parts) ↔
      ∀ v ∈ items, v.isObject = true := by
  simp only [exists_partsFrom_iff, hf]
  exact forall_mem_zipIdx_iff (p := fun v => v.isObject = true)

theorem exists_buttonPart_iff (place : Nat) (v : Value) :
    (∃ part, buttonPart place v = .ok part) ↔ v.isObject = true := by
  cases v with
  | object fs => exact iff_of_true ⟨_, rfl⟩ rfl
  | _ => exact iff_of_false (fun ⟨_, h⟩ => nomatch h) Bool.false_ne_true

theorem exists_rowPart_iff (place : Nat) (v : Value) :
    (∃ part, rowPart place v = .ok part) ↔ v.isObject = true := by
  cases v with
  | object fs => exact iff_of_true ⟨_, rfl⟩ rfl
  | _ => exact iff_of_false (fun ⟨_, h⟩ => nomatch h) Bool.false_ne_true

theorem id_of_buttonPart {place : Nat} {v part : Value} (h : buttonPart place v = .ok part) :
    (part.part "reply").part "id" = offeredId "btn_" (v, place) := by
  cases v with
  | object fs =>
    obtain rfl := Except.ok.inj h
    rfl
  | _ => cases h

theorem id_of_rowPart {place : Nat} {v part : Value} (h : rowPart place v = .ok part) :
    part.part "id" = offeredId "row_" (v, place) := by
  cases v with
  | object fs =>
    obtain rfl := Except.ok.inj h
    rfl
  | _ => cases h

/-- A section with rows that can be shown. -/
def Offers (given : Value) : Prop :=
  given.isObject = true ∧ ∃ rows, rowsOf given = .list rows ∧
    ∀ row ∈ rows.take maxRows, row.isObject = true

theorem sectionPart_object (fs : Entries Value) : sectionPart (.object fs) = do
    let shown ← (rowsOf (.object fs)).firstItems maxRows
    let parts ← partsFrom rowPart 0 shown
    return .object [("title", ((Value.object fs).part "title").orElse (.str "Options")),
      ("rows", .list parts)] := rfl

/-- What stands for the rows of a section is present or an empty list. -/
theorem truthy_rowsOf (given : Value) :
    (rowsOf given).truthy = true ∨ rowsOf given = .list [] := by
  unfold rowsOf Value.orElse
  split
  · exact Or.inl ‹_›
  · split
    · exact Or.inl ‹_›
    · exact Or.inr rfl

/-- The characters of a text are no rows. -/
theorem exists_rows_of_firstItems {given : Value} {shown : List Value}
    (h : (rowsOf given).firstItems maxRows = .ok shown) (hall : ∀ v ∈ shown, v.isObject = true) :
    ∃ rows, rowsOf given = .list rows ∧ shown = rows.take maxRows := by
  cases hrows : rowsOf given with
  | list rows =>
    rw [hrows] at h
    exact ⟨rows, rfl, (Except.ok.inj h).symm⟩
  | str s =>
    rw [hrows] at h
    obtain rfl := Except.ok.inj h
    have hpresent : (Value.str s).truthy = true ∨ Value.str s = .list [] :=
      hrows ▸ truthy_rowsOf given
    cases hs : s.toList with
    | nil =>
      have hempty : s = "" := String.toList_injective hs
      simp [Value.truthy, hempty] at hpresent
    | cons c rest =>
      rw [hs] at hall
      exact absurd (hall (.str (String.singleton c)) List.mem_cons_self) Bool.false_ne_true
  | _ =>
    rw [hrows] at h
    cases h

theorem exists_sectionPart_iff (given : Value) :
    (∃ part, sectionPart given = .ok part) ↔ Offers given := by
  cases given with
  | object fs =>
    rw [sectionPart_object, exists_ok_bind_iff]
    constructor
    · rintro ⟨shown, hshown, h⟩
      obtain ⟨parts, hparts, -⟩ := exists_ok_bind_iff.mp h
      have hall := (exists_partsFrom_iff_isObject exists_rowPart_iff 0 shown).mp ⟨parts, hparts⟩
      obtain ⟨rows, hrows, rfl⟩ := exists_rows_of_firstItems hshown hall
      exact ⟨rfl, rows, hrows, hall⟩
    · rintro ⟨-, rows, hrows, hall⟩
      obtain ⟨parts, hparts⟩ :=
        (exists_partsFrom_iff_isObject exists_rowPart_iff 0 (rows.take maxRows)).mpr hall
      exact ⟨rows.take maxRows, congrArg (Value.firstItems maxRows) hrows,
        exists_ok_bind_iff.mpr ⟨parts, hparts, _, rfl⟩⟩
  | _ => exact iff_of_false (fun ⟨_, h⟩ => nomatch h) fun ⟨h, _⟩ => nomatch h

theorem rowIds_of_sectionPart {given part : Value} (h : sectionPart given = .ok part) :
    ((part.part "rows").items.map fun row => row.part "id") =
      (shownRowsOf given).map (offeredId "row_") := by
  obtain ⟨hobject, rows, hrows, -⟩ := (exists_sectionPart_iff given).mp ⟨part, h⟩
  obtain ⟨fs, rfl⟩ := Value.exists_of_isObject hobject
  rw [sectionPart_object, hrows] at h
  obtain ⟨shown, hshown, h⟩ := bind_eq_ok_iff.mp h
  obtain rfl := Except.ok.inj hshown
  obtain ⟨parts, hparts, h⟩ := bind_eq_ok_iff.mp h
  obtain rfl := pure_eq_ok_iff.mp h
  rw [shownRowsOf, hrows]
  exact map_of_partsFrom (fun place v part => id_of_rowPart) hparts

/-! ### Messages -/

theorem buttonPayload_list (buttons : List Value) :
    buttonPayload recipient body (.list buttons) header footer = do
      let parts ← partsFrom buttonPart 0 (buttons.take maxButtons)
      return interactive recipient
        ([("type", .str "button"), ("body", textOnly body),
          ("action", .object [("buttons", .list parts)])] ++ headerFooter header footer) := rfl

theorem exists_buttonPayload_iff (buttons : List Value) :
    (∃ payload, buttonPayload recipient body (.list buttons) header footer = .ok payload) ↔
      ∀ v ∈ buttons.take maxButtons, v.isObject = true := by
  rw [← exists_partsFrom_iff_isObject exists_buttonPart_iff 0, buttonPayload_list,
    exists_ok_bind_iff]
  exact exists_congr fun parts => and_iff_left ⟨_, rfl⟩

theorem buttonIds_eq {buttons : List Value}
    (h : buttonPayload recipient body (.list buttons) header footer = .ok payload) :
    buttonIds payload = (shownButtons buttons).map (offeredId "btn_") := by
  rw [buttonPayload_list] at h
  obtain ⟨parts, hparts, h⟩ := bind_eq_ok_iff.mp h
  obtain rfl := pure_eq_ok_iff.mp h
  exact map_of_partsFrom (fun place v part => id_of_buttonPart) hparts

theorem listPayload_list (sections : List Value) :
    listPayload recipient body button (.list sections) header footer = do
      let parts ← partsFrom (fun _ => sectionPart) 0 sections
      return interactive recipient
        ([("type", .str "list"), ("body", textOnly body),
          ("action", .object [("button", button.orElse (.str "View Options")),
            ("sections", .list parts)])] ++ headerFooter header footer) := rfl

theorem exists_listPayload_iff (sections : List Value) :
    (∃ payload, listPayload recipient body button (.list sections) header footer = .ok payload) ↔
      ∀ given ∈ sections, Offers given := by
  rw [listPayload_list, exists_ok_bind_iff, ← forall_mem_zipIdx_iff]
  simp only [← exists_sectionPart_iff]
  rw [← exists_partsFrom_iff (f := fun _ => sectionPart)]
  exact exists_congr fun parts => and_iff_left ⟨_, rfl⟩

theorem rowIds_eq {sections : List Value}
    (h : listPayload recipient body button (.list sections) header footer = .ok payload) :
    rowIds payload = (shownRows sections).map (offeredId "row_") := by
  rw [listPayload_list] at h
  obtain ⟨parts, hparts, h⟩ := bind_eq_ok_iff.mp h
  obtain rfl := pure_eq_ok_iff.mp h
  have hrows : (parts.map fun part => (part.part "rows").items.map fun row => row.part "id") =
      sections.zipIdx.map fun x => (shownRowsOf x.1).map (offeredId "row_") :=
    map_of_partsFrom (fun place given part => rowIds_of_sectionPart) hparts
  rw [map_zipIdx_fst fun given => (shownRowsOf given).map (offeredId "row_")] at hrows
  calc _ = (parts.map fun part => (part.part "rows").items.map fun row => row.part "id").flatten :=
        List.flatMap_def ..
    _ = (sections.map fun given => (shownRowsOf given).map (offeredId "row_")).flatten :=
        congrArg List.flatten hrows
    _ = (shownRows sections).map (offeredId "row_") := by
        rw [shownRows, List.map_flatMap, List.flatMap_def]

variable (recipient body button header footer)

/-- **When the choices of a message can be told apart.**  A message with buttons is made of any
list whose first three items are objects, and one with a list of any sections that offer rows.  If
the ids that are given to what is shown differ, then all buttons have different ids exactly if no
given one is made of the place of a button without one; and all rows have exactly if besides no
two rows without an id stand at the same place of their sections. -/
theorem choices_told_apart_iff :
    (∀ buttons,
      ((∃ payload, buttonPayload recipient body (.list buttons) header footer = .ok payload) ↔
        ∀ v ∈ buttons.take maxButtons, v.isObject = true) ∧
      ∀ payload, buttonPayload recipient body (.list buttons) header footer = .ok payload →
        (givenIds (shownButtons buttons)).Nodup →
        ((buttonIds payload).Nodup ↔ ∀ place ∈ unnamedPlaces (shownButtons buttons),
          numbered "btn_" place ∉ givenIds (shownButtons buttons))) ∧
    ∀ sections,
      ((∃ payload,
          listPayload recipient body button (.list sections) header footer = .ok payload) ↔
        ∀ given ∈ sections, Offers given) ∧
      ∀ payload, listPayload recipient body button (.list sections) header footer = .ok payload →
        (givenIds (shownRows sections)).Nodup →
        ((rowIds payload).Nodup ↔ (unnamedPlaces (shownRows sections)).Nodup ∧
          ∀ place ∈ unnamedPlaces (shownRows sections),
            numbered "row_" place ∉ givenIds (shownRows sections)) := by
  refine ⟨fun buttons => ⟨exists_buttonPayload_iff buttons, fun payload h hgiven => ?_⟩,
    fun sections => ⟨exists_listPayload_iff sections, fun payload h hgiven => ?_⟩⟩
  · rw [buttonIds_eq h, nodup_offeredIds_iff, and_iff_right hgiven,
      and_iff_right (nodup_unnamedPlaces_shownButtons buttons)]
  · rw [rowIds_eq h, nodup_offeredIds_iff, and_iff_right hgiven]

end

/-- A button or a row with an id or without. -/
def choice (id : Option String) (title : String) : Value :=
  .object [("id", Value.ofText? id), ("title", .str title)]

/-- A section with these rows. -/
def menu (rows : List Value) : Value := .object [("rows", .list rows)]

/-- The rows of one section go by their places, the row of the other one by its id. -/
def menus : List Value :=
  [menu [choice none "Tea", choice none "Milk"], menu [choice (some "cake") "Cake"]]

theorem choices_told_apart_iff_menus : ∃ payload,
    listPayload (.str "1") (.str "Choose") (.str "") (.list menus) (.str "") (.str "") =
      .ok payload ∧ (rowIds payload).Nodup := by
  obtain ⟨-, hlists⟩ :=
    choices_told_apart_iff (.str "1") (.str "Choose") (.str "") (.str "") (.str "")
  obtain ⟨payload, hpayload⟩ : ∃ payload, listPayload (.str "1") (.str "Choose") (.str "")
      (.list menus) (.str "") (.str "") = .ok payload := ⟨_, rfl⟩
  refine ⟨payload, hpayload,
    ((hlists menus).2 payload hpayload ?_).mpr ⟨?_, fun place _ hmem => ?_⟩⟩
  · exact List.nodup_singleton (Value.str "cake")
  · show [0, 1].Nodup
    decide
  · have hmade : numbered "row_" place = .str "cake" := List.mem_singleton.mp hmem
    have hfirst := congrArg (fun s => s.toList.head?) (Value.str.inj hmade)
    simp at hfirst

/-- The first rows of two sections both go by their place, and a button has the id that another one
is given for its place. -/
theorem made_ids_collide :
    (∃ sections payload,
      listPayload (.str "1") (.str "Choose") (.str "") (.list sections) (.str "") (.str "") =
        .ok payload ∧ givenIds (shownRows sections) = [] ∧ ¬ (rowIds payload).Nodup) ∧
    ∃ buttons payload,
      buttonPayload (.str "1") (.str "Choose") (.list buttons) (.str "") (.str "") = .ok payload ∧
        (givenIds (shownButtons buttons)).Nodup ∧ ¬ (buttonIds payload).Nodup := by
  refine ⟨⟨[menu [choice none "Tea"], menu [choice none "Cake"]], _, rfl, rfl, fun h => ?_⟩,
    [choice none "Yes", choice (some "btn_0") "No"], _, rfl, List.nodup_singleton _, fun h => ?_⟩
  · have hids : [Value.str "row_0", .str "row_0"].Nodup := h
    simp at hids
  · have hids : [Value.str "btn_0", .str "btn_0"].Nodup := h
    simp at hids

end WhatsApp

end ChatFlow
