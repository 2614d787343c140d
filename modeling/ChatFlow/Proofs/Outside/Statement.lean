import ChatFlow.Outside.Database.Client
import ChatFlow.Proofs.Value.Parts

/-!
# What a statement depends on

The text of a statement depends on the names that are given for it and on nothing
else: where the values of the filters change, but neither from nor to null and no
object appears or disappears or changes its names (`Value.KeepsShape`), the same
statement is built with the changed parameters, or none for the same reason
(`Statement.build_map`).

In the text there is a placeholder for each parameter (`placeholders_text`), and the
parameters are the values of the filters in their order (`Takes`).
-/

namespace ChatFlow

/-! ### Changing values -/

/-- Entries with the values changed and the names as they are. -/
def Entries.mapValues {α β : Type} (g : α → β) (entries : Entries α) : Entries β :=
  entries.map fun e => (e.1, g e.2)

namespace Entries

variable {α β : Type} (g : α → β)

theorem find?_mapValues (entries : Entries α) (name : String) :
    find? (mapValues g entries) name = (entries.find? name).map g := by
  induction entries with
  | nil => rfl
  | cons e rest ih =>
    show (if e.1 = name then some (g e.2) else find? (mapValues g rest) name) =
      (if e.1 = name then some e.2 else find? rest name).map g
    by_cases h : e.1 = name
    · rw [if_pos h, if_pos h]
      rfl
    · rw [if_neg h, if_neg h]
      exact ih

theorem erase_mapValues (entries : Entries α) (name : String) :
    erase (mapValues g entries) name = mapValues g (erase entries name) := List.filter_map

end Entries

/-- A change of values after which what was null is null and nothing else is, and what was an object
is one, with the same names, and nothing else is. -/
structure Value.KeepsShape (g : Value → Value) : Prop where
  isNull : ∀ v, (g v).isNull = v.isNull
  object : ∀ fs, g (.object fs) = .object (Entries.mapValues g fs)
  isObject : ∀ v, (g v).isObject = v.isObject

namespace Database

/-- The condition with its value changed. -/
def RowTest.mapValue (g : Value → Value) (t : RowTest) : RowTest := { t with value := g t.value }

/-- The columns with their values changed. -/
def mapCells (g : Value → Value) (cells : List (Identifier × Value)) : List (Identifier × Value) :=
  cells.map fun c => (c.1, g c.2)

/-- The statement with its parameters changed. -/
def Statement.mapValues (g : Value → Value) : Statement → Statement
  | select table tests => select table (tests.map (RowTest.mapValue g))
  | insert table cells => insert table (mapCells g cells)
  | update table cells id => update table (mapCells g cells) (g id)
  | delete table id => delete table (g id)

section

variable (g : Value → Value)

/-- What is made of the columns alone does not change. -/
theorem map_mapCells {α : Type} (f : Identifier → α) (cells : List (Identifier × Value)) :
    (mapCells g cells).map (fun c => f c.1) = cells.map fun c => f c.1 := List.map_map

theorem map_text_mapValue (tests : List RowTest) :
    (tests.map (RowTest.mapValue g)).map RowTest.text = tests.map RowTest.text := List.map_map

theorem Statement.text_mapValues (s : Statement) : (s.mapValues g).text = s.text := by
  cases s with
  | select table tests =>
    have hempty : (tests.map (RowTest.mapValue g)).isEmpty = tests.isEmpty := List.isEmpty_map
    unfold mapValues text
    simp only
    rw [map_text_mapValue, hempty]
  | insert table cells =>
    unfold mapValues text
    simp only
    rw [map_mapCells g Identifier.text, map_mapCells g fun _ => "%s"]
  | update table cells id =>
    unfold mapValues text
    simp only
    rw [map_mapCells g fun column => column.text ++ " = %s"]
  | delete table id => rfl

theorem comparisonTests_map (column : Identifier) (fs : Entries Value) :
    comparisonTests column (Entries.mapValues g fs) =
      (comparisonTests column fs).map (List.map (RowTest.mapValue g)) := by
  induction fs with
  | nil => rfl
  | cons e rest ih =>
    obtain ⟨name, v⟩ := e
    show comparisonTests column ((name, g v) :: Entries.mapValues g rest) = _
    rw [comparisonTests, comparisonTests, ih]
    cases Comparison.ofName? name with
    | none => rfl
    | some c => cases comparisonTests column rest <;> rfl

theorem cellsOf_map (fs : Entries Value) :
    cellsOf (Entries.mapValues g fs) = (cellsOf fs).map (mapCells g) := by
  induction fs with
  | nil => rfl
  | cons e rest ih =>
    obtain ⟨name, v⟩ := e
    show cellsOf ((name, g v) :: Entries.mapValues g rest) = _
    rw [cellsOf, cellsOf, ih]
    cases Identifier.ofText name with
    | error f => rfl
    | ok column => cases cellsOf rest <;> rfl

end

theorem filterTests_of_not_isObject {v : Value} (h : v.isObject = false) (name : String) :
    filterTests name v = (Identifier.ofText name).map fun column => [⟨column, .equal, v⟩] := by
  unfold filterTests
  cases v with
  | object fs => cases h
  | _ => cases Identifier.ofText name <;> rfl

variable {g : Value → Value}

theorem filterTests_map (hg : Value.KeepsShape g) (name : String) (v : Value) :
    filterTests name (g v) = (filterTests name v).map (List.map (RowTest.mapValue g)) := by
  cases hv : v.isObject with
  | true =>
    obtain ⟨fs, rfl⟩ := Value.exists_of_isObject hv
    rw [hg.object]
    unfold filterTests
    cases Identifier.ofText name with
    | error f => rfl
    | ok column => exact comparisonTests_map g column fs
  | false =>
    rw [filterTests_of_not_isObject hv, filterTests_of_not_isObject ((hg.isObject v).trans hv)]
    cases Identifier.ofText name <;> rfl

theorem rowTests_map (hg : Value.KeepsShape g) (fs : Entries Value) :
    rowTests (Entries.mapValues g fs) =
      (rowTests fs).map (List.map (RowTest.mapValue g)) := by
  induction fs with
  | nil => rfl
  | cons e rest ih =>
    obtain ⟨name, v⟩ := e
    show rowTests ((name, g v) :: Entries.mapValues g rest) = _
    rw [rowTests, rowTests, ih, filterTests_map hg]
    cases filterTests name v with
    | error f => rfl
    | ok tests =>
      cases rowTests rest with
      | error f => rfl
      | ok more => exact congrArg Except.ok List.map_append.symm

/-- A row is named by a filter of the name `id` that is not null. -/
theorem rowId?_eq (fs : Entries Value) :
    rowId? fs = (fs.find? "id").bind fun v => if v.isNull then none else some v := by
  unfold rowId?
  cases fs.find? "id" with
  | none => rfl
  | some v => cases v <;> rfl

theorem rowId?_map (hg : Value.KeepsShape g) (fs : Entries Value) :
    rowId? (Entries.mapValues g fs) = (rowId? fs).map g := by
  rw [rowId?_eq, rowId?_eq, Entries.find?_mapValues]
  cases fs.find? "id" with
  | none => rfl
  | some v =>
    simp only [Option.map_some, Option.bind_some, hg.isNull]
    cases v.isNull <;> rfl

/-- What an operation on a table makes of filters that are an object. -/
def statementOn (fs : Entries Value) (operation : String) (table : Identifier) :
    Except Failure Statement :=
  match operation with
  | "select" => (rowTests fs).map (.select table)
  | "insert" =>
    if fs.isEmpty then .error (.badStatement "Insert requires at least one column")
    else (cellsOf fs).map (.insert table)
  | "update" =>
    match rowId? fs with
    | none => .error (.badStatement "ID is required for update operations")
    | some id =>
      if (fs.erase "id").isEmpty then
        .error (.badStatement "Update requires at least one column besides id")
      else (cellsOf (fs.erase "id")).map fun cells => .update table cells id
  | "delete" =>
    match rowId? fs with
    | none => .error (.badStatement "ID is required for delete operations")
    | some id => .ok (.delete table id)
  | other => .error (.badStatement ("Invalid operation: " ++ other))

theorem statementOn_of_ne {fs : Entries Value} {operation : String} (table : Identifier)
    (hselect : operation ≠ "select") (hinsert : operation ≠ "insert")
    (hupdate : operation ≠ "update") (hdelete : operation ≠ "delete") :
    statementOn fs operation table = .error (.badStatement ("Invalid operation: " ++ operation)) := by
  unfold statementOn
  split <;> first | rfl | contradiction

theorem Statement.build_object (operation : String) (table : Value) (fs : Entries Value) :
    build operation table (.object fs) =
      Identifier.ofValue table >>= statementOn fs operation := by
  unfold build
  cases Identifier.ofValue table with
  | error f => rfl
  | ok table =>
    show _ = statementOn fs operation table
    simp only [Value.parts, Value.paired, Value.truthy, bind, Except.bind]
    split
    · show _ = (rowTests fs).map (Statement.select table)
      cases rowTests fs <;> rfl
    · cases fs with
      | nil => rfl
      | cons e rest =>
        show _ = (cellsOf (e :: rest)).map (Statement.insert table)
        cases cellsOf (e :: rest) <;> rfl
    · unfold statementOn
      cases rowId? fs with
      | none => rfl
      | some id =>
        cases fs.erase "id" with
        | nil => rfl
        | cons e rest => cases cellsOf (e :: rest) <;> rfl
    · unfold statementOn
      cases rowId? fs <;> rfl
    · rename_i hselect hinsert hupdate hdelete
      exact (statementOn_of_ne table hselect hinsert hupdate hdelete).symm

/-- Of changed values the same statement is built, with the parameters changed, or none for the same
reason. -/
theorem Statement.build_map (hg : Value.KeepsShape g) (operation : String) (table : Value)
    (fs : Entries Value) :
    build operation table (.object (Entries.mapValues g fs)) =
      (build operation table (.object fs)).map (mapValues g) := by
  rw [build_object, build_object]
  cases Identifier.ofValue table with
  | error f => rfl
  | ok table =>
    show statementOn (Entries.mapValues g fs) operation table =
      (statementOn fs operation table).map (mapValues g)
    have hempty (entries : Entries Value) :
        (Entries.mapValues g entries).isEmpty = entries.isEmpty := List.isEmpty_map
    unfold statementOn
    split
    · rw [rowTests_map hg]
      cases rowTests fs <;> rfl
    · rw [hempty, cellsOf_map]
      cases fs.isEmpty with
      | true => rfl
      | false => cases cellsOf fs <;> rfl
    · rw [rowId?_map hg, Entries.erase_mapValues, hempty, cellsOf_map]
      cases rowId? fs with
      | none => rfl
      | some id =>
        cases (fs.erase "id").isEmpty with
        | true => rfl
        | false => cases cellsOf (fs.erase "id") <;> rfl
    · rw [rowId?_map hg]
      cases rowId? fs <;> rfl
    · rfl

/-! ### Placeholders -/

/-- The number of placeholders in a text. -/
def placeholders : List Char → Nat
  | '%' :: 's' :: rest => placeholders rest + 1
  | _ :: rest => placeholders rest
  | [] => 0

/-- A text with so many placeholders, and without a percent sign that belongs to none. -/
inductive Placed : Nat → List Char → Prop
  | nil : Placed 0 []
  | plain {n : Nat} {c : Char} {s : List Char} (hc : c ≠ '%') (h : Placed n s) : Placed n (c :: s)
  | hole {n : Nat} {s : List Char} (h : Placed n s) : Placed (n + 1) ('%' :: 's' :: s)

theorem Placed.placeholders {n : Nat} {s : List Char} (h : Placed n s) : placeholders s = n := by
  induction h with
  | nil => rfl
  | plain hc _ ih =>
    rw [Database.placeholders]
    · exact ih
    · intro rest hpercent
      exact absurd hpercent hc
  | hole _ ih => rw [Database.placeholders, ih]

theorem Placed.append {m n : Nat} {s t : List Char} (hs : Placed m s) (ht : Placed n t) :
    Placed (m + n) (s ++ t) := by
  induction hs with
  | nil => rwa [Nat.zero_add]
  | plain hc _ ih => exact .plain hc ih
  | hole _ ih =>
    rw [Nat.add_right_comm]
    exact .hole ih

theorem placed_of_forall_ne {s : List Char} (h : ∀ c ∈ s, c ≠ '%') : Placed 0 s := by
  induction s with
  | nil => exact .nil
  | cons c rest ih =>
    obtain ⟨hc, hrest⟩ := List.forall_mem_cons.mp h
    exact .plain hc (ih hrest)

theorem placed_of_all {s : String} (h : s.toList.all (· ≠ '%') = true) : Placed 0 s.toList :=
  placed_of_forall_ne fun c hc => of_decide_eq_true (List.all_eq_true.mp h c hc)

/-- Texts with the same number of placeholders, joined by one without any. -/
theorem placed_joinWith {n : Nat} {sep : List Char} (hsep : Placed 0 sep) {parts : List (List Char)}
    (h : ∀ part ∈ parts, Placed n part) : Placed (parts.length * n) (Text.joinWith sep parts) := by
  induction parts with
  | nil =>
    rw [List.length_nil, Nat.zero_mul]
    exact .nil
  | cons part rest ih =>
    obtain ⟨hpart, hrest⟩ := List.forall_mem_cons.mp h
    cases rest with
    | nil => rwa [List.length_singleton, Nat.one_mul]
    | cons next rest =>
      have hjoined : Placed (n + 0 + (next :: rest).length * n)
          (part ++ sep ++ Text.joinWith sep (next :: rest)) := (hpart.append hsep).append (ih hrest)
      rwa [Nat.add_zero, Nat.add_comm, ← Nat.succ_mul] at hjoined

theorem placed_join {α : Type} {n : Nat} {sep : String} (hsep : Placed 0 sep.toList)
    {f : α → String} (hf : ∀ a, Placed n (f a).toList) (items : List α) :
    Placed (items.length * n) (Text.join sep (items.map f)).toList := by
  have hparts : ∀ part ∈ (items.map f).map String.toList, Placed n part := by
    intro part hpart
    obtain ⟨text, htext, rfl⟩ := List.mem_map.mp hpart
    obtain ⟨a, -, rfl⟩ := List.mem_map.mp htext
    exact hf a
  have h := placed_joinWith hsep hparts
  rw [List.length_map, List.length_map] at h
  rwa [Text.join, String.toList_ofList]

theorem ne_percent_of_isNamePart {c : Char} (h : isNamePart c = true) : c ≠ '%' := by
  rintro rfl
  cases h

/-- In a name there is no percent sign. -/
theorem forall_ne_of_isIdentifier {s : String} (h : isIdentifier s = true) :
    ∀ c ∈ s.toList, c ≠ '%' := by
  have hline : ∀ c ∈ Text.dropLineEnd s.toList, c ≠ '%' := by
    unfold isIdentifier at h
    split at h
    · rename_i first rest hs
      rw [hs]
      obtain ⟨hfirst, hrest⟩ := Bool.and_eq_true_iff.mp h
      refine List.forall_mem_cons.mpr ⟨?_, fun c hc => ?_⟩
      · rintro rfl
        cases hfirst
      · exact ne_percent_of_isNamePart (List.all_eq_true.mp hrest c hc)
    · cases h
  unfold Text.dropLineEnd at hline
  split at hline
  · rename_i hlast
    intro c hc
    obtain ⟨before, hbefore⟩ := List.getLast?_eq_some_iff.mp hlast
    rw [hbefore, List.dropLast_concat] at hline
    rw [hbefore] at hc
    rcases List.mem_append.mp hc with hc | hc
    · exact hline c hc
    · obtain rfl := List.mem_singleton.mp hc
      decide
  · exact hline

theorem Identifier.placed_text (i : Identifier) : Placed 0 i.text.toList := by
  have hquote : Placed 0 "\"".toList := placed_of_all rfl
  have hname : Placed 0 i.name.toList := placed_of_forall_ne (forall_ne_of_isIdentifier i.isName)
  rw [Identifier.text, String.toList_append, String.toList_append]
  exact (hquote.append hname).append hquote

theorem RowTest.placed_text (t : RowTest) : Placed 1 t.text.toList := by
  have hsign : Placed 0 t.comparison.sign.toList := by
    refine placed_of_all ?_
    cases t.comparison <;> rfl
  have hblank : Placed 0 " ".toList := placed_of_all rfl
  have hhole : Placed 1 " %s".toList := .plain (by decide) (.hole .nil)
  rw [RowTest.text, String.toList_append, String.toList_append, String.toList_append]
  exact ((t.column.placed_text.append hblank).append hsign).append hhole

/-- Every column has a placeholder for its value. -/
theorem placed_assignment (c : Identifier × Value) : Placed 1 (c.1.text ++ " = %s").toList := by
  have hhole : Placed 1 " = %s".toList :=
    .plain (by decide) (.plain (by decide) (.plain (by decide) (.hole .nil)))
  rw [String.toList_append]
  exact c.1.placed_text.append hhole

theorem placed_rowEnd : Placed 1 " WHERE id = %s RETURNING *".toList := by
  have hstart : Placed 0 " WHERE id = ".toList := placed_of_all rfl
  have hend : Placed 0 " RETURNING *".toList := placed_of_all rfl
  exact hstart.append hend.hole

/-- The text of an update as far as the row that it is about. -/
def updateStart (table : Identifier) (cells : List (Identifier × Value)) : String :=
  "UPDATE " ++ table.text ++ " SET " ++ Text.join ", " (cells.map fun c => c.1.text ++ " = %s")

theorem placed_updateStart (table : Identifier) (cells : List (Identifier × Value)) :
    Placed cells.length (updateStart table cells).toList := by
  have hupdate : Placed 0 "UPDATE ".toList := placed_of_all rfl
  have hset : Placed 0 " SET ".toList := placed_of_all rfl
  have hcells := placed_join (placed_of_all rfl : Placed 0 ", ".toList)
    placed_assignment cells
  have h := ((hupdate.append table.placed_text).append hset).append hcells
  rw [Nat.mul_one, Nat.zero_add] at h
  rwa [updateStart, String.toList_append, String.toList_append, String.toList_append]

theorem placed_deleteStart (table : Identifier) : Placed 0 ("DELETE FROM " ++ table.text).toList := by
  have hdelete : Placed 0 "DELETE FROM ".toList := placed_of_all rfl
  rw [String.toList_append]
  exact hdelete.append table.placed_text

/-- In the text of a statement there is a placeholder for each parameter. -/
theorem Statement.placed_text (s : Statement) : Placed s.parameters.length s.text.toList := by
  have hcomma : Placed 0 ", ".toList := placed_of_all rfl
  cases s with
  | select table tests =>
    have hselect : Placed 0 "SELECT * FROM ".toList := placed_of_all rfl
    have hwhere : Placed 0 " WHERE ".toList := placed_of_all rfl
    have hand : Placed 0 " AND ".toList := placed_of_all rfl
    have hstart := hselect.append table.placed_text
    have htests := placed_join hand RowTest.placed_text tests
    show Placed (tests.map RowTest.value).length (text (.select table tests)).toList
    rw [List.length_map]
    cases tests with
    | nil =>
      show Placed 0 ("SELECT * FROM " ++ table.text).toList
      rw [String.toList_append]
      exact hstart
    | cons t rest =>
      have h := (hstart.append hwhere).append htests
      rw [Nat.mul_one, Nat.zero_add] at h
      show Placed _ ("SELECT * FROM " ++ table.text ++ " WHERE "
        ++ Text.join " AND " ((t :: rest).map RowTest.text)).toList
      rwa [String.toList_append, String.toList_append, String.toList_append]
  | insert table cells =>
    have hinsert : Placed 0 "INSERT INTO ".toList := placed_of_all rfl
    have hopen : Placed 0 " (".toList := placed_of_all rfl
    have hvalues : Placed 0 ") VALUES (".toList := placed_of_all rfl
    have hend : Placed 0 ") RETURNING *".toList := placed_of_all rfl
    have hnames := placed_join hcomma (fun c : Identifier × Value => c.1.placed_text) cells
    have hholes : Placed (cells.length * 1) (Text.join ", " (cells.map fun _ => "%s")).toList :=
      placed_join hcomma (fun _ => .hole .nil) cells
    have h := (((((hinsert.append table.placed_text).append hopen).append hnames).append
      hvalues).append hholes).append hend
    have hcount : 0 + 0 + 0 + cells.length * 0 + 0 + cells.length * 1 + 0 = cells.length := by omega
    rw [hcount] at h
    show Placed (cells.map (·.2)).length (text (.insert table cells)).toList
    unfold text
    simp only
    rw [List.length_map, String.toList_append, String.toList_append, String.toList_append,
      String.toList_append, String.toList_append, String.toList_append]
    exact h
  | update table cells id =>
    have h := (placed_updateStart table cells).append placed_rowEnd
    show Placed (cells.map (·.2) ++ [id]).length
      (updateStart table cells ++ " WHERE id = %s RETURNING *").toList
    rw [List.length_append, List.length_map, String.toList_append]
    exact h
  | delete table id =>
    have h := (placed_deleteStart table).append placed_rowEnd
    show Placed [id].length ("DELETE FROM " ++ table.text ++ " WHERE id = %s RETURNING *").toList
    rw [String.toList_append]
    exact h

/-! ### Parameters -/

/-- What a filter compares its column with: the one value, or the values in a map of comparisons. -/
def compared : Value → List Value
  | .object fs => fs.map (·.2)
  | v => [v]

theorem values_of_comparisonTests {column : Identifier} {fs : Entries Value} {tests : List RowTest}
    (h : comparisonTests column fs = .ok tests) : tests.map RowTest.value = fs.map (·.2) := by
  induction fs generalizing tests with
  | nil =>
    obtain rfl := Except.ok.inj h
    rfl
  | cons e rest ih =>
    obtain ⟨name, v⟩ := e
    rw [comparisonTests] at h
    cases hc : Comparison.ofName? name with
    | none =>
      rw [hc] at h
      cases h
    | some c =>
      rw [hc] at h
      obtain ⟨more, hmore, h⟩ := bind_eq_ok_iff.mp h
      obtain rfl := pure_eq_ok_iff.mp h
      exact congrArg (v :: ·) (ih hmore)

theorem values_of_filterTests {name : String} {v : Value} {tests : List RowTest}
    (h : filterTests name v = .ok tests) : tests.map RowTest.value = compared v := by
  cases hv : v.isObject with
  | true =>
    obtain ⟨fs, rfl⟩ := Value.exists_of_isObject hv
    obtain ⟨column, -, h⟩ := bind_eq_ok_iff.mp h
    exact values_of_comparisonTests h
  | false =>
    rw [filterTests_of_not_isObject hv] at h
    have hcompared : compared v = [v] := by
      cases v with
      | object fs => cases hv
      | _ => rfl
    cases hc : Identifier.ofText name with
    | error f =>
      rw [hc] at h
      cases h
    | ok column =>
      rw [hc] at h
      obtain rfl := Except.ok.inj h
      exact hcompared.symm

theorem values_of_rowTests {fs : Entries Value} {tests : List RowTest}
    (h : rowTests fs = .ok tests) :
    tests.map RowTest.value = fs.flatMap fun e => compared e.2 := by
  induction fs generalizing tests with
  | nil =>
    obtain rfl := Except.ok.inj h
    rfl
  | cons e rest ih =>
    obtain ⟨name, v⟩ := e
    rw [rowTests] at h
    obtain ⟨first, hfirst, h⟩ := bind_eq_ok_iff.mp h
    obtain ⟨more, hmore, h⟩ := bind_eq_ok_iff.mp h
    obtain rfl := pure_eq_ok_iff.mp h
    rw [List.map_append, values_of_filterTests hfirst, ih hmore, List.flatMap_cons]

theorem values_of_cellsOf {fs : Entries Value} {cells : List (Identifier × Value)}
    (h : cellsOf fs = .ok cells) : cells.map (·.2) = fs.map (·.2) := by
  induction fs generalizing cells with
  | nil =>
    obtain rfl := Except.ok.inj h
    rfl
  | cons e rest ih =>
    obtain ⟨name, v⟩ := e
    rw [cellsOf] at h
    obtain ⟨column, -, h⟩ := bind_eq_ok_iff.mp h
    obtain ⟨more, hmore, h⟩ := bind_eq_ok_iff.mp h
    obtain rfl := pure_eq_ok_iff.mp h
    exact congrArg (v :: ·) (ih hmore)

/-- The parameters that an operation on a table takes from filters, in the order in which they are
written; the filter `id` of an update comes last. -/
inductive Takes (fs : Entries Value) : String → List Value → Prop
  | select : Takes fs "select" (fs.flatMap fun e => compared e.2)
  | insert : Takes fs "insert" (fs.map (·.2))
  | update {id : Value} (hid : fs.find? "id" = some id) :
      Takes fs "update" ((fs.erase "id").map (·.2) ++ [id])
  | delete {id : Value} (hid : fs.find? "id" = some id) : Takes fs "delete" [id]

/-- A statement changes no row but the one that the filter `id` names, which is not null. -/
def NamesRow (fs : Entries Value) (text : String) (parameters : List Value) : Prop :=
  ∃ start before id, text = start ++ " WHERE id = %s RETURNING *" ∧
    placeholders start.toList = before.length ∧ parameters = before ++ [id] ∧
    fs.find? "id" = some id ∧ id ≠ .null

/-- What the text and the parameters are that an operation on a table makes of filters. -/
structure Bound (fs : Entries Value) (operation text : String) (parameters : List Value) :
    Prop where
  placeholders : placeholders text.toList = parameters.length
  takes : Takes fs operation parameters
  row : operation = "update" ∨ operation = "delete" → NamesRow fs text parameters

theorem exists_of_rowId? {fs : Entries Value} {id : Value} (h : rowId? fs = some id) :
    fs.find? "id" = some id ∧ id ≠ .null := by
  rw [rowId?_eq] at h
  obtain ⟨v, hv, h⟩ := Option.bind_eq_some_iff.mp h
  cases v with
  | null => cases h
  | _ =>
    obtain rfl := Option.some.inj h
    exact ⟨hv, fun hnull => nomatch hnull⟩

/-- A statement that is built from filters. -/
theorem Statement.bound_of_build {operation : String} {table : Value} {fs : Entries Value}
    {s : Statement} (h : build operation table (.object fs) = .ok s) :
    Bound fs operation s.text s.parameters := by
  rw [build_object] at h
  obtain ⟨table, -, h⟩ := bind_eq_ok_iff.mp h
  have hplaced := s.placed_text.placeholders
  unfold statementOn at h
  split at h
  · obtain ⟨tests, htests, rfl⟩ := map_eq_ok_iff.mp h
    have hvalues : (select table tests).parameters = _ := values_of_rowTests htests
    exact ⟨hplaced, hvalues ▸ .select, fun hop => absurd hop (by decide)⟩
  · split at h
    · cases h
    · obtain ⟨cells, hcells, rfl⟩ := map_eq_ok_iff.mp h
      have hvalues : (insert table cells).parameters = _ := values_of_cellsOf hcells
      exact ⟨hplaced, hvalues ▸ .insert, fun hop => absurd hop (by decide)⟩
  · split at h
    · cases h
    · rename_i id hid
      obtain ⟨hfind, hnull⟩ := exists_of_rowId? hid
      split at h
      · cases h
      · obtain ⟨cells, hcells, rfl⟩ := map_eq_ok_iff.mp h
        have hvalues : (update table cells id).parameters = (fs.erase "id").map (·.2) ++ [id] :=
          congrArg (· ++ [id]) (values_of_cellsOf hcells)
        refine ⟨hplaced, hvalues ▸ .update hfind, fun _ => ?_⟩
        refine ⟨updateStart table cells, cells.map (·.2), id, rfl, ?_, rfl, hfind, hnull⟩
        rw [(placed_updateStart table cells).placeholders, List.length_map]
  · split at h
    · cases h
    · rename_i id hid
      obtain ⟨hfind, hnull⟩ := exists_of_rowId? hid
      obtain rfl := Except.ok.inj h
      refine ⟨hplaced, .delete hfind, fun _ => ?_⟩
      refine ⟨"DELETE FROM " ++ table.text, [], id, rfl, ?_, rfl, hfind, hnull⟩
      exact (placed_deleteStart table).placeholders
  · cases h

end Database

end ChatFlow
