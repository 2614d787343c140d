import ChatFlow.Outside.Email
import ChatFlow.Proofs.Outside.Statement
import ChatFlow.Proofs.Outside.Task

/-!
# Names and addresses that are checked

The names in a statement and the recipient of a mail are checked before they are used, and
both checks overlook a line end after the text (`UpToLineEnd`).  Apart from it the first lets
pass the names of letters, digits and underscores (`isIdentifier_iff`) and the second the mail
addresses (`isAddress_iff`).

What is quoted in the text of a statement are the table and the columns and nothing else: the
text consists of words without quotes and of names (`Statement.chars_text`), and as there is no
quote in a name either, the quotes in the text pair up around the names (`quotedParts_fragments`).
-/

namespace ChatFlow

/-! ### Line ends -/

namespace Text

/-- A text of this kind, or one with a line end after it. -/
def UpToLineEnd (P : List Char → Prop) (s : String) : Prop :=
  ∃ core, P core ∧ (s.toList = core ∨ s.toList = core ++ ['\n'])

theorem eq_dropLineEnd_or (s : List Char) : s = dropLineEnd s ∨ s = dropLineEnd s ++ ['\n'] := by
  unfold dropLineEnd
  split
  · rename_i hlast
    obtain ⟨before, rfl⟩ := List.getLast?_eq_some_iff.mp hlast
    exact Or.inr (by rw [List.dropLast_concat])
  · exact Or.inl rfl

theorem dropLineEnd_concat (s : List Char) : dropLineEnd (s ++ ['\n']) = s := by
  rw [dropLineEnd, List.getLast?_concat, if_pos rfl, List.dropLast_concat]

theorem dropLineEnd_of_not_mem {s : List Char} (h : '\n' ∉ s) : dropLineEnd s = s :=
  if_neg fun hlast => h (List.mem_of_getLast? hlast)

/-- Where there is no line end inside, the kind is that of the text without the one after it. -/
theorem upToLineEnd_iff {P : List Char → Prop} (h : ∀ core, P core → '\n' ∉ core) {s : String} :
    UpToLineEnd P s ↔ P (dropLineEnd s.toList) := by
  constructor
  · rintro ⟨core, hcore, hs | hs⟩
    · rwa [hs, dropLineEnd_of_not_mem (h core hcore)]
    · rwa [hs, dropLineEnd_concat]
  · exact fun hcore => ⟨_, hcore, eq_dropLineEnd_or s.toList⟩

/-- Such a text is of the kind itself unless it has a line end. -/
theorem UpToLineEnd.iff_not_mem {P : List Char → Prop} (hP : ∀ core, P core → '\n' ∉ core) {s : String}
    (h : UpToLineEnd P s) : P s.toList ↔ '\n' ∉ s.toList := by
  obtain ⟨core, hcore, hs | hs⟩ := h
  · rw [hs]
    exact iff_of_true hcore (hP core hcore)
  · have hmem : '\n' ∈ s.toList := by
      rw [hs]
      exact List.mem_append_right core (List.mem_singleton_self _)
    exact iff_of_false (fun h => hP _ h hmem) (not_not_intro hmem)

end Text

/-! ### Names -/

namespace Database

open Text

/-- A letter or an underscore, and then letters, digits and underscores. -/
def IsName (s : List Char) : Prop :=
  ∃ c rest, s = c :: rest ∧ (c.isAlpha = true ∨ c = '_') ∧
    ∀ d ∈ rest, d.isAlphanum = true ∨ d = '_'

theorem isNameStart_iff {c : Char} : isNameStart c = true ↔ c.isAlpha = true ∨ c = '_' := by
  rw [isNameStart, Bool.or_eq_true, decide_eq_true_eq]

theorem isNamePart_iff {c : Char} : isNamePart c = true ↔ c.isAlphanum = true ∨ c = '_' := by
  rw [isNamePart, Bool.or_eq_true, decide_eq_true_eq]

theorem isNamePart_of_isNameStart {c : Char} (h : isNameStart c = true) : isNamePart c = true := by
  rw [isNameStart_iff] at h
  rw [isNamePart_iff, Char.isAlphanum, Bool.or_eq_true]
  exact h.imp_left Or.inl

theorem IsName.isNamePart {s : List Char} (h : IsName s) {c : Char} (hc : c ∈ s) :
    isNamePart c = true := by
  obtain ⟨first, rest, rfl, hfirst, hrest⟩ := h
  rcases List.mem_cons.mp hc with rfl | hc
  · exact isNamePart_of_isNameStart (isNameStart_iff.mpr hfirst)
  · exact isNamePart_iff.mpr (hrest c hc)

theorem IsName.not_mem {s : List Char} (h : IsName s) {c : Char} (hc : Database.isNamePart c = false) :
    c ∉ s := fun hmem => Bool.false_ne_true (hc.symm.trans (h.isNamePart hmem))

theorem IsName.no_lineEnd (s : List Char) (h : IsName s) : '\n' ∉ s := h.not_mem (by decide)

/-- The names that pass the check. -/
theorem isIdentifier_iff {s : String} : isIdentifier s = true ↔ UpToLineEnd IsName s := by
  rw [upToLineEnd_iff IsName.no_lineEnd, isIdentifier, IsName]
  cases dropLineEnd s.toList with
  | nil => exact iff_of_false Bool.false_ne_true fun ⟨_, _, h, _⟩ => nomatch h
  | cons c rest =>
    simp only [Bool.and_eq_true, List.all_eq_true, isNameStart_iff, isNamePart_iff, List.cons.injEq]
    constructor
    · exact fun ⟨hc, hrest⟩ => ⟨c, rest, ⟨rfl, rfl⟩, hc, hrest⟩
    · rintro ⟨_, _, ⟨rfl, rfl⟩, hc, hrest⟩
      exact ⟨hc, hrest⟩

theorem exists_ofText_iff {s : String} : (∃ i, Identifier.ofText s = .ok i) ↔ UpToLineEnd IsName s := by
  rw [← isIdentifier_iff, Identifier.ofText]
  split
  · rename_i h
    exact iff_of_true ⟨_, rfl⟩ h
  · rename_i h
    exact iff_of_false (fun ⟨_, hi⟩ => nomatch hi) h

theorem name_of_ofText {s : String} {i : Identifier} (h : Identifier.ofText s = .ok i) : i.name = s := by
  unfold Identifier.ofText at h
  split at h
  · rw [← Except.ok.inj h]
  · cases h

theorem name_of_ofValue {v : Value} {i : Identifier} (h : Identifier.ofValue v = .ok i) :
    v = .str i.name := by
  unfold Identifier.ofValue at h
  split at h
  · rw [name_of_ofText h]
  · split at h <;> cases h

/-! ### Quotes -/

/-- Every second one of these, the first one left out. -/
def everySecond {α : Type} : List α → List α
  | _ :: a :: rest => a :: everySecond rest
  | _ => []

/-- What stands between an opening and a closing double quote in a text. -/
def quotedParts (s : List Char) : List (List Char) := everySecond (pieces '"' s)

theorem everySecond_cons {α : Type} (a b : α) (rest : List α) :
    everySecond (a :: rest) = everySecond (b :: rest) := by
  cases rest <;> rfl

theorem pieces_append {w : List Char} (hw : '"' ∉ w) {s p : List Char} {ps : List (List Char)}
    (hs : pieces '"' s = p :: ps) : pieces '"' (w ++ s) = (w ++ p) :: ps := by
  induction w with
  | nil => exact hs
  | cons c w ih =>
    obtain ⟨hc, hw⟩ := List.ne_and_not_mem_of_not_mem_cons hw
    rw [List.cons_append, pieces, if_neg (Ne.symm hc), ih hw]
    rfl

/-- Words without quotes do not matter. -/
theorem quotedParts_words {w : List Char} (hw : '"' ∉ w) (s : List Char) :
    quotedParts (w ++ s) = quotedParts s := by
  obtain ⟨p, ps, hs⟩ := List.exists_cons_of_ne_nil (pieces_ne_nil '"' s)
  rw [quotedParts, quotedParts, pieces_append hw hs, hs, everySecond_cons]

/-- What is put in quotes is quoted. -/
theorem quotedParts_quoted {w : List Char} (hw : '"' ∉ w) (s : List Char) :
    quotedParts ('"' :: (w ++ '"' :: s)) = w :: quotedParts s := by
  have hclose : pieces '"' ('"' :: s) = [] :: pieces '"' s := by rw [pieces, if_pos rfl]
  rw [quotedParts, pieces, if_pos rfl, pieces_append hw hclose, List.append_nil]
  rfl

/-- A piece of the text of a statement: words, or a name. -/
inductive Fragment where
  | words (s : String)
  | name (i : Identifier)

/-- A piece as it stands in the text. -/
def Fragment.chars : Fragment → List Char
  | words s => s.toList
  | name i => i.text.toList

/-- The names among pieces. -/
def namesIn : List Fragment → List Identifier
  | [] => []
  | .words _ :: rest => namesIn rest
  | .name i :: rest => i :: namesIn rest

theorem namesIn_append (fragments more : List Fragment) :
    namesIn (fragments ++ more) = namesIn fragments ++ namesIn more := by
  fun_induction namesIn fragments with
  | case1 => rfl
  | case2 s rest ih => exact ih
  | case3 i rest ih => exact congrArg (i :: ·) ih

/-- In the words among pieces there are no quotes. -/
def Plain : List Fragment → Prop
  | [] => True
  | .words s :: rest => '"' ∉ s.toList ∧ Plain rest
  | .name _ :: rest => Plain rest

theorem Plain.append {fragments more : List Fragment} (h : Plain fragments) (hmore : Plain more) :
    Plain (fragments ++ more) := by
  induction fragments with
  | nil => exact hmore
  | cons f rest ih =>
    cases f with
    | words s => exact ⟨h.1, ih h.2⟩
    | name i => exact ih h

/-- Pieces with the same words between any two lists of them. -/
def joinFragments (sep : String) : List (List Fragment) → List Fragment
  | [] => []
  | [part] => part
  | part :: next :: rest => part ++ .words sep :: joinFragments sep (next :: rest)

theorem quote_not_mem (i : Identifier) : '"' ∉ i.name.toList := by
  obtain ⟨core, hcore, hname | hname⟩ := isIdentifier_iff.mp i.isName
  · rw [hname]
    exact hcore.not_mem (by decide)
  · rw [hname, List.mem_append, not_or]
    exact ⟨hcore.not_mem (by decide), by decide⟩

/-- The quotes in a text stand around its names. -/
theorem quotedParts_fragments {fragments : List Fragment} (h : Plain fragments) :
    quotedParts (fragments.flatMap Fragment.chars) =
      (namesIn fragments).map fun i => i.name.toList := by
  induction fragments with
  | nil => rfl
  | cons f rest ih =>
    rw [List.flatMap_cons]
    cases f with
    | words s => exact (quotedParts_words h.1 _).trans (ih h.2)
    | name i =>
      have hchars : (Fragment.name i).chars ++ rest.flatMap Fragment.chars =
          '"' :: (i.name.toList ++ '"' :: rest.flatMap Fragment.chars) := by
        rw [Fragment.chars, Identifier.text, String.toList_append, String.toList_append,
          List.append_assoc, List.append_assoc]
        rfl
      rw [hchars, quotedParts_quoted (quote_not_mem i), ih h]
      rfl

theorem chars_joinFragments (sep : String) (parts : List (List Fragment)) :
    (joinFragments sep parts).flatMap Fragment.chars =
      joinWith sep.toList (parts.map fun part => part.flatMap Fragment.chars) := by
  fun_induction joinFragments sep parts with
  | case1 => rfl
  | case2 part => rfl
  | case3 part next rest ih =>
    rw [List.flatMap_append, List.flatMap_cons, ih]
    exact (List.append_assoc _ _ _).symm

theorem namesIn_joinFragments (sep : String) (parts : List (List Fragment)) :
    namesIn (joinFragments sep parts) = parts.flatMap namesIn := by
  fun_induction joinFragments sep parts with
  | case1 => rfl
  | case2 part => exact (List.flatMap_singleton _ _).symm
  | case3 part next rest ih =>
    rw [namesIn_append, namesIn, ih]
    rfl

theorem plain_joinFragments {sep : String} (hsep : '"' ∉ sep.toList) {parts : List (List Fragment)}
    (h : ∀ part ∈ parts, Plain part) : Plain (joinFragments sep parts) := by
  fun_induction joinFragments sep parts with
  | case1 => trivial
  | case2 part => exact h part (List.mem_singleton_self part)
  | case3 part next rest ih =>
    obtain ⟨hpart, hrest⟩ := List.forall_mem_cons.mp h
    exact hpart.append ⟨hsep, ih hrest⟩

/-! ### The names in a statement -/

/-- A condition in pieces. -/
def RowTest.fragments (t : RowTest) : List Fragment :=
  [.name t.column, .words (" " ++ t.comparison.sign ++ " %s")]

/-- A column that gets a value, in pieces. -/
def assignmentFragments (c : Identifier × Value) : List Fragment := [.name c.1, .words " = %s"]

/-- The text of a statement in pieces. -/
def Statement.fragments : Statement → List Fragment
  | select table tests => [.words "SELECT * FROM ", .name table] ++
      if tests.isEmpty then []
      else .words " WHERE " :: joinFragments " AND " (tests.map RowTest.fragments)
  | insert table cells => [.words "INSERT INTO ", .name table, .words " ("] ++
      joinFragments ", " (cells.map fun c => [.name c.1]) ++ .words ") VALUES (" ::
      joinFragments ", " (cells.map fun _ => [.words "%s"]) ++ [.words ") RETURNING *"]
  | update table cells _ => [.words "UPDATE ", .name table, .words " SET "] ++
      joinFragments ", " (cells.map assignmentFragments) ++ [.words " WHERE id = %s RETURNING *"]
  | delete table _ =>
      [.words "DELETE FROM ", .name table, .words " WHERE id = %s RETURNING *"]

/-- The table that a statement is about. -/
def Statement.table : Statement → Identifier
  | select table _ | insert table _ | update table _ _ | delete table _ => table

/-- The columns that a statement names, in the order in which it does. -/
def Statement.columns : Statement → List Identifier
  | select _ tests => tests.map RowTest.column
  | insert _ cells | update _ cells _ => cells.map (·.1)
  | delete _ _ => []

theorem toList_join (sep : String) (parts : List String) :
    (join sep parts).toList = joinWith sep.toList (parts.map String.toList) := String.toList_ofList

theorem chars_join {α : Type} (sep : String) {f : α → String} {g : α → List Fragment}
    (h : ∀ a, (f a).toList = (g a).flatMap Fragment.chars) (items : List α) :
    (join sep (items.map f)).toList = (joinFragments sep (items.map g)).flatMap Fragment.chars := by
  rw [toList_join, chars_joinFragments, List.map_map, List.map_map]
  exact congrArg _ (List.map_congr_left fun a _ => h a)

theorem RowTest.chars_text (t : RowTest) : t.text.toList = t.fragments.flatMap Fragment.chars := by
  simp only [text, fragments, Fragment.chars, String.toList_append, List.flatMap_cons,
    List.flatMap_nil, List.append_assoc, List.append_nil]

theorem chars_assignment (c : Identifier × Value) :
    (c.1.text ++ " = %s").toList = (assignmentFragments c).flatMap Fragment.chars := by
  simp only [assignmentFragments, Fragment.chars, String.toList_append, List.flatMap_cons,
    List.flatMap_nil, List.append_nil]

/-- The text of a statement consists of its pieces. -/
theorem Statement.chars_text (s : Statement) :
    s.text.toList = s.fragments.flatMap Fragment.chars := by
  unfold text fragments
  cases s with
  | select table tests =>
    have htests := chars_join " AND " RowTest.chars_text tests
    cases tests with
    | nil =>
      simp only [List.isEmpty_nil, if_true, Fragment.chars, String.toList_append, List.append_nil,
        List.flatMap_cons, List.flatMap_nil]
    | cons t rest =>
      simp only [List.isEmpty_cons, Bool.false_eq_true, if_false, Fragment.chars,
        String.toList_append, List.flatMap_append, List.flatMap_cons, List.flatMap_nil,
        List.append_assoc, List.append_nil, htests]
  | insert table cells =>
    have hcells := chars_join ", " (f := fun c : Identifier × Value => c.1.text)
      (g := fun c => [.name c.1]) (fun _ => (List.append_nil _).symm) cells
    have hholes := chars_join ", " (f := fun _ : Identifier × Value => "%s")
      (g := fun _ => [.words "%s"]) (fun _ => (List.append_nil _).symm) cells
    simp only [Fragment.chars, String.toList_append, List.flatMap_append, List.flatMap_cons,
      List.flatMap_nil, List.append_assoc, List.append_nil, hcells, hholes]
  | update table cells id =>
    have hcells := chars_join ", " chars_assignment cells
    simp only [Fragment.chars, String.toList_append, List.flatMap_append, List.flatMap_cons,
      List.flatMap_nil, List.append_assoc, List.append_nil, hcells]
  | delete table id =>
    simp only [Fragment.chars, String.toList_append, List.flatMap_cons, List.flatMap_nil,
      List.append_assoc, List.append_nil]

theorem namesIn_join_map {α : Type} (sep : String) {g : α → List Fragment} {column : α → Identifier}
    (h : ∀ a, namesIn (g a) = [column a]) (items : List α) :
    namesIn (joinFragments sep (items.map g)) = items.map column := by
  rw [namesIn_joinFragments, List.flatMap_map, List.map_eq_flatMap]
  simp only [h]

theorem namesIn_join_words {α : Type} (sep : String) {g : α → List Fragment}
    (h : ∀ a, namesIn (g a) = []) (items : List α) :
    namesIn (joinFragments sep (items.map g)) = [] := by
  rw [namesIn_joinFragments, List.flatMap_map, List.flatMap_eq_nil_iff]
  exact fun a _ => h a

/-- The names in the text of a statement are the table and the columns. -/
theorem Statement.namesIn_fragments (s : Statement) : namesIn s.fragments = s.table :: s.columns := by
  cases s with
  | select table tests =>
    cases tests with
    | nil => rfl
    | cons t rest =>
      exact congrArg (table :: ·) (namesIn_join_map " AND " (fun _ => rfl) (t :: rest))
  | insert table cells =>
    have hcells := namesIn_join_map ", " (g := fun c : Identifier × Value => [.name c.1])
      (fun _ => rfl) cells
    have hholes := namesIn_join_words ", " (g := fun _ : Identifier × Value => [.words "%s"])
      (fun _ => rfl) cells
    simp only [fragments, namesIn_append, namesIn, hcells, hholes, List.append_nil]
    rfl
  | update table cells id =>
    have hcells := namesIn_join_map ", " (g := assignmentFragments) (fun _ => rfl) cells
    simp only [fragments, namesIn_append, namesIn, hcells, List.append_nil]
    rfl
  | delete table id => rfl

theorem plain_join_map {α : Type} {sep : String} (hsep : '"' ∉ sep.toList) {g : α → List Fragment}
    (h : ∀ a, Plain (g a)) (items : List α) : Plain (joinFragments sep (items.map g)) := by
  refine plain_joinFragments hsep fun part hpart => ?_
  obtain ⟨a, -, rfl⟩ := List.mem_map.mp hpart
  exact h a

theorem RowTest.plain_fragments (t : RowTest) : Plain t.fragments := by
  refine ⟨?_, trivial⟩
  cases t.comparison <;> decide

/-- In the words of a statement there are no quotes. -/
theorem Statement.plain_fragments (s : Statement) : Plain s.fragments := by
  have hcomma : '"' ∉ ", ".toList := by decide
  cases s with
  | select table tests =>
    refine Plain.append ⟨by decide, trivial⟩ ?_
    split
    · trivial
    · exact ⟨by decide, plain_join_map (by decide) RowTest.plain_fragments tests⟩
  | insert table cells =>
    have hcells := plain_join_map hcomma (g := fun c : Identifier × Value => [.name c.1])
      (fun _ => trivial) cells
    have hholes : Plain (.words ") VALUES (" :: joinFragments ", " (cells.map fun _ => [.words "%s"])) :=
      ⟨by decide, plain_join_map hcomma (g := fun _ => [.words "%s"])
        (fun _ => ⟨by decide, trivial⟩) cells⟩
    have hstart : Plain [.words "INSERT INTO ", .name table, .words " ("] :=
      ⟨by decide, by decide, trivial⟩
    have hend : Plain [.words ") RETURNING *"] := ⟨by decide, trivial⟩
    exact ((hstart.append hcells).append hholes).append hend
  | update table cells id =>
    have hcells := plain_join_map hcomma (g := assignmentFragments)
      (fun _ => ⟨by decide, trivial⟩) cells
    have hstart : Plain [.words "UPDATE ", .name table, .words " SET "] :=
      ⟨by decide, by decide, trivial⟩
    have hend : Plain [.words " WHERE id = %s RETURNING *"] := ⟨by decide, trivial⟩
    exact (hstart.append hcells).append hend
  | delete table id => exact ⟨by decide, by decide, trivial⟩

/-- What is quoted in the text of a statement are the table and the columns. -/
theorem Statement.quotedParts_text (s : Statement) :
    quotedParts s.text.toList = (s.table :: s.columns).map fun i => i.name.toList := by
  rw [chars_text, quotedParts_fragments s.plain_fragments, namesIn_fragments]

/-! ### Where the names come from -/

variable {fs : Entries Value} {operation : String}

theorem names_of_comparisonTests {column : Identifier} {tests : List RowTest}
    (h : comparisonTests column fs = .ok tests) :
    tests.map (fun t => t.column.name) = fs.map fun _ => column.name := by
  induction fs generalizing tests with
  | nil =>
    obtain rfl := Except.ok.inj h
    rfl
  | cons e rest ih =>
    obtain ⟨name, v⟩ := e
    rw [comparisonTests] at h
    cases hc : Comparison.ofName? name with
    | none =>
      rw [hc] at h
      cases h
    | some c =>
      rw [hc] at h
      obtain ⟨more, hmore, h⟩ := bind_eq_ok_iff.mp h
      obtain rfl := pure_eq_ok_iff.mp h
      exact congrArg (column.name :: ·) (ih hmore)

/-- A filter names its column once for each value that it compares it with. -/
theorem names_of_filterTests {name : String} {v : Value} {tests : List RowTest}
    (h : filterTests name v = .ok tests) :
    tests.map (fun t => t.column.name) = (compared v).map fun _ => name := by
  cases hv : v.isObject with
  | true =>
    obtain ⟨fs, rfl⟩ := Value.exists_of_isObject hv
    obtain ⟨column, hcolumn, h⟩ := bind_eq_ok_iff.mp h
    rw [names_of_comparisonTests h, name_of_ofText hcolumn, compared, List.map_map]
    rfl
  | false =>
    rw [filterTests_of_not_isObject hv] at h
    obtain ⟨column, hcolumn, rfl⟩ := map_eq_ok_iff.mp h
    have hcompared : compared v = [v] := by
      cases v with
      | object fs => cases hv
      | _ => rfl
    rw [hcompared]
    exact congrArg (fun s => [s]) (name_of_ofText hcolumn)

theorem names_of_rowTests {tests : List RowTest} (h : rowTests fs = .ok tests) :
    tests.map (fun t => t.column.name) = fs.flatMap fun e => (compared e.2).map fun _ => e.1 := by
  induction fs generalizing tests with
  | nil =>
    obtain rfl := Except.ok.inj h
    rfl
  | cons e rest ih =>
    obtain ⟨name, v⟩ := e
    rw [rowTests] at h
    obtain ⟨first, hfirst, h⟩ := bind_eq_ok_iff.mp h
    obtain ⟨more, hmore, h⟩ := bind_eq_ok_iff.mp h
    obtain rfl := pure_eq_ok_iff.mp h
    rw [List.map_append, names_of_filterTests hfirst, ih hmore, List.flatMap_cons]

theorem names_of_cellsOf {cells : List (Identifier × Value)} (h : cellsOf fs = .ok cells) :
    cells.map (fun c => c.1.name) = Entries.keys fs := by
  induction fs generalizing cells with
  | nil =>
    obtain rfl := Except.ok.inj h
    rfl
  | cons e rest ih =>
    obtain ⟨name, v⟩ := e
    rw [cellsOf] at h
    obtain ⟨column, hcolumn, h⟩ := bind_eq_ok_iff.mp h
    obtain ⟨more, hmore, h⟩ := bind_eq_ok_iff.mp h
    obtain rfl := pure_eq_ok_iff.mp h
    rw [List.map_cons, ih hmore, name_of_ofText hcolumn]
    rfl

/-- The columns that an operation on a table names, given filters. -/
def namedColumns (fs : Entries Value) : String → List String
  | "select" => fs.flatMap fun e => (compared e.2).map fun _ => e.1
  | "insert" => Entries.keys fs
  | "update" => Entries.keys (fs.erase "id")
  | _ => []

/-- The table and the columns of a statement come from the table and the filters given. -/
theorem Statement.names_of_build {table : Value} {s : Statement}
    (h : build operation table (.object fs) = .ok s) :
    table = .str s.table.name ∧ s.columns.map Identifier.name = namedColumns fs operation := by
  rw [build_object] at h
  obtain ⟨i, hi, h⟩ := bind_eq_ok_iff.mp h
  have htable := name_of_ofValue hi
  unfold statementOn at h
  split at h
  · obtain ⟨tests, htests, rfl⟩ := map_eq_ok_iff.mp h
    refine ⟨htable, ?_⟩
    rw [columns, List.map_map]
    exact names_of_rowTests htests
  · split at h
    · cases h
    · obtain ⟨cells, hcells, rfl⟩ := map_eq_ok_iff.mp h
      refine ⟨htable, ?_⟩
      rw [columns, List.map_map]
      exact names_of_cellsOf hcells
  · split at h
    · cases h
    · split at h
      · cases h
      · obtain ⟨cells, hcells, rfl⟩ := map_eq_ok_iff.mp h
        refine ⟨htable, ?_⟩
        rw [columns, List.map_map]
        exact names_of_cellsOf hcells
  · split at h
    · cases h
    · obtain rfl := Except.ok.inj h
      exact ⟨htable, rfl⟩
  · cases h

/-- A statement is only built from filters that are an object, or that make one. -/
theorem Statement.exists_paired_of_build {table filters : Value} {s : Statement}
    (h : build operation table filters = .ok s) :
    ∃ fs, filters.paired = .ok fs ∧ build operation table (.object fs) = .ok s := by
  cases hfilters : filters.isObject with
  | true =>
    obtain ⟨fs, rfl⟩ := Value.exists_of_isObject hfilters
    exact ⟨fs, rfl, h⟩
  | false =>
    have hparts (asked : String) {fs : Entries Value} : filters.parts asked ≠ .ok fs := by
      cases filters with
      | object fs => cases hfilters
      | _ => exact nofun
    unfold build at h
    obtain ⟨i, hi, h⟩ := bind_eq_ok_iff.mp h
    split at h
    · obtain ⟨fs, hfs, -⟩ := bind_eq_ok_iff.mp h
      exact absurd hfs (hparts "items")
    · split at h
      · obtain ⟨fs, hfs, -⟩ := bind_eq_ok_iff.mp h
        exact absurd hfs (hparts "keys")
      · cases h
    · obtain ⟨fs, hfs, h⟩ := bind_eq_ok_iff.mp h
      refine ⟨fs, hfs, ?_⟩
      rw [build, hi]
      exact h
    · obtain ⟨fs, hfs, -⟩ := bind_eq_ok_iff.mp h
      exact absurd hfs (hparts "get")
    · cases h

end Database

/-! ### Mail addresses -/

namespace Email

open Text

/-- No blank, one sign `@`, some text before it, and after it a dot with some text on both sides. -/
structure IsMailAddress (s : List Char) : Prop where
  noBlank : ∀ c ∈ s, isBlank c = false
  oneSign : s.count '@' = 1
  parts : ∃ name before after, s = name ++ '@' :: (before ++ '.' :: after) ∧
    name ≠ [] ∧ before ≠ [] ∧ after ≠ []

theorem isAddressChar_iff {c : Char} : isAddressChar c = true ↔ c ≠ '@' ∧ isBlank c = false := by
  rw [isAddressChar, Bool.and_eq_true, decide_eq_true_eq, Bool.not_eq_true']

theorem hasDot_iff {s : List Char} :
    hasInnerDot.hasDot s = true ↔ ∃ before after, s = before ++ '.' :: after ∧ after ≠ [] := by
  induction s with
  | nil => simp [hasInnerDot.hasDot]
  | cons c rest ih =>
    rw [hasInnerDot.hasDot, Bool.or_eq_true, Bool.and_eq_true, decide_eq_true_eq,
      Bool.not_eq_true', List.isEmpty_eq_false_iff, ih]
    constructor
    · rintro (⟨rfl, hrest⟩ | ⟨before, after, rfl, hafter⟩)
      · exact ⟨[], rest, rfl, hrest⟩
      · exact ⟨c :: before, after, rfl, hafter⟩
    · rintro ⟨before, after, h, hafter⟩
      cases before with
      | nil =>
        obtain ⟨rfl, rfl⟩ := List.cons.inj h
        exact Or.inl ⟨rfl, hafter⟩
      | cons d before => exact Or.inr ⟨before, after, (List.cons.inj h).2, hafter⟩

theorem hasInnerDot_iff {s : List Char} :
    hasInnerDot s = true ↔
      ∃ before after, s = before ++ '.' :: after ∧ before ≠ [] ∧ after ≠ [] := by
  cases s with
  | nil => simp [hasInnerDot]
  | cons c rest =>
    rw [hasInnerDot, hasDot_iff]
    constructor
    · rintro ⟨before, after, rfl, hafter⟩
      exact ⟨c :: before, after, rfl, List.cons_ne_nil c before, hafter⟩
    · rintro ⟨before, after, h, hbefore, hafter⟩
      obtain ⟨d, before, rfl⟩ := List.exists_cons_of_ne_nil hbefore
      exact ⟨before, after, (List.cons.inj h).2, hafter⟩

/-- Around the one sign `@` stand characters of an address only. -/
theorem noBlank_oneSign_iff {name host : List Char} :
    ((∀ c ∈ name ++ '@' :: host, isBlank c = false) ∧ (name ++ '@' :: host).count '@' = 1) ↔
      (∀ c ∈ name, isAddressChar c = true) ∧ ∀ c ∈ host, isAddressChar c = true := by
  have hcount : (name ++ '@' :: host).count '@' = 1 ↔ '@' ∉ name ∧ '@' ∉ host := by
    rw [List.count_append, List.count_cons_self, ← List.count_eq_zero, ← List.count_eq_zero]
    omega
  have hsign : isBlank '@' = false := by decide
  have hchars (part : List Char) : (∀ c ∈ part, isAddressChar c = true) ↔
      '@' ∉ part ∧ ∀ c ∈ part, isBlank c = false := by
    simp only [isAddressChar_iff, forall_and, List.forall_mem_ne']
  rw [hcount, hchars, hchars, List.forall_mem_append, List.forall_mem_cons]
  constructor
  · exact fun ⟨⟨hname, _, hhost⟩, hnotName, hnotHost⟩ => ⟨⟨hnotName, hname⟩, hnotHost, hhost⟩
  · exact fun ⟨⟨hnotName, hname⟩, hnotHost, hhost⟩ => ⟨⟨hname, hsign, hhost⟩, hnotName, hnotHost⟩

/-- What is left of a text from the first character that is not of an address. -/
theorem isAddress_chars_iff {s : List Char} :
    (match s.dropWhile isAddressChar with
      | '@' :: host => !(s.takeWhile isAddressChar).isEmpty && host.all isAddressChar &&
          hasInnerDot host
      | _ => false) = true ↔ IsMailAddress s := by
  constructor
  · intro h
    split at h
    · rename_i host hhost
      simp only [Bool.and_eq_true, Bool.not_eq_true', List.isEmpty_eq_false_iff, List.all_eq_true]
        at h
      obtain ⟨⟨hname, hall⟩, hdot⟩ := h
      obtain ⟨before, after, hparts, hbefore, hafter⟩ := hasInnerDot_iff.mp hdot
      have hs : s = s.takeWhile isAddressChar ++ '@' :: host := by
        rw [← hhost, List.takeWhile_append_dropWhile]
      have hchars : ∀ c ∈ s.takeWhile isAddressChar, isAddressChar c = true :=
        List.all_eq_true.mp List.all_takeWhile
      have hsplit := noBlank_oneSign_iff.mpr ⟨hchars, hall⟩
      rw [← hs] at hsplit
      exact ⟨hsplit.1, hsplit.2, _, before, after, hparts ▸ hs, hname, hbefore, hafter⟩
    · cases h
  · rintro ⟨hblank, hsign, name, before, after, rfl, hname, hbefore, hafter⟩
    obtain ⟨hall, hhost⟩ := noBlank_oneSign_iff.mp ⟨hblank, hsign⟩
    have hstop : ¬ isAddressChar '@' = true := by decide
    rw [List.takeWhile_append_of_pos hall, List.dropWhile_append_of_pos hall,
      List.takeWhile_cons_of_neg hstop, List.dropWhile_cons_of_neg hstop, List.append_nil]
    simp only [Bool.and_eq_true, Bool.not_eq_true', List.isEmpty_eq_false_iff, List.all_eq_true]
    exact ⟨⟨hname, hhost⟩, hasInnerDot_iff.mpr ⟨before, after, rfl, hbefore, hafter⟩⟩

theorem IsMailAddress.no_lineEnd (s : List Char) (h : IsMailAddress s) : '\n' ∉ s := by
  intro hmem
  have hline : isBlank '\n' = true := by decide
  exact Bool.false_ne_true ((h.noBlank _ hmem).symm.trans hline)

/-- The texts that are taken as mail addresses. -/
theorem isAddress_iff {s : String} : isAddress s = true ↔ UpToLineEnd IsMailAddress s := by
  rw [upToLineEnd_iff IsMailAddress.no_lineEnd]
  exact isAddress_chars_iff

/-- A mail is only said to be sent to a recipient that is taken as an address. -/
theorem ensures_send {σ : Type} (a : Account) (now : Calendar.Instant) (l : Letter) :
    Task.Ensures (fun p => p.dump.field? "success" = some (.bool true) →
      ∃ recipient, l.recipient = .str recipient ∧ UpToLineEnd IsMailAddress recipient)
      (send (σ := σ) a now l) := by
  unfold send
  split
  · exact .pure nofun
  · split
    · rename_i recipient hrecipient
      split
      · exact .pure nofun
      · rename_i haddress
        have hrecipient : ∃ recipient, l.recipient = .str recipient ∧
            UpToLineEnd IsMailAddress recipient :=
          ⟨recipient, hrecipient, isAddress_iff.mp (by simpa using haddress)⟩
        exact Task.ensures_of_forall (fun _ _ => hrecipient) _
    · rw [Task.ensures_attempt]
      exact nofun

/-- Without a key a mail that is complete is simulated, if its recipient is taken as an address. -/
theorem send_simulated {σ : Type} {a : Account} (now : Calendar.Instant) {l : Letter}
    (hkey : a.key = "") (hsubject : l.subject.truthy = true) (hbody : l.body.truthy = true)
    {recipient : String} (hrecipient : l.recipient = .str recipient)
    (h : UpToLineEnd IsMailAddress recipient) :
    send (σ := σ) a now l = pure (.simulated ("sim_" ++ Decimal.intText now.millis)) := by
  have haddress := isAddress_iff.mpr h
  have hnonempty : (Value.str recipient).truthy = true := by
    rw [Value.truthy, decide_eq_true_eq]
    rintro rfl
    cases haddress
  simp [send, hkey, hsubject, hbody, hrecipient, hnonempty, haddress]

end Email

/-! ### The checks -/

/-- **Names are checked but for a line end.**  In the text of a statement that is built the quotes stand
around the table and the columns of the filters only, and each of them is a name, or a name and a line
end: it is a name exactly if no line end stands in it.  A mail that is said to be sent has a recipient
that is an address, or an address and a line end, and again it is an address exactly if no line end
stands in it.  A line end does not matter to either check: what it takes are the names and addresses
with or without one. -/
theorem checked_but_for_line_end (operation : String) (table filters : Value) (account : Email.Account)
    (now : Calendar.Instant) (l : Email.Letter) (world : World) (asked : List Query) :
    (∀ s, Database.Statement.build operation table filters = .ok s →
      ∃ fs, filters.paired = .ok fs ∧ table = .str s.table.name ∧
        s.columns.map Database.Identifier.name = Database.namedColumns fs operation ∧
        Database.quotedParts s.text.toList = (s.table :: s.columns).map (·.name.toList) ∧
        ∀ i ∈ s.table :: s.columns, Text.UpToLineEnd Database.IsName i.name ∧
          (Database.IsName i.name.toList ↔ '\n' ∉ i.name.toList)) ∧
    (∀ asked' posting,
      (Email.send account now l).run.run world () asked = ⟨(), asked', .inr (.ok posting)⟩ →
      posting.dump.field? "success" = some (.bool true) →
      ∃ recipient, l.recipient = .str recipient ∧ Text.UpToLineEnd Email.IsMailAddress recipient ∧
        (Email.IsMailAddress recipient.toList ↔ '\n' ∉ recipient.toList)) ∧
    (∀ name, table = .str name →
      ((∃ s, Database.Statement.build "select" table (.object []) = .ok s) ↔
        Text.UpToLineEnd Database.IsName name)) ∧
    ∀ recipient, l.recipient = .str recipient → account.key = "" → l.subject.truthy = true →
      l.body.truthy = true →
      ((∃ id, (Email.send account now l).run.run world () asked =
        ⟨(), asked, .inr (.ok (.simulated id))⟩) ↔
        Text.UpToLineEnd Email.IsMailAddress recipient) := by
  have hmail (asked' : List Query) (posting : Email.Posting)
      (h : (Email.send account now l).run.run world () asked = ⟨(), asked', .inr (.ok posting)⟩)
      (hsuccess : posting.dump.field? "success" = some (.bool true)) :
      ∃ recipient, l.recipient = .str recipient ∧ Text.UpToLineEnd Email.IsMailAddress recipient :=
    (Email.ensures_send account now l).always.of_run h posting rfl hsuccess
  refine ⟨?_, ?_, ?_, ?_⟩
  · intro s h
    obtain ⟨fs, hfs, hbuild⟩ := Database.Statement.exists_paired_of_build h
    obtain ⟨htable, hcolumns⟩ := Database.Statement.names_of_build hbuild
    refine ⟨fs, hfs, htable, hcolumns, s.quotedParts_text, fun i _ => ?_⟩
    have hname := Database.isIdentifier_iff.mp i.isName
    exact ⟨hname, hname.iff_not_mem Database.IsName.no_lineEnd⟩
  · intro asked' posting h hsuccess
    obtain ⟨recipient, hrecipient, haddress⟩ := hmail asked' posting h hsuccess
    exact ⟨recipient, hrecipient, haddress, haddress.iff_not_mem Email.IsMailAddress.no_lineEnd⟩
  · rintro name rfl
    rw [← Database.exists_ofText_iff]
    constructor
    · rintro ⟨s, h⟩
      obtain ⟨i, hi, -⟩ := bind_eq_ok_iff.mp h
      exact ⟨i, hi⟩
    · rintro ⟨i, hi⟩
      exact ⟨.select i [], by rw [Database.Statement.build, Database.Identifier.ofValue, hi]; rfl⟩
  · intro recipient hrecipient hkey hsubject hbody
    constructor
    · rintro ⟨id, h⟩
      obtain ⟨recipient', heq, haddress⟩ := hmail asked _ h rfl
      rw [hrecipient] at heq
      exact Value.str.inj heq ▸ haddress
    · intro haddress
      rw [Email.send_simulated now hkey hsubject hbody hrecipient haddress]
      exact ⟨_, rfl⟩

/-- A short mail to a recipient. -/
def Email.Letter.hello (recipient : String) : Letter :=
  ⟨.str recipient, .str "Hello", .str "Hi", false, .null⟩

/-- A row is inserted whose second column has a line end after its name, and a mail is sent. -/
theorem checked_but_for_line_end_inserting :
    (∃ s, Database.Statement.build "insert" (.str "users")
        (.object [("name", .str "Ann"), ("age\n", .int 7)]) = .ok s ∧
      Database.quotedParts s.text.toList = [['u', 's', 'e', 'r', 's'], ['n', 'a', 'm', 'e'],
        ['a', 'g', 'e', '\n']] ∧
      ∀ i ∈ s.table :: s.columns, Text.UpToLineEnd Database.IsName i.name) ∧
    Text.UpToLineEnd Email.IsMailAddress "ann@mail.example" := by
  obtain ⟨hstatement, hmail, -, -⟩ := checked_but_for_line_end "insert" (.str "users")
    (.object [("name", .str "Ann"), ("age\n", .int 7)]) ⟨"", "", .null⟩ ⟨0⟩
    (.hello "ann@mail.example") .refusing []
  constructor
  · obtain ⟨s, hs⟩ : ∃ s, Database.Statement.build "insert" (.str "users")
        (.object [("name", .str "Ann"), ("age\n", .int 7)]) = .ok s := ⟨_, rfl⟩
    obtain ⟨fs, hfs, htable, hcolumns, hquoted, hnames⟩ := hstatement s hs
    obtain rfl := Except.ok.inj hfs
    refine ⟨s, hs, ?_, fun i hi => (hnames i hi).1⟩
    have hnamed : (s.table :: s.columns).map (·.name.toList) =
        (s.table.name :: s.columns.map Database.Identifier.name).map String.toList := by
      rw [List.map_cons, List.map_cons, List.map_map]
      rfl
    rw [hquoted, hnamed, hcolumns, ← Value.str.inj htable]
    decide
  · obtain ⟨recipient, hrecipient, h, -⟩ := hmail [] _ (by with_unfolding_all rfl) rfl
    exact Value.str.inj hrecipient ▸ h

/-- The name of the table keeps the line end, and so does the recipient of the mail. -/
theorem line_end_passes :
    (∃ s, Database.Statement.build "select" (.str "users\n") (.object []) = .ok s ∧
      ['u', 's', 'e', 'r', 's', '\n'] ∈ Database.quotedParts s.text.toList ∧
      ¬ Database.IsName ['u', 's', 'e', 'r', 's', '\n']) ∧
    ∃ posting, (Email.send ⟨"", "", .null⟩ ⟨0⟩ (.hello "ann@mail.example\n")).run.run .refusing () [] =
        ⟨(), [], .inr (.ok posting)⟩ ∧
      posting.dump.field? "success" = some (.bool true) ∧
      ¬ Email.IsMailAddress "ann@mail.example\n".toList := by
  refine ⟨⟨_, rfl, ?_, ?_⟩, _, by with_unfolding_all rfl, rfl, ?_⟩
  · decide
  · exact fun h => h.not_mem (c := '\n') (by decide) (by decide)
  · exact fun h => Bool.false_ne_true ((h.noBlank '\n' (by decide)).symm.trans (by decide))

end ChatFlow
