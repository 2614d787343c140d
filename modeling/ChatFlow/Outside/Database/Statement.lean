import ChatFlow.Failure
import ChatFlow.Text.Split
import ChatFlow.Value.Fields
import ChatFlow.Value.Render

/-!
# Statements

A statement is built from the name of an operation, a table and filters.  Names
become part of its text only if they are identifiers; every value is passed as
a parameter, for which the text has a placeholder.  `Statement.text` and
`Statement.parameters` write the two sides.
-/

namespace ChatFlow.Database

/-- Whether a character may begin a name. -/
def isNameStart (c : Char) : Bool := c.isAlpha || c = '_'

/-- Whether a character may go on a name. -/
def isNamePart (c : Char) : Bool := c.isAlphanum || c = '_'

/-- Whether a text is a name of letters, digits and underscores that does not begin with a digit.  A
line end after it does not count. -/
def isIdentifier (s : String) : Bool :=
  match Text.dropLineEnd s.toList with
  | c :: rest => isNameStart c && rest.all isNamePart
  | [] => false

/-- The name of a table or a column. -/
structure Identifier where
  name : String
  isName : isIdentifier name = true

/-- The identifier of this name. -/
def Identifier.ofText (s : String) : Except Failure Identifier :=
  if h : isIdentifier s = true then .ok ⟨s, h⟩ else .error (.badIdentifier (Text.quoted s))

/-- The identifier that a value names; only a text can name one. -/
def Identifier.ofValue : Value → Except Failure Identifier
  | .str s => Identifier.ofText s
  | v =>
    if v.truthy then .error (.wrongKind "expected string or bytes-like object")
    else .error (.badIdentifier v.shown)

/-- How a column is compared. -/
inductive Comparison where
  | equal
  | atLeast
  | atMost
  | greater
  | less
  | unequal
  deriving DecidableEq, Repr

/-- The comparison that a filter names. -/
def Comparison.ofName? : String → Option Comparison
  | "$gte" => some atLeast
  | "$lte" => some atMost
  | "$gt" => some greater
  | "$lt" => some less
  | "$ne" => some unequal
  | _ => none

/-- The sign of a comparison. -/
def Comparison.sign : Comparison → String
  | equal => "="
  | atLeast => ">="
  | atMost => "<="
  | greater => ">"
  | less => "<"
  | unequal => "<>"

/-- A condition on the rows. -/
structure RowTest where
  column : Identifier
  comparison : Comparison
  value : Value

/-- A statement. -/
inductive Statement where
  | select (table : Identifier) (tests : List RowTest)
  | insert (table : Identifier) (cells : List (Identifier × Value))
  | update (table : Identifier) (cells : List (Identifier × Value)) (id : Value)
  | delete (table : Identifier) (id : Value)

/-! ### Building statements -/

/-- The conditions of a map of comparisons. -/
def comparisonTests (column : Identifier) : Entries Value → Except Failure (List RowTest)
  | [] => .ok []
  | (name, v) :: rest => do
    match Comparison.ofName? name with
    | none => .error (.badStatement ("Unsupported filter operator: " ++ name))
    | some c => return ⟨column, c, v⟩ :: (← comparisonTests column rest)

/-- The conditions of one filter: equality, or those of a map of comparisons. -/
def filterTests (name : String) (v : Value) : Except Failure (List RowTest) := do
  let column ← Identifier.ofText name
  match v with
  | .object fs => comparisonTests column fs
  | v => return [⟨column, .equal, v⟩]

/-- The conditions of all filters. -/
def rowTests : Entries Value → Except Failure (List RowTest)
  | [] => .ok []
  | (name, v) :: rest => do
    let tests ← filterTests name v
    return tests ++ (← rowTests rest)

/-- The columns and their values. -/
def cellsOf : Entries Value → Except Failure (List (Identifier × Value))
  | [] => .ok []
  | (name, v) :: rest => do
    let column ← Identifier.ofText name
    return (column, v) :: (← cellsOf rest)

/-- The filter that names a row, if it is not null. -/
def rowId? (filters : Entries Value) : Option Value :=
  match filters.find? "id" with
  | some .null | none => none
  | some v => some v

/-- The statement for an operation on a table.  A row that is inserted is given by the filters; a row
that is updated or deleted by the filter of the name `id`. -/
def Statement.build (operation : String) (table filters : Value) : Except Failure Statement := do
  let table ← Identifier.ofValue table
  match operation with
  | "select" => return .select table (← rowTests (← filters.parts "items"))
  | "insert" =>
    if filters.truthy then return .insert table (← cellsOf (← filters.parts "keys"))
    else .error (.badStatement "Insert requires at least one column")
  | "update" =>
    let filters ← filters.paired
    match rowId? filters with
    | none => .error (.badStatement "ID is required for update operations")
    | some id =>
      let others := filters.erase "id"
      if others.isEmpty then
        .error (.badStatement "Update requires at least one column besides id")
      else return .update table (← cellsOf others) id
  | "delete" =>
    match rowId? (← filters.parts "get") with
    | none => .error (.badStatement "ID is required for delete operations")
    | some id => return .delete table id
  | other => .error (.badStatement ("Invalid operation: " ++ other))

/-! ### Text and parameters -/

/-- A name in double quotes. -/
def Identifier.text (i : Identifier) : String := "\"" ++ i.name ++ "\""

/-- A condition with a placeholder for its value. -/
def RowTest.text (t : RowTest) : String := t.column.text ++ " " ++ t.comparison.sign ++ " %s"

/-- The text of a statement. -/
def Statement.text : Statement → String
  | select table tests =>
    let selection := "SELECT * FROM " ++ table.text
    if tests.isEmpty then selection
    else selection ++ " WHERE " ++ Text.join " AND " (tests.map RowTest.text)
  | insert table cells =>
    "INSERT INTO " ++ table.text ++ " (" ++ Text.join ", " (cells.map fun c => c.1.text)
      ++ ") VALUES (" ++ Text.join ", " (cells.map fun _ => "%s") ++ ") RETURNING *"
  | update table cells _ =>
    "UPDATE " ++ table.text ++ " SET " ++ Text.join ", " (cells.map fun c => c.1.text ++ " = %s")
      ++ " WHERE id = %s RETURNING *"
  | delete table _ => "DELETE FROM " ++ table.text ++ " WHERE id = %s RETURNING *"

/-- The parameters of a statement, in the order of their placeholders. -/
def Statement.parameters : Statement → List Value
  | select _ tests => tests.map RowTest.value
  | insert _ cells => cells.map (·.2)
  | update _ cells id => cells.map (·.2) ++ [id]
  | delete _ id => [id]

end ChatFlow.Database
