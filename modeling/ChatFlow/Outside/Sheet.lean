import ChatFlow.Json.Reader
import ChatFlow.Outside.MediaType
import ChatFlow.Outside.Task
import ChatFlow.Text.PercentEncoded
import ChatFlow.Decimal.Layout
import ChatFlow.Failure
import ChatFlow.Value.Fields
import ChatFlow.Value.Render

/-!
# Writing to spreadsheets

`Sheet.write` appends rows to a sheet or writes them over a range of cells.  An
operation of another name does nothing, and so does every operation as long as
no key is configured; neither is an error.
-/

namespace ChatFlow.Sheet

/-- The account that spreadsheets are written with. -/
structure Account where
  key : String
  timeout : Value

/-- What came of writing. -/
inductive Writing where
  | written (reply : Value)
  | skipped
  | failed (error : String)

/-- All that a writing says, as an object. -/
def Writing.dump : Writing → Value
  | written reply => .object [("success", .bool true), ("data", reply), ("duration_ms", .int 0)]
  | skipped => .object [("success", .bool true), ("skipped", .bool true), ("duration_ms", .int 0)]
  | failed error => .object [("success", .bool false), ("error", .str error), ("duration_ms", .int 0)]

/-- What is to be written where. -/
structure Order where
  operation : Value
  spreadsheet : Value
  sheet : Value
  values : Value
  range : Value

/-- The address of a range of cells. -/
def rangeUrl (spreadsheet range : String) : String :=
  "https://sheets.googleapis.com/v4/spreadsheets/" ++ spreadsheet ++ "/values/"
    ++ Text.percentEncoded ['!', ':'] range

/-- The method and the address of an operation, if it is one. -/
def Order.target? (o : Order) : Except Failure (Option (String × String)) :=
  let spreadsheet := o.spreadsheet.display
  let start := o.sheet.display ++ "!A1"
  match o.operation with
  | .str "append" => .ok (some ("POST", rangeUrl spreadsheet start ++ ":append"))
  | .str "update" =>
    match o.range.orElse start with
    | .str range => .ok (some ("PUT", rangeUrl spreadsheet range))
    | _ => .error (.wrongKind "quote_from_bytes() expected bytes")
  | _ => .ok none

/-- What an HTTP exchange comes to.  The text of a refusal is looked at too, and what keeps it from
being read stands for the refusal then. -/
def Writing.ofOutcome : HttpOutcome → Writing
  | .replied r =>
    if r.status < 400 then
      match Json.parseBytes? r.body with
      | some v => .written v
      | none => .failed Failure.notJson.message
    else
      match r.text with
      | .ok _ =>
        .failed ("Google Sheets API returned HTTP " ++ String.ofList (Decimal.natChars r.status))
      | .error f => .failed f.message
  | .timedOut reason | .broken reason => .failed reason

/-- Writes to a spreadsheet. -/
def write {σ : Type} (a : Account) (o : Order) : ExceptT Failure (Task σ) Writing := do
  if !o.spreadsheet.truthy then return .failed "Spreadsheet ID required"
  match ← Task.attempt o.target? with
  | none => return .skipped
  | some (method, url) =>
    if a.key = "" then return .skipped
    let outcome : HttpOutcome ← ExceptT.lift (Task.query (.http
      { method := method, url := url, json := some (.object [("values", o.values)]),
        params := some [("valueInputOption", "RAW"), ("key", a.key)], timeout := a.timeout }))
    return Writing.ofOutcome outcome

end ChatFlow.Sheet
