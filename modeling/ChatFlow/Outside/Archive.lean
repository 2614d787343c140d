import ChatFlow.Json.Writer
import ChatFlow.Outside.Task

/-!
# Keeping records outside

A copy of a finished record is written to the state store.  Whether that works
is of no consequence for the run.
-/

namespace ChatFlow.Archive

/-- The key of the record of a run. -/
def key (run : String) : String := "flow-execution:" ++ run

/-- Writes a record to a state store. -/
def save {σ : Type} (store run : String) (record : Value) : Task σ Unit := do
  let _ ← Task.query (.saveState store (key run) (Json.text Json.spaced record))
  return ()

end ChatFlow.Archive
