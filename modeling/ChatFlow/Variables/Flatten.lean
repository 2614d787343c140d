import ChatFlow.Value

/-!
# Flat variables from nested objects

The fields of an object become variables of their own under dotted names: each
field, and below it the fields of nested objects down to a given number of
levels.  Lists are not entered.
-/

namespace ChatFlow.Flatten

/-- The name of a field below `base`; the empty base leaves the name alone. -/
def below (base key : String) : String := if base = "" then key else base ++ "." ++ key

/-- The fields under `base`, each followed by what `inner` gives for it if it is an object. -/
def level (inner : String → List (String × Value) → Entries Value) (base : String)
    (fields : List (String × Value)) : Entries Value :=
  fields.foldl (fun acc f =>
    let name := below base f.1
    let acc := acc.put name f.2
    match f.2 with
    | .object nested => acc.merge (inner name nested)
    | _ => acc) []

/-- The fields under `base` with those of nested objects, `more` levels further down. -/
def fieldsBelow : Nat → String → List (String × Value) → Entries Value
  | 0 => level fun _ _ => []
  | more + 1 => level (fieldsBelow more)

/-- The levels that variables are flattened to when nothing else is said. -/
def defaultDepth : Int := 5

/-- The variables that the fields of `v` become under `base`, in at most `depth` levels and at least
one; a value that is no object becomes none. -/
def flatten (v : Value) (base : String) (depth : Int) : Entries Value :=
  match v with
  | .object fields => fieldsBelow (depth - 1).toNat base fields
  | _ => []

end ChatFlow.Flatten
