import ChatFlow.Calendar.Zone
import ChatFlow.Failure
import ChatFlow.Text.Split
import ChatFlow.Value.Render
import ChatFlow.Variables.Template

/-!
# Variables in scope

A run sees its own variables and those of the system, which are computed from
the clock.  A path is looked up in three steps: a system variable of that name
wins, then a variable whose whole name is the path, then the longest variable
name that the path continues after a dot, from whose value the rest of the path
descends through the fields of objects.  Lists are never entered.

`interpolate` fills the placeholders of a template with the rendered values of
the paths that they name.  An instant far off may have no date; then whatever
asks for a system variable is a failure, which `checked` gives.  So a lookup or a
template that is really used goes through `read`, `fill`, `fillText` or `fillAll`.
-/

namespace ChatFlow

/-- What the system variables are computed from: the instant, the zone of local time and the
address under which the service is reached. -/
structure Locale where
  now : Calendar.Instant
  zone : String
  baseUrl : String

/-- The seconds since 1970 that a local clock would count. -/
def Locale.localSecond (l : Locale) : Int :=
  l.now.seconds + Calendar.offsetAt l.zone l.now.seconds

/-- Whether the instant has a date, which is one of the years 1 to 9999, in universal and in local
time. -/
def Locale.isDated (l : Locale) : Bool :=
  [l.now.seconds, l.localSecond].all fun second =>
    let year := (Calendar.dateOf second).year
    1 ≤ year && year ≤ 9999

/-- The system variables. -/
def Locale.system (l : Locale) : Entries Value :=
  [("system.current_date", .str (Calendar.dateOf l.localSecond).shortText),
   ("system.current_time", .str (Calendar.clockText l.localSecond)),
   ("system.current_date_time", .str l.now.isoText),
   ("system.current_datetime", .str l.now.isoText),
   ("system.timestamp", .int l.now.millis),
   ("system.server_base_url", .str l.baseUrl)]

/-- The variables of a run together with the circumstances that the system variables show. -/
structure Scope where
  vars : Entries Value
  locale : Locale

namespace Scope

/-- The ways to cut a path at a dot, the last dot first. -/
def dotCuts : List Char → List (List Char × List Char)
  | [] => []
  | c :: rest =>
    (dotCuts rest).map (fun p => (c :: p.1, p.2)) ++ if c = '.' then [([], rest)] else []

/-- The value reached from `v` through the fields of these names. -/
def descend (v : Value) : List String → Option Value
  | [] => some v
  | name :: rest => (v.field? name).bind fun w => descend w rest

/-- The longest variable name that a path continues after a dot, and the continuation. -/
def owner? (vars : Entries Value) (path : String) : Option (String × String) :=
  ((dotCuts path.toList).map fun p => (String.ofList p.1, String.ofList p.2)).find? fun p =>
    vars.has p.1

/-- The value of a path in the variables alone. -/
def resolve (vars : Entries Value) (path : String) : Option Value :=
  match vars.find? path with
  | some v => some v
  | none =>
    match owner? vars path with
    | some (name, rest) =>
      (vars.find? name).bind fun v => descend v (Text.splitAt '.' rest)
    | none => none

/-- The system variable of this name. -/
def systemVariable? (locale : Locale) (path : String) : Option Value :=
  if Text.startsWith "system.".toList path.toList then locale.system.find? path else none

/-- The value of a path. -/
def lookup (scope : Scope) (path : String) : Option Value :=
  match systemVariable? scope.locale path with
  | some v => some v
  | none => resolve scope.vars path

/-- The value of a path, blanks around it ignored. -/
def get? (scope : Scope) (path : String) : Option Value := scope.lookup (Text.strip path)

/-- Whether a path asks for a system variable, so that the clock is read. -/
def asksClock (path : String) : Bool :=
  Text.startsWith "system.".toList (Text.stripChars path.toList)

/-- Whether a template has a placeholder that asks for a system variable. -/
def templateAsksClock (template : String) : Bool :=
  (Template.holes template.toList).any fun name => asksClock (String.ofList name)

/-- Whether a template, at any depth of a value, asks for a system variable. -/
def valueAsksClock (v : Value) : Bool := v.anyText templateAsksClock

/-- What depends on the clock only if it `asks`; asking fails where the instant has no date. -/
def checked {α : Type} (scope : Scope) (asks : Bool) (a : α) : Except Failure α :=
  if asks && !scope.locale.isDated then .error .noDate else .ok a

/-- The text that stands for a placeholder of this name. -/
def holeText (scope : Scope) (name : List Char) : Option (List Char) :=
  (scope.get? (String.ofList name)).map fun v => v.render.toList

/-- A template with the values of its placeholders. -/
def interpolate (scope : Scope) (template : String) : String :=
  String.ofList (Template.fill scope.holeText template.toList)

/-- A text is a template; any other value stays as it is. -/
def interpolateText (scope : Scope) : Value → Value
  | .str s => .str (scope.interpolate s)
  | v => v

mutual

/-- A value in which every text, at any depth, is filled as a template; keys stay as they are. -/
def interpolateAll (scope : Scope) : Value → Value
  | .str s => .str (scope.interpolate s)
  | .list items => .list (interpolateItems scope items)
  | .object fields => .object (interpolateFields scope fields)
  | v => v

/-- The items of a list with their templates filled. -/
def interpolateItems (scope : Scope) : List Value → List Value
  | [] => []
  | v :: rest => interpolateAll scope v :: interpolateItems scope rest

/-- The fields of an object with their templates filled. -/
def interpolateFields (scope : Scope) : List (String × Value) → List (String × Value)
  | [] => []
  | (k, v) :: rest => (k, interpolateAll scope v) :: interpolateFields scope rest

end

/-! ### With a clock that may have no date -/

/-- The value of a path. -/
def read (scope : Scope) (path : String) : Except Failure (Option Value) :=
  scope.checked (asksClock path) (scope.get? path)

/-- A template with the values of its placeholders. -/
def fill (scope : Scope) (template : String) : Except Failure String :=
  scope.checked (templateAsksClock template) (scope.interpolate template)

/-- A text is filled as a template; any other value stays as it is. -/
def fillText (scope : Scope) (v : Value) : Except Failure Value :=
  scope.checked (templateAsksClock (v.text?.getD "")) (scope.interpolateText v)

/-- A value with every text in it, at any depth, filled as a template. -/
def fillAll (scope : Scope) (v : Value) : Except Failure Value :=
  scope.checked (valueAsksClock v) (scope.interpolateAll v)

end Scope

end ChatFlow
