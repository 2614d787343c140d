import ChatFlow.Decimal.Reading
import ChatFlow.Decimal.Layout

/-!
# Days and instants

An instant is a number of microseconds since the start of 1970 in universal
time.  `civil` gives the date of a day by the usual count of eras of 400 years,
and `days` goes back.  `ofIso?` reads an instant from its ISO text.
-/

namespace ChatFlow.Calendar

/-- Year, month and day of the Gregorian calendar. -/
structure Date where
  year : Int
  month : Nat
  day : Nat
  deriving DecidableEq, Repr

/-- The number of days from the first of January 1970 to a date. -/
def days (d : Date) : Int :=
  let y := if d.month ≤ 2 then d.year - 1 else d.year
  let era := y.fdiv 400
  let yearOfEra := y - era * 400
  let shifted : Int := ((d.month + 9) % 12 : Nat)
  let dayOfYear := (153 * shifted + 2) / 5 + d.day - 1
  let dayOfEra := yearOfEra * 365 + yearOfEra / 4 - yearOfEra / 100 + dayOfYear
  era * 146097 + dayOfEra - 719468

/-- The date of a day counted from the first of January 1970. -/
def civil (n : Int) : Date :=
  let z := n + 719468
  let era := z.fdiv 146097
  let dayOfEra := z - era * 146097
  let yearOfEra := (dayOfEra - dayOfEra / 1460 + dayOfEra / 36524 - dayOfEra / 146096) / 365
  let dayOfYear := dayOfEra - (365 * yearOfEra + yearOfEra / 4 - yearOfEra / 100)
  let shifted := (5 * dayOfYear + 2) / 153
  let day := dayOfYear - (153 * shifted + 2) / 5 + 1
  let month := if shifted < 10 then shifted + 3 else shifted - 9
  let year := yearOfEra + era * 400 + (if month ≤ 2 then 1 else 0)
  ⟨year, month.toNat, day.toNat⟩

/-- The day of the week, zero being a Sunday. -/
def weekday (n : Int) : Nat := ((n + 4).emod 7).toNat

/-- A number with zeros in front, up to this many digits. -/
def padded (width n : Nat) : List Char :=
  let ds := Decimal.natChars n
  List.replicate (width - ds.length) '0' ++ ds

/-- A date as `year-month-day`, the year with all its digits and no more. -/
def Date.shortText (d : Date) : String :=
  String.ofList (Decimal.natChars d.year.toNat ++ '-' :: padded 2 d.month ++ '-' :: padded 2 d.day)

/-- A date as `year-month-day`, the year with at least four digits. -/
def Date.text (d : Date) : String :=
  String.ofList (padded 4 d.year.toNat ++ '-' :: padded 2 d.month ++ '-' :: padded 2 d.day)

/-- Microseconds since the start of 1970 in universal time. -/
structure Instant where
  micros : Int
  deriving DecidableEq, Repr

namespace Instant

/-- Whole seconds since the start of 1970. -/
def seconds (t : Instant) : Int := t.micros.fdiv 1000000

/-- An instant a number of seconds after the start of 1970. -/
def ofSeconds (n : Int) : Instant := ⟨n * 1000000⟩

/-- The seconds since the start of 1970 as the nearest double. -/
def unix (t : Instant) : Float := Decimal.nearest (t.micros < 0) t.micros.natAbs 1000000

end Instant

/-- The time of day as `hour:minute:second`, for a number of seconds since the start of 1970. -/
def clockText (seconds : Int) : String :=
  let s := (seconds.emod 86400).toNat
  String.ofList
    (padded 2 (s / 3600) ++ ':' :: padded 2 (s / 60 % 60) ++ ':' :: padded 2 (s % 60))

/-- The date of a number of seconds since the start of 1970. -/
def dateOf (seconds : Int) : Date := civil (seconds.fdiv 86400)

/-- An instant in ISO form with milliseconds, in universal time. -/
def Instant.isoText (t : Instant) : String :=
  let s := t.seconds
  let millis := ((t.micros.emod 1000000).toNat) / 1000
  (dateOf s).text ++ "T" ++ clockText s ++ String.ofList ('.' :: padded 3 millis) ++ "Z"

/-- An instant in ISO form with its offset from universal time; a fraction of a second that is zero is
left out. -/
def Instant.offsetText (t : Instant) : String :=
  let s := t.seconds
  let micros := (t.micros.emod 1000000).toNat
  let fraction := if micros = 0 then [] else '.' :: padded 6 micros
  (dateOf s).text ++ "T" ++ clockText s ++ String.ofList fraction ++ "+00:00"

/-- The milliseconds since the start of 1970, computed in doubles and cut. -/
def Instant.millis (t : Instant) : Int := (Decimal.truncate? (t.unix * 1000)).getD 0

/-! ### Reading ISO texts -/

/-- So many digits in front, as a number, and what follows them. -/
def takeDigits (count : Nat) (s : List Char) : Option (Nat × List Char) :=
  let ds := s.take count
  if ds.length = count && ds.all Char.isDigit then some (Decimal.natOfDigits 0 ds, s.drop count)
  else none

/-- What follows a mark that has to stand in front if it is `due`. -/
def skipMark (due : Bool) (mark : Char) (s : List Char) : Option (List Char) :=
  match due, s with
  | false, s => some s
  | true, c :: rest => if c = mark then some rest else none
  | true, [] => none

/-- The number of days in a month. -/
def monthLength (year : Int) (month : Nat) : Nat :=
  let next := if month = 12 then days ⟨year + 1, 1, 1⟩ else days ⟨year, month + 1, 1⟩
  (next - days ⟨year, month, 1⟩).toNat

/-- The day on which the first week of a year begins, a Monday: that week has the fourth of January. -/
def firstMonday (year : Int) : Int :=
  let fourth := days ⟨year, 1, 4⟩
  fourth - ((weekday fourth + 6) % 7 : Nat)

/-- A day given by its week and its place in the week, Monday being the first. -/
def dayOfWeek? (year week day : Nat) : Option Int :=
  let start := firstMonday year + 7 * ((week : Int) - 1)
  if week = 0 || day = 0 || 7 < day || firstMonday (year + 1) ≤ start then none
  else some (start + day - 1)

/-- A day: year, month and day of the month, or year, week and day of the week, with hyphens between
them or without. -/
def readDay? (s : List Char) : Option (Int × List Char) := do
  let (year, s) ← takeDigits 4 s
  let hyphens := s.head? = some '-'
  let s ← skipMark hyphens '-' s
  match s with
  | 'W' :: s =>
    let (week, s) ← takeDigits 2 s
    let plain : Option (Int × List Char) := (dayOfWeek? year week 1).map fun n => (n, s)
    match skipMark hyphens '-' s with
    | none => plain
    | some rest =>
      let digits := (rest.takeWhile Char.isDigit).length
      if (hyphens && digits = 1) || (!hyphens && digits % 2 = 1) then
        let (day, rest) ← takeDigits 1 rest
        return (← dayOfWeek? year week day, rest)
      else plain
  | s =>
    let (month, s) ← takeDigits 2 s
    let s ← skipMark hyphens '-' s
    let (day, s) ← takeDigits 2 s
    if month = 0 || 12 < month || day = 0 || monthLength year month < day || year = 0 then none
    else some (days ⟨year, month, day⟩, s)

/-- Microseconds from up to six digits; further digits do not count. -/
def readFraction? (s : List Char) : Option Nat :=
  if s.isEmpty || !s.all Char.isDigit then none
  else some (Decimal.natOfDigits 0 ((s ++ List.replicate 6 '0').take 6))

/-- A time of day in microseconds: hours, minutes and seconds, the later ones left out together, and a
fraction of the second.  Colons stand between all of them or none. -/
def readTime? (s : List Char) : Option Nat := do
  let (hour, s) ← takeDigits 2 s
  if s.isEmpty then return hour * 3600000000
  let colons := s.head? = some ':'
  let (minute, s) ← takeDigits 2 (← skipMark colons ':' s)
  if s.isEmpty then return (hour * 60 + minute) * 60000000
  let (second, s) ← takeDigits 2 (← skipMark colons ':' s)
  let whole := (hour * 3600 + minute * 60 + second) * 1000000
  match s with
  | [] => return whole
  | c :: fraction => if c = '.' || c = ',' then return whole + (← readFraction? fraction) else none

/-- A time of day with an offset from universal time, as microseconds of universal time after
midnight; without an offset it is universal time. -/
def readClock? (s : List Char) : Option Int := do
  let isOffset (c : Char) : Bool := c = '+' || c = '-' || c = 'Z'
  let time : Int := (← readTime? (s.takeWhile fun c => !isOffset c))
  match s.dropWhile fun c => !isOffset c with
  | [] | ['Z'] => return time
  | '+' :: offset => return time - (← readTime? offset)
  | '-' :: offset => return time + (← readTime? offset)
  | _ => none

/-- The instant of an ISO text: a day, and after any one character a time of day with an optional
offset; a day alone begins at midnight. -/
def Instant.ofIso? (text : String) : Option Instant := do
  let (day, rest) ← readDay? text.toList
  let time ←
    match rest with
    | [] => some 0
    | _ :: clock => readClock? clock
  return ⟨day * 86400000000 + time⟩

/-- Hyphens, colons, the week and the offset are all matters of writing. -/
example : ["2024-07-01", "20240701", "2024-W27-1", "2024-07-01T00:00Z", "20240701 02+0200"].map
    Instant.ofIso? = List.replicate 5 (some ⟨1719792000000000⟩) := by decide +kernel

end ChatFlow.Calendar
