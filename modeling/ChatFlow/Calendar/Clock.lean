import ChatFlow.Calendar.Date

/-!
# Clocks

How far the clocks of a zone are ahead of universal time.  A `ClockRule` says it
for all years to come; a `ZoneHistory` has, before its rule, the changes of the
past.  They are many, and so they are written in a code: each change in six
characters, five for the seconds that have passed since the change before it and
one for the offset from then on.
-/

namespace ChatFlow.Calendar

/-! ### Rules -/

/-- A moment of every year at which clocks change: the `week`-th `weekday` of the month (the fifth
being the last), so many seconds after its midnight on the clock before the change. -/
structure YearlyMoment where
  month : Nat
  week : Nat
  weekday : Nat
  seconds : Int

/-- Summer time: its offset from universal time, its start and its end. -/
structure Summer where
  offset : Int
  start : YearlyMoment
  stop : YearlyMoment

/-- The offset from universal time in seconds, and summer time where there is any. -/
structure ClockRule where
  offset : Int
  summer : Option Summer

/-- Clocks that always have the same offset. -/
def ClockRule.steady (offset : Int) : ClockRule := ⟨offset, none⟩

/-- The day on which a yearly moment falls. -/
def YearlyMoment.dayIn (m : YearlyMoment) (year : Int) : Int :=
  let first := days ⟨year, m.month, 1⟩
  let next := if m.month = 12 then days ⟨year + 1, 1, 1⟩ else days ⟨year, m.month + 1, 1⟩
  let day := first + ((m.weekday + 7 - Calendar.weekday first) % 7 : Nat) + 7 * ((m.week : Int) - 1)
  if next ≤ day then day - 7 else day

/-- The second since 1970 of a yearly moment, on a clock with the given offset. -/
def YearlyMoment.secondIn (m : YearlyMoment) (year offset : Int) : Int :=
  m.dayIn year * 86400 + m.seconds - offset

/-- The offset of a rule at a second since the start of 1970.  The year is that of universal time. -/
def ClockRule.offsetAt (r : ClockRule) (second : Int) : Int :=
  match r.summer with
  | none => r.offset
  | some s =>
    let year := (dateOf second).year
    let start := s.start.secondIn year r.offset
    let stop := s.stop.secondIn year s.offset
    let isSummer :=
      if start < stop then start ≤ second && second < stop else start ≤ second || second < stop
    if isSummer then s.offset else r.offset

/-- The clocks of adak. -/
def ClockRule.adak : ClockRule :=
  ⟨-36000, some ⟨-32400, ⟨3, 2, 0, 7200⟩, ⟨11, 1, 0, 7200⟩⟩⟩

/-- The clocks of adelaide. -/
def ClockRule.adelaide : ClockRule :=
  ⟨34200, some ⟨37800, ⟨10, 1, 0, 7200⟩, ⟨4, 1, 0, 10800⟩⟩⟩

/-- The clocks of anchorage. -/
def ClockRule.anchorage : ClockRule :=
  ⟨-32400, some ⟨-28800, ⟨3, 2, 0, 7200⟩, ⟨11, 1, 0, 7200⟩⟩⟩

/-- The clocks of athens. -/
def ClockRule.athens : ClockRule :=
  ⟨7200, some ⟨10800, ⟨3, 5, 0, 10800⟩, ⟨10, 5, 0, 14400⟩⟩⟩

/-- The clocks of auckland. -/
def ClockRule.auckland : ClockRule :=
  ⟨43200, some ⟨46800, ⟨9, 5, 0, 7200⟩, ⟨4, 1, 0, 10800⟩⟩⟩

/-- The clocks of azores. -/
def ClockRule.azores : ClockRule :=
  ⟨-3600, some ⟨0, ⟨3, 5, 0, 0⟩, ⟨10, 5, 0, 3600⟩⟩⟩

/-- The clocks of beirut. -/
def ClockRule.beirut : ClockRule :=
  ⟨7200, some ⟨10800, ⟨3, 5, 0, 0⟩, ⟨10, 5, 0, 0⟩⟩⟩

/-- The clocks of cairo. -/
def ClockRule.cairo : ClockRule :=
  ⟨7200, some ⟨10800, ⟨4, 5, 5, 0⟩, ⟨10, 5, 4, 86400⟩⟩⟩

/-- The clocks of chatham. -/
def ClockRule.chatham : ClockRule :=
  ⟨45900, some ⟨49500, ⟨9, 5, 0, 9900⟩, ⟨4, 1, 0, 13500⟩⟩⟩

/-- The clocks of chicago. -/
def ClockRule.chicago : ClockRule :=
  ⟨-21600, some ⟨-18000, ⟨3, 2, 0, 7200⟩, ⟨11, 1, 0, 7200⟩⟩⟩

/-- The clocks of denver. -/
def ClockRule.denver : ClockRule :=
  ⟨-25200, some ⟨-21600, ⟨3, 2, 0, 7200⟩, ⟨11, 1, 0, 7200⟩⟩⟩

/-- The clocks of easterIsland. -/
def ClockRule.easterIsland : ClockRule :=
  ⟨-21600, some ⟨-18000, ⟨9, 1, 6, 79200⟩, ⟨4, 1, 6, 79200⟩⟩⟩

/-- The clocks of gaza. -/
def ClockRule.gaza : ClockRule :=
  ⟨7200, some ⟨10800, ⟨3, 4, 4, 180000⟩, ⟨10, 4, 4, 180000⟩⟩⟩

/-- The clocks of halifax. -/
def ClockRule.halifax : ClockRule :=
  ⟨-14400, some ⟨-10800, ⟨3, 2, 0, 7200⟩, ⟨11, 1, 0, 7200⟩⟩⟩

/-- The clocks of havana. -/
def ClockRule.havana : ClockRule :=
  ⟨-18000, some ⟨-14400, ⟨3, 2, 0, 0⟩, ⟨11, 1, 0, 3600⟩⟩⟩

/-- The clocks of jerusalem. -/
def ClockRule.jerusalem : ClockRule :=
  ⟨7200, some ⟨10800, ⟨3, 4, 4, 93600⟩, ⟨10, 5, 0, 7200⟩⟩⟩

/-- The clocks of london. -/
def ClockRule.london : ClockRule :=
  ⟨0, some ⟨3600, ⟨3, 5, 0, 3600⟩, ⟨10, 5, 0, 7200⟩⟩⟩

/-- The clocks of lordHowe. -/
def ClockRule.lordHowe : ClockRule :=
  ⟨37800, some ⟨39600, ⟨10, 1, 0, 7200⟩, ⟨4, 1, 0, 7200⟩⟩⟩

/-- The clocks of losAngeles. -/
def ClockRule.losAngeles : ClockRule :=
  ⟨-28800, some ⟨-25200, ⟨3, 2, 0, 7200⟩, ⟨11, 1, 0, 7200⟩⟩⟩

/-- The clocks of miquelon. -/
def ClockRule.miquelon : ClockRule :=
  ⟨-10800, some ⟨-7200, ⟨3, 2, 0, 7200⟩, ⟨11, 1, 0, 7200⟩⟩⟩

/-- The clocks of newYork. -/
def ClockRule.newYork : ClockRule :=
  ⟨-18000, some ⟨-14400, ⟨3, 2, 0, 7200⟩, ⟨11, 1, 0, 7200⟩⟩⟩

/-- The clocks of norfolk. -/
def ClockRule.norfolk : ClockRule :=
  ⟨39600, some ⟨43200, ⟨10, 1, 0, 7200⟩, ⟨4, 1, 0, 10800⟩⟩⟩

/-- The clocks of nuuk. -/
def ClockRule.nuuk : ClockRule :=
  ⟨-7200, some ⟨-3600, ⟨3, 5, 0, -3600⟩, ⟨10, 5, 0, 0⟩⟩⟩

/-- The clocks of paris. -/
def ClockRule.paris : ClockRule :=
  ⟨3600, some ⟨7200, ⟨3, 5, 0, 7200⟩, ⟨10, 5, 0, 10800⟩⟩⟩

/-- The clocks of saintJohns. -/
def ClockRule.saintJohns : ClockRule :=
  ⟨-12600, some ⟨-9000, ⟨3, 2, 0, 7200⟩, ⟨11, 1, 0, 7200⟩⟩⟩

/-- The clocks of santiago. -/
def ClockRule.santiago : ClockRule :=
  ⟨-14400, some ⟨-10800, ⟨9, 1, 6, 86400⟩, ⟨4, 1, 6, 86400⟩⟩⟩

/-- The clocks of sydney. -/
def ClockRule.sydney : ClockRule :=
  ⟨36000, some ⟨39600, ⟨10, 1, 0, 7200⟩, ⟨4, 1, 0, 10800⟩⟩⟩

/-- The clocks of troll. -/
def ClockRule.troll : ClockRule :=
  ⟨0, some ⟨7200, ⟨3, 5, 0, 3600⟩, ⟨10, 5, 0, 10800⟩⟩⟩

/-! ### Histories -/

/-- A zone with its names, the offsets that it has had, its changes in the code, and the rule that is in
force after them.  Before the first change the first offset holds. -/
structure ZoneHistory where
  names : List String
  offsets : List Int
  changes : List String
  rule : ClockRule

/-- The second from which the first change of a zone is counted. -/
def firstSecond : Int := -4294967296

/-- The value of a character of the code: digits, capitals and small letters in this order. -/
def codeValue (c : Char) : Nat :=
  if c.isDigit then c.toNat - 48 else if c.isUpper then c.toNat - 55 else c.toNat - 61

/-- The number that some characters of the code make. -/
def codeNumber (cs : List Char) : Nat := cs.foldl (fun n c => n * 62 + codeValue c) 0

/-- The changes of a code, each with its second and the place of its offset; `last` is the second of
the change before. -/
def readChanges (last : Int) : List Char → List (Int × Nat)
  | a :: b :: c :: d :: e :: offset :: rest =>
    let second := last + codeNumber [a, b, c, d, e]
    (second, codeValue offset) :: readChanges second rest
  | _ => []

/-- The place of the offset in force at a second, by the changes that come after `place`; none if all
changes have passed. -/
def placeAt (second : Int) (place : Nat) : List (Int × Nat) → Option Nat
  | [] => none
  | (moment, next) :: rest =>
    if second < moment then some place
    else if second = moment then some next
    else placeAt second next rest

/-- The offset of a zone at a second since the start of 1970. -/
def ZoneHistory.offsetAt (z : ZoneHistory) (second : Int) : Int :=
  match placeAt second 0 (readChanges firstSecond (z.changes.flatMap String.toList)) with
  | some place => z.offsets.getD place 0
  | none => z.rule.offsetAt second

end ChatFlow.Calendar
