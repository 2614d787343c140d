import ChatFlow.Calendar.Zones.Africa
import ChatFlow.Calendar.Zones.America
import ChatFlow.Calendar.Zones.Antarctica
import ChatFlow.Calendar.Zones.Asia
import ChatFlow.Calendar.Zones.Atlantic
import ChatFlow.Calendar.Zones.Australia
import ChatFlow.Calendar.Zones.Europe
import ChatFlow.Calendar.Zones.Indian
import ChatFlow.Calendar.Zones.Other
import ChatFlow.Calendar.Zones.Pacific

/-!
# Local time

The offset of a named zone at an instant.  A zone that nobody knows keeps
universal time.
-/

namespace ChatFlow.Calendar

/-- The zones of all regions. -/
def regions : List (List ZoneHistory) :=
  [africaZones, americaZones, antarcticaZones, asiaZones, atlanticZones, australiaZones, europeZones,
   indianZones, pacificZones, otherZones]

/-- The zone of a name. -/
def zone? (name : String) : Option ZoneHistory :=
  regions.findSome? fun zones => zones.find? fun z => z.names.contains name

/-- The offset of a zone from universal time in seconds; an unknown zone has none. -/
def offsetAt (zone : String) (second : Int) : Int :=
  match zone? zone with
  | some z => z.offsetAt second
  | none => 0

end ChatFlow.Calendar
