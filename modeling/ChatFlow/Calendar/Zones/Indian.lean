import ChatFlow.Calendar.Clock

/-!
# Zones of the Indian Ocean

Each zone with its names, the offsets that it has had, the changes between them,
and the rule that has been in force since.
-/

namespace ChatFlow.Calendar

/-- The zones of the Indian Ocean. -/
def indianZones : List ZoneHistory :=
  [⟨["Indian/Antananarivo"],
    [11404, 10800, 14400],
    ["zzzzz0zzzzz0fiO2g1zzzzz1T7DsD20WzMu1"],
    .steady 10800⟩,
   ⟨["Indian/Chagos"],
    [17380, 18000, 21600],
    ["zzzzz0zzzzz0W75vq1zzzzz1zzzzz1zzzzz144cFT2"],
    .steady 21600⟩,
   ⟨["Indian/Christmas"],
    [25372, 25200],
    ["zzzzz0zzzzz06fiDu1"],
    .steady 25200⟩,
   ⟨["Indian/Cocos"],
    [23260, 23400],
    ["zzzzz0zzzzz0HASFK1"],
    .steady 23400⟩,
   ⟨["Indian/Comoro"],
    [10384, 10800],
    ["zzzzz0zzzzz0fiOJ81"],
    .steady 10800⟩,
   ⟨["Indian/Kerguelen"],
    [0, 18000],
    ["zzzzz0zzzzz0zzzzz0zwzj91"],
    .steady 18000⟩,
   ⟨["Indian/Mahe"],
    [13308, 14400],
    ["zzzzz0zzzzz0W76zW1"],
    .steady 14400⟩,
   ⟨["Indian/Maldives"],
    [17640, 18000],
    ["zzzzz0zzzzz0zzzzz0zzzzz0LIrdM1"],
    .steady 18000⟩,
   ⟨["Indian/Mauritius"],
    [13800, 14400, 18000],
    ["zzzzz0zzzzz0W76ra1zzzzz1zzzzz1bpFrW20wiGm1sg1NA20toSO1"],
    .steady 14400⟩,
   ⟨["Indian/Mayotte"],
    [10856, 10800],
    ["zzzzz0zzzzz0fiOBW1"],
    .steady 10800⟩,
   ⟨["Indian/Reunion"],
    [13312, 14400],
    ["zzzzz0zzzzz0fXVFS1"],
    .steady 14400⟩]

end ChatFlow.Calendar
