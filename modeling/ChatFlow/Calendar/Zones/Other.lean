import ChatFlow.Calendar.Clock

/-!
# Zones that belong to no place

Each zone with its names, the offsets that it has had, the changes between them,
and the rule that has been in force since.
-/

namespace ChatFlow.Calendar

/-- The zones that belong to no place. -/
def otherZones : List ZoneHistory :=
  [⟨["CET", "MET"],
    [3600, 7200],
    ["zzzzz0zzzzz0q2cmw10tTqy019RlA10tpOS01E85A10tpOS0k0Lmi15WaNE00rI3c116W4e013yjo113yjo013yjo1",
     "0yXaa0zzzzz05N1EX111ROy016W4e113yjo013yjo113yjo016W4e111ROy013yjo113yjo013yjo113yjo013yjo1",
     "13yjo013yjo116W4e013yjo113yjo013yjo113yjo013yjo113yjo013yjo113yjo013yjo113yjo013yjo116W4e0",
     "13yjo113yjo013yjo113yjo013yjo113yjo013yjo113yjo013yjo113yjo016W4e1"],
    .paris⟩,
   ⟨["CST6CDT"],
    [-21600, -18000],
    ["zzzzz0zzzzz0u8BHu11E79600tqKW11E7960lbhJ217lmRk0k5ROS113xnk013zfs113xnk013zfs113xnk013zfs1",
     "13xnk013zfs116V8a013zfs113xnk013zfs113xnk00POIS11iZBA00h9eK11QnpI013zfs116V8a011SL2116V8a0",
     "13zfs113xnk013zfs113xnk013zfs113xnk013zfs113xnk013zfs116V8a011SL2116V8a013zfs113xnk013zfs1",
     "13xnk013zfs113xnk00wNfM11BZoG00wNfM11E79600tqKW11E79600tqKW11E79600wNfM11BZoG00wNfM11BZoG0",
     "0wNfM11E79600tqKW11E79600tqKW11E79600wNfM11BZoG00wNfM11BZoG00wNfM11BZoG00wNfM11E79600tqKW1",
     "1E79600tqKW11E79600wNfM11BZoG00wNfM11BZoG00wNfM11E79600tqKW11E79600tqKW11E79600mEK01"],
    .chicago⟩,
   ⟨["EET"],
    [7200, 10800],
    ["zzzzz0zzzzz0zzzzz0zzzzz0w9abs111ROy016W4e113yjo013yjo113yjo016W4e111ROy013yjo113yjo013yjo1",
     "13yjo013yjo113yjo013yjo116W4e013yjo113yjo013yjo113yjo013yjo113yjo013yjo113yjo013yjo113yjo0",
     "13yjo116W4e013yjo113yjo013yjo113yjo013yjo113yjo013yjo113yjo013yjo113yjo016W4e1"],
    .athens⟩,
   ⟨["EST", "Etc/GMT+5"],
    [-18000],
    [],
    .steady (-18000)⟩,
   ⟨["EST5EDT"],
    [-18000, -14400],
    ["zzzzz0zzzzz0u8ALq11E79600tqKW11E7960lbhJ217lmRk0k5ROS113xnk013zfs113xnk013zfs113xnk013zfs1",
     "13xnk013zfs116V8a013zfs113xnk013zfs113xnk00POIS11iZBA00h9eK11QnpI013zfs116V8a011SL2116V8a0",
     "13zfs113xnk013zfs113xnk013zfs113xnk013zfs113xnk013zfs116V8a011SL2116V8a013zfs113xnk013zfs1",
     "13xnk013zfs113xnk00wNfM11BZoG00wNfM11E79600tqKW11E79600tqKW11E79600wNfM11BZoG00wNfM11BZoG0",
     "0wNfM11E79600tqKW11E79600tqKW11E79600wNfM11BZoG00wNfM11BZoG00wNfM11BZoG00wNfM11E79600tqKW1",
     "1E79600tqKW11E79600wNfM11BZoG00wNfM11BZoG00wNfM11E79600tqKW11E79600tqKW11E79600mEK01"],
    .newYork⟩,
   ⟨["Etc/GMT", "Etc/GMT+0", "Etc/GMT-0", "Etc/GMT0", "Etc/Greenwich", "Etc/UCT", "Etc/UTC",
     "Etc/Universal", "Etc/Zulu", "Factory", "GMT", "GMT+0", "GMT-0", "GMT0", "Greenwich", "UCT",
     "UTC", "Universal", "Zulu", "localtime"],
    [0],
    [],
    .steady 0⟩,
   ⟨["Etc/GMT+1"],
    [-3600],
    [],
    .steady (-3600)⟩,
   ⟨["Etc/GMT+10", "HST"],
    [-36000],
    [],
    .steady (-36000)⟩,
   ⟨["Etc/GMT+11"],
    [-39600],
    [],
    .steady (-39600)⟩,
   ⟨["Etc/GMT+12"],
    [-43200],
    [],
    .steady (-43200)⟩,
   ⟨["Etc/GMT+2"],
    [-7200],
    [],
    .steady (-7200)⟩,
   ⟨["Etc/GMT+3"],
    [-10800],
    [],
    .steady (-10800)⟩,
   ⟨["Etc/GMT+4"],
    [-14400],
    [],
    .steady (-14400)⟩,
   ⟨["Etc/GMT+6"],
    [-21600],
    [],
    .steady (-21600)⟩,
   ⟨["Etc/GMT+7", "MST"],
    [-25200],
    [],
    .steady (-25200)⟩,
   ⟨["Etc/GMT+8"],
    [-28800],
    [],
    .steady (-28800)⟩,
   ⟨["Etc/GMT+9"],
    [-32400],
    [],
    .steady (-32400)⟩,
   ⟨["Etc/GMT-1"],
    [3600],
    [],
    .steady 3600⟩,
   ⟨["Etc/GMT-10"],
    [36000],
    [],
    .steady 36000⟩,
   ⟨["Etc/GMT-11"],
    [39600],
    [],
    .steady 39600⟩,
   ⟨["Etc/GMT-12"],
    [43200],
    [],
    .steady 43200⟩,
   ⟨["Etc/GMT-13"],
    [46800],
    [],
    .steady 46800⟩,
   ⟨["Etc/GMT-14"],
    [50400],
    [],
    .steady 50400⟩,
   ⟨["Etc/GMT-2"],
    [7200],
    [],
    .steady 7200⟩,
   ⟨["Etc/GMT-3"],
    [10800],
    [],
    .steady 10800⟩,
   ⟨["Etc/GMT-4"],
    [14400],
    [],
    .steady 14400⟩,
   ⟨["Etc/GMT-5"],
    [18000],
    [],
    .steady 18000⟩,
   ⟨["Etc/GMT-6"],
    [21600],
    [],
    .steady 21600⟩,
   ⟨["Etc/GMT-7"],
    [25200],
    [],
    .steady 25200⟩,
   ⟨["Etc/GMT-8"],
    [28800],
    [],
    .steady 28800⟩,
   ⟨["Etc/GMT-9"],
    [32400],
    [],
    .steady 32400⟩,
   ⟨["MST7MDT"],
    [-25200, -21600],
    ["zzzzz0zzzzz0u8CDy11E79600tqKW11E7960lbhJ217lmRk0k5ROS113xnk013zfs113xnk013zfs113xnk013zfs1",
     "13xnk013zfs116V8a013zfs113xnk013zfs113xnk00POIS11iZBA00h9eK11QnpI013zfs116V8a011SL2116V8a0",
     "13zfs113xnk013zfs113xnk013zfs113xnk013zfs113xnk013zfs116V8a011SL2116V8a013zfs113xnk013zfs1",
     "13xnk013zfs113xnk00wNfM11BZoG00wNfM11E79600tqKW11E79600tqKW11E79600wNfM11BZoG00wNfM11BZoG0",
     "0wNfM11E79600tqKW11E79600tqKW11E79600wNfM11BZoG00wNfM11BZoG00wNfM11BZoG00wNfM11E79600tqKW1",
     "1E79600tqKW11E79600wNfM11BZoG00wNfM11BZoG00wNfM11E79600tqKW11E79600tqKW11E79600mEK01"],
    .denver⟩,
   ⟨["PST8PDT"],
    [-28800, -25200],
    ["zzzzz0zzzzz0u8DA211E79600tqKW11E7960lbhJ217lmRk0k5ROS113xnk013zfs113xnk013zfs113xnk013zfs1",
     "13xnk013zfs116V8a013zfs113xnk013zfs113xnk00POIS11iZBA00h9eK11QnpI013zfs116V8a011SL2116V8a0",
     "13zfs113xnk013zfs113xnk013zfs113xnk013zfs113xnk013zfs116V8a011SL2116V8a013zfs113xnk013zfs1",
     "13xnk013zfs113xnk00wNfM11BZoG00wNfM11E79600tqKW11E79600tqKW11E79600wNfM11BZoG00wNfM11BZoG0",
     "0wNfM11E79600tqKW11E79600tqKW11E79600wNfM11BZoG00wNfM11BZoG00wNfM11BZoG00wNfM11E79600tqKW1",
     "1E79600tqKW11E79600wNfM11BZoG00wNfM11BZoG00wNfM11E79600tqKW11E79600tqKW11E79600mEK01"],
    .losAngeles⟩,
   ⟨["WET"],
    [0, 3600],
    ["zzzzz0zzzzz0zzzzz0zzzzz0w9abs111ROy016W4e113yjo013yjo113yjo016W4e111ROy013yjo113yjo013yjo1",
     "13yjo013yjo113yjo013yjo116W4e013yjo113yjo013yjo113yjo013yjo113yjo013yjo113yjo013yjo113yjo0",
     "13yjo116W4e013yjo113yjo013yjo113yjo013yjo113yjo013yjo113yjo013yjo113yjo016W4e1"],
    .london⟩]

end ChatFlow.Calendar
