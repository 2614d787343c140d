import ChatFlow.Calendar.Clock

/-!
# Zones of the Pacific

Each zone with its names, the offsets that it has had, the changes between them,
and the rule that has been in force since.
-/

namespace ChatFlow.Calendar

/-- The zones of the Pacific. -/
def pacificZones : List ZoneHistory :=
  [⟨["Chile/EasterIsland", "Pacific/Easter"],
    [-26248, -25200, -21600, -18000],
    ["zzzzz0zzzzz0zzzzz0OvxHf1zzzzz1FFdaD20rH7Y11OIMa20jf721194LY20toSO11E91E20toSO11GgM420rH7Y1",
     "1BbgO20wLnE11GgM420rH7Y11GgM420toSO11E91E20toSO11E91E20toSO11GgM420rH7Y11GgM420rH7Y11GgM42",
     "0toSO11E91E227xTc30toSO21E91E30toSO21GgM430rH7Y21GgM430rH7Y21GgM4313xnk213zfs30toSO21E91E3",
     "0toSO21GgM430rH7Y216X0i311QSu21GgM430toSO21E91E30toSO21E91E30toSO21E91E30toSO21GgM430rH7Y2",
     "1GgM430yt842194LY30toSO2194LY316V8a216X0i30toSO21GgM430rH7Y21GgM430rH7Y21GgM430rH7Y21GgM43",
     "0toSO21E91E30toSO21E91E30toSO21GgM430rH7Y21GgM430yt842194LY30toSO21E91E311QSu216X0i31E7962",
     "0c4ye31TLA820jgzA31OGUS20mEK031Lj9c20mEK033bIdk20X0Iy31axAe20X0Iy31axAe20X0Iy31OGUS20tqKW3",
     "1E79620tqKW31E79620tqKW31E79620wNfM3"],
    .easterIsland⟩,
   ⟨["Kwajalein", "Pacific/Kwajalein"],
    [40160, 39600, 36000, 32400, -43200, 43200],
    ["zzzzz0zzzzz0JIhnu1zzzzz1Esqmn294I7c365P3w1smTGi4p1NlA5"],
    .steady 43200⟩,
   ⟨["NZ", "Pacific/Auckland"],
    [41944, 41400, 45000, 43200, 46800],
    ["zzzzz0Cc6sD1zzzzz1zzzzz121BPm20h7mC11JDgu30tovQ11E8YC30tovQ11E8YC30tovQ11E8YC30wMGG11BbDM3",
     "0wMGG11BbDM31BaHI10tprU31E7c810tprU31E7c810tprU31E7c810tprU31E7c810tprU31Gewy10rIWe31Gewy1",
     "0tprU3zzzzz3AoWT340ebNQ31QolM40mDNw31OHQW40jg3631OHQW40jg3631OHQW40jg3631OHQW40jg3631OHQW4",
     "0jg3631OHQW40mDNw31OHQW40jg3631OHQW40jg3631OHQW40jg3631OHQW40jg3631OHQW40jg3631OHQW40mDNw3",
     "1OHQW40jg3631GfQ040wMjI31BakK40wMjI31BakK40wMjI31BakK40yu483193PU40yu483193PU40yu483193PU4",
     "0yu4831BakK40wMjI31BakK40wMjI31BakK40yu483193PU40yu483193PU40yu4831BakK40wMjI31BakK40wMjI3",
     "1BakK40yu483193PU40yu483193PU40yu483193PU40yu483193PU4"],
    .auckland⟩,
   ⟨["NZ-CHAT", "Pacific/Chatham"],
    [44028, 44100, 45900, 49500],
    ["zzzzz0Cc6Kb1zzzzz1zzzzz1en3d42zaVzo30ebNQ21QolM30mDNw21OHQW30jg3621OHQW30jg3621OHQW30jg362",
     "1OHQW30jg3621OHQW30jg3621OHQW30mDNw21OHQW30jg3621OHQW30jg3621OHQW30jg3621OHQW30jg3621OHQW3",
     "0jg3621OHQW30mDNw21OHQW30jg3621GfQ030wMjI21BakK30wMjI21BakK30wMjI21BakK30yu482193PU30yu482",
     "193PU30yu482193PU30yu4821BakK30wMjI21BakK30wMjI21BakK30yu482193PU30yu482193PU30yu4821BakK3",
     "0wMjI21BakK30wMjI21BakK30yu482193PU30yu482193PU30yu482193PU30yu482193PU3"],
    .chatham⟩,
   ⟨["Pacific/Apia"],
    [45184, -41216, -41400, -39600, -36000, 50400, 46800],
    ["zzzzz0zzzzz01AUbK1dUUro2zzzzz2LIB1l3zzzzz3zzzzz35htes416CPI311ROy40Z6Tw50XPai613yjo516W4e6",
     "11ROy516W4e611ROy516W4e611ROy516W4e611ROy516W4e611ROy516W4e613yjo516W4e611ROy516W4e611ROy5",
     "16W4e6"],
    .steady 46800⟩,
   ⟨["Pacific/Bougainville"],
    [37336, 35312, 36000, 32400, 39600],
    ["zzzzz0aS97J1W2HkG2zzzzz2dQjAn36hpa42zzzzz2zzzzz2O79MI4"],
    .steady 39600⟩,
   ⟨["Pacific/Chuuk", "Pacific/Truk", "Pacific/Yap"],
    [-49972, 36428, 36000, 32400],
    ["Nhz8u1zzzzz1vajdB2TMF3M39GFqi2lKd2839FtNA2"],
    .steady 36000⟩,
   ⟨["Pacific/Efate"],
    [40396, 39600, 43200],
    ["zzzzz0zzzzz0grJuY1zzzzz1zzzzz18I83420ZWhk1KGAJE213xnk113zfs213xnk116X0i211QSu116X0i213xnk1",
     "13zfs213xnk113zfs213xnk113zfs213xnk113zfs213xnk116X0i20h7mC11az2m20WyQq1"],
    .steady 39600⟩,
   ⟨["Pacific/Enderbury", "Pacific/Kanton"],
    [0, -43200, -39600, 46800],
    ["zzzzz0zzzzz0zzzzz0ZbSE71zzzzz1RsYr32WZFeS3"],
    .steady 46800⟩,
   ⟨["Pacific/Fakaofo"],
    [-41096, -39600, 46800],
    ["zzzzz0zzzzz0JJ2wU1zzzzz1zzzzz1zzzzz1p2mRX2"],
    .steady 46800⟩,
   ⟨["Pacific/Fiji"],
    [42944, 43200, 46800],
    ["zzzzz0zzzzz0owJtK1zzzzz1zzzzz1rIWsE20h8iG11TM6C20ebNQ1Kpg4u20h8iG11E85A20mDNw11Lk5g20WzMu1",
     "1ay6i20WzMu11dVRY20UR6011g3iS20RuhE11g2mO20RuhE11ia7E20PNMO11ia7E20PNMO11ia7E20PNMO11l7S42",
     "0Mq1Y120LT620A9LM1"],
    .steady 43200⟩,
   ⟨["Pacific/Funafuti"],
    [43012, 43200],
    ["zzzzz0zzzzz0JIh3u1"],
    .steady 43200⟩,
   ⟨["Pacific/Galapagos"],
    [-21504, -18000, -21600],
    ["zzzzz0zzzzz0zzzzz0LN9oB1zzzzz1tSlF32EkfMe10Ozwm2"],
    .steady (-21600)⟩,
   ⟨["Pacific/Gambier"],
    [-32388, -32400],
    ["zzzzz0zzzzz0iObiA1"],
    .steady (-32400)⟩,
   ⟨["Pacific/Guadalcanal"],
    [38388, 39600],
    ["zzzzz0zzzzz0iOJIc1"],
    .steady 39600⟩,
   ⟨["Pacific/Guam"],
    [-51660, 34740, 36000, 32400, 39600],
    ["Nhza81zzzzz1vajdB2zzzzz2PQq4j35dUMi2VpbTU43OyR62E4FbU42zvh620rKqq40PMQK21OIMa40mCRs21Ll1k4",
     "0mCRs24rzvs40PMQK24o0gq40Vt1A21QpgS40jf722"],
    .steady 36000⟩,
   ⟨["Pacific/Honolulu", "Pacific/Johnston", "US/Hawaii"],
    [-37886, -37800, -34200, -36000],
    ["zzzzz0zzzzz08haoi1zzzzz1HdoCZ207kR61Icrya27lmRk13bKVs3"],
    .steady (-36000)⟩,
   ⟨["Pacific/Kiritimati"],
    [-37760, -38400, -36000, 50400],
    ["zzzzz0zzzzz0JJ24g1zzzzz1zzzzz1iAxl42WZFxo3"],
    .steady 50400⟩,
   ⟨["Pacific/Kosrae"],
    [-47284, 39116, 39600, 32400, 36000, 43200],
    ["NhyRY1zzzzz1vajdB2TMEoe39GGmm2cGKuW494I7c39FtNA2pbyxU5zzzzz50TCuv2"],
    .steady 39600⟩,
   ⟨["Pacific/Majuro"],
    [41088, 39600, 32400, 36000, 43200],
    ["zzzzz0zzzzz0JIhYw1TMFKS29GGmm1cGKuW394I7c262rj61sp0bY4"],
    .steady 43200⟩,
   ⟨["Pacific/Marquesas"],
    [-33480, -34200],
    ["zzzzz0zzzzz0iObzm1"],
    .steady (-34200)⟩,
   ⟨["Pacific/Midway"],
    [-42568, -39600, -36000],
    ["zzzzz0zzzzz0JJ3KE1zzzzz1uMEIb20WyQq1"],
    .steady (-39600)⟩,
   ⟨["Pacific/Nauru"],
    [40060, 41400, 32400, 43200],
    ["zzzzz0zzzzz0zzzzz0061yB1kAUmS26SzRg1zzzzz19Nhhh3"],
    .steady 43200⟩,
   ⟨["Pacific/Niue"],
    [-40780, -40800, -39600],
    ["zzzzz0zzzzz0zzzzz0zzzzz05uZyi1P09tE2"],
    .steady (-39600)⟩,
   ⟨["Pacific/Norfolk"],
    [40312, 40320, 41400, 45000, 39600, 43200],
    ["zzzzz0zzzzz0JIhlS1zzzzz1imRQX2orztg30jg362zzzzz2OgnsP48YNiK5"],
    .norfolk⟩,
   ⟨["Pacific/Noumea"],
    [39948, 39600, 43200],
    ["zzzzz0zzzzz0grK1m1zzzzz1zzzzz1Giu6g20UnZY11d9u420VA361bvkQa20WzMu1"],
    .steady 39600⟩,
   ⟨["Pacific/Pago_Pago", "Pacific/Samoa", "US/Samoa"],
    [45432, -40968, -39600],
    ["zzzzz0zzzzz01AUXK1dUUro2"],
    .steady (-39600)⟩,
   ⟨["Pacific/Palau"],
    [-54124, 32276, 32400],
    ["Ni0Ds1zzzzz1vajdB2"],
    .steady 32400⟩,
   ⟨["Pacific/Pitcairn"],
    [-31220, -30600, -28800],
    ["zzzzz0zzzzz0JJ0NC1zzzzz1zzzzz1zzzzz1Lpy7T2"],
    .steady (-28800)⟩,
   ⟨["Pacific/Pohnpei", "Pacific/Ponape"],
    [-48428, 37972, 39600, 32400, 36000],
    ["Nhyk01zzzzz1vajdB2TMEWC39GGmm2cGKuW494I7c39FtNA2"],
    .steady 39600⟩,
   ⟨["Pacific/Port_Moresby"],
    [35320, 35312, 36000],
    ["zzzzz0aS9dp1W2HDk2"],
    .steady 36000⟩,
   ⟨["Pacific/Rarotonga"],
    [48056, -38344, -37800, -34200, -36000],
    ["zzzzz0zzzzz0H8Aw61zzzzz1omOPJ2tgKOW30eaRM41OHtY30jfa441OHtY30jfa441OHtY30mCuu41OHtY30jfa44",
     "1OHtY30jfa441OHtY30jfa441OHtY30jfa441OHtY30jfa441OHtY30mCuu41OHtY30jfa441OHtY30jfa441OHtY3",
     "0jfa44"],
    .steady (-36000)⟩,
   ⟨["Pacific/Saipan"],
    [-51420, 34980, 32400, 36000, 39600],
    ["NhzWG1zzzzz1vajdB2zzzzz2UwM1F3VxZxY43OyR63E4FbU42zvh630rKqq40PMQK31OIMa40mCRs31Ll1k40mCRs3",
     "4rzvs40PMQK34o0gq40Vt1A31QpgS40jf723"],
    .steady 36000⟩,
   ⟨["Pacific/Tahiti"],
    [-35896, -36000],
    ["zzzzz0zzzzz0iOcck1"],
    .steady (-36000)⟩,
   ⟨["Pacific/Tarawa"],
    [41524, 43200],
    ["zzzzz0zzzzz0JIhRu1"],
    .steady 43200⟩,
   ⟨["Pacific/Tongatapu"],
    [44352, 44400, 46800, 50400],
    ["zzzzz0zzzzz0zzzzz0qkC2d1WhF3o2zzzzz2KmelV30xS9w21Lk5g30UR6021dWNc30UR602VYZ4i30PNMO2"],
    .steady 46800⟩,
   ⟨["Pacific/Wake"],
    [39988, 43200],
    ["zzzzz0zzzzz0JIhqg1"],
    .steady 43200⟩,
   ⟨["Pacific/Wallis"],
    [44120, 43200],
    ["zzzzz0zzzzz0JIgm21"],
    .steady 43200⟩]

end ChatFlow.Calendar
