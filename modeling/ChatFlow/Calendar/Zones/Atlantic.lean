import ChatFlow.Calendar.Clock

/-!
# Zones of the Atlantic

Each zone with its names, the offsets that it has had, the changes between them,
and the rule that has been in force since.
-/

namespace ChatFlow.Calendar

/-- The zones of the Atlantic. -/
def atlanticZones : List ZoneHistory :=
  [⟨["Arctic/Longyearbyen", "Atlantic/Jan_Mayen", "Europe/Oslo"],
    [2580, 3600, 7200],
    ["zzzzz0zzzzz06UZNW1jfhI420lSYi1oxlvk24kmH210rI3c216W4e113yjo213yjo113yjo213yjo1Sj5TE216W4e1",
     "13yjo213yjo113yjo213yjo113yjo213yjo113yjo213yjo113yjo216W4e11GfQ020rI3c1V466a211ROy113yjo2",
     "13yjo113yjo213yjo113yjo213yjo113yjo216W4e113yjo213yjo113yjo213yjo113yjo213yjo113yjo213yjo1",
     "13yjo213yjo113yjo216W4e113yjo213yjo113yjo213yjo113yjo213yjo113yjo213yjo113yjo213yjo116W4e2"],
    .paris⟩,
   ⟨["Atlantic/Azores"],
    [-6160, -6872, -7200, -3600, 0, 3600],
    ["zzzzz0izyj31xnBqa29Wtto30nJke20hVBo31Kdiy20ngEC31Kdiy20ngEC31Kdiy20o2hk31Kdiy20ngEC31Kdiy2",
     "5Li4m30zzUm23H0t630yu48216W4e311ROy2193PU311ROy2193PU30yu4823H0t630yu48213yjo313yjo23ETYG3",
     "13yjo211ROy316W4e2193PU30yu48213yjo313yjo211ROy316W4e2193PU31GfQ020ZWhk31Jvhw213Fmi314LDM2",
     "0w0Fk30FD4y40ebNQ30POIS20okim30Cfk840mDNw30Mqxc20mDNw30FD4y40jg3630Mqxc20mDNw30FD4y40jg363",
     "0Mqxc20wMjI313yjo2141Y0313yjo213yjo313yjo213yjo313yjo213yjo313yjo213yjo316W4e213yjo313yjo2",
     "13yjo313yjo213yjo313yjo213yjo313yjo213yjo316W4e213yjo313yjo213yjo313yjo213yjo313yjo213yjo3",
     "13yjo213yjo313yjo213yjo316W4e213yjo313yjo213yjo313yjo213yjo313yjo213yjo3Y8NVI413yjo313yjo4",
     "13yjo313yjo416W4e313yjo413yjo313yjo413yjo313yjo413yjo313yjo413yjo313yjo413yjo313yjo416W4e3",
     "13yjo413yjo313yjo413yjo30X0Iy40WyQq50TMbQ40ac8O313yjo413yjo313yjo413yjo316W4e4"],
    .azores⟩,
   ⟨["Atlantic/Bermuda"],
    [-15558, -11958, -14400, -10800],
    ["zzzzz0zzzzz0s1ykS112VtY018hs010uAvw0O7SjI2PgZLO31dUVU20tqKW31JBom20mEK031OGUS20jgzA31OGUS2",
     "3H1pA30h7mC21TN2G30c36W21VuN630c36W21YRhw30ZVlg21YRhw30ZVlg21YRhw30c36W27wK8m30toSO2bMuno3",
     "13xnk213zfs313xnk213zfs316V8a211SL2316V8a213zfs313xnk213zfs313xnk213zfs313xnk213zfs313xnk2",
     "13zfs316V8a211SL2316V8a213zfs313xnk213zfs313xnk213zfs313xnk20wNfM31BZoG20wNfM31E79620tqKW3",
     "1E79620tqKW31E79620wNfM31BZoG20wNfM31BZoG20wNfM31E79620tqKW31E79620tqKW31E79620wNfM31BZoG2",
     "0wNfM31BZoG20wNfM31BZoG20wNfM31E79620tqKW31E79620tqKW31E79620wNfM31BZoG20wNfM31BZoG20wNfM3",
     "1E79620tqKW31E79620tqKW31E79620mEK03"],
    .halifax⟩,
   ⟨["Atlantic/Canary"],
    [-3696, -3600, 0, 3600],
    ["zzzzz0zzzzz0zzzzz02Uqkl1qV8BU2zzzzz29a0VF311SL2213yjo313yjo213yjo313yjo213yjo313yjo213yjo3",
     "16W4e213yjo313yjo213yjo313yjo213yjo313yjo213yjo313yjo213yjo313yjo213yjo316W4e213yjo313yjo2",
     "13yjo313yjo213yjo313yjo213yjo313yjo213yjo313yjo216W4e3"],
    .london⟩,
   ⟨["Atlantic/Cape_Verde"],
    [-5644, -7200, -3600],
    ["zzzzz0zzzzz0gnAZe1zzzzz13UeFV26fGN61zzzzz12J6JN2"],
    .steady (-3600)⟩,
   ⟨["Atlantic/Faeroe", "Atlantic/Faroe"],
    [-1624, 0, 3600],
    ["zzzzz0zzzzz0YJ7b01zzzzz1zzzzz1WMIvK213yjo113yjo213yjo113yjo213yjo113yjo216W4e113yjo213yjo1",
     "13yjo213yjo113yjo213yjo113yjo213yjo113yjo213yjo113yjo216W4e113yjo213yjo113yjo213yjo113yjo2",
     "13yjo113yjo213yjo113yjo213yjo116W4e2"],
    .london⟩,
   ⟨["Atlantic/Madeira"],
    [-4056, -3600, 0, 3600],
    ["zzzzz0zzzzz0gn9da19Wtto20nJke10hVBo21Kdiy10ngEC21Kdiy10ngEC21Kdiy10o2hk21Kdiy10ngEC21Kdiy1",
     "5Li4m20zzUm13H0t620yu48116W4e211ROy1193PU211ROy1193PU20yu4813H0t620yu48113yjo213yjo13ETYG2",
     "13yjo111ROy216W4e1193PU20yu48113yjo213yjo111ROy216W4e1193PU21GfQ010ZWhk21Jvhw113Fmi214LDM1",
     "0w0Fk20FD4y30ebNQ20POIS10okim20Cfk830mDNw20Mqxc10mDNw20FD4y30jg3620Mqxc10mDNw20FD4y30jg362",
     "0Mqxc10wMjI213yjo1141Y0213yjo113yjo213yjo113yjo213yjo113yjo213yjo113yjo216W4e113yjo213yjo1",
     "13yjo213yjo113yjo213yjo113yjo213yjo113yjo216W4e113yjo213yjo113yjo213yjo113yjo213yjo113yjo2",
     "13yjo113yjo213yjo113yjo216W4e113yjo213yjo113yjo213yjo113yjo213yjo113yjo2YAuq8311ROy213yjo3",
     "13yjo213yjo316W4e213yjo313yjo213yjo313zfs213yjo313yjo213yjo313yjo213yjo313yjo213yjo316W4e2",
     "13yjo313yjo213yjo313yjo213yjo313yjo213yjo313yjo213yjo313yjo216W4e3"],
    .london⟩,
   ⟨["Atlantic/Reykjavik", "Iceland"],
    [-5280, -3600, 0],
    ["zzzzz0zzzzz0YFVmU1JW5TM21Q6kK10iDCq21ZX8a10Ymoa21ZX8a12rcae20YSDA1c7ePQ2140bw10h9eK21TLA81",
     "0h8iG21QolM10jg3621Lk5g10mDNw21Lk5g10mDNw21Lk5g10mDNw21OHQW10jg3621OHQW10wMjI21BakK10wMjI2",
     "1BakK10wMjI21E85A10tpOS21BakK10wMjI21E85A10wMjI21BakK10wMjI21BakK10wMjI21BakK10wMjI21BakK1",
     "0wMjI21E85A10wMjI21BakK10wMjI21BakK10wMjI21BakK10wMjI21BakK10wMjI21BakK10wMjI21E85A10wMjI2",
     "1BakK10wMjI21BakK10wMjI21BakK10wMjI21BakK10wMjI21E85A10wMjI2"],
    .steady 0⟩,
   ⟨["Atlantic/South_Georgia"],
    [-8768, -7200],
    ["zzzzz0voe5B1"],
    .steady (-7200)⟩,
   ⟨["Atlantic/St_Helena"],
    [-1368, 0],
    ["zzzzz0zzzzz0zzzzz0zzzzz025K2O1"],
    .steady 0⟩,
   ⟨["Atlantic/Stanley"],
    [-13884, -14400, -10800, -7200],
    ["zzzzz0zzzzz0hCw9O1sY0DE211QSu116X0i211QSu1194LY211QSu116X0i211QSu116X0i211QSu116X0i20Ymoa1",
     "zzzzz1O813p20rH7Y31GeTw20oleq31JBom225R4q10rIzg21GeTw10rIzg21GeTw10rIzg21GeTw10rIzg21JBom1",
     "0oleq21JBom10rIzg21GeTw10rIzg21GeTw10rIzg21GeTw10rIzg21GeTw10rIzg21JBom10rIzg21GeTw10rIzg2",
     "1GeTw10rIzg21GeTw10rIzg21GeTw10rIzg21GgM410oleq21Lj9c10mEK021Lj9c10oleq21JBom10oleq21JBom1",
     "0oleq21JBom10oleq21JBom10oleq21Lj9c10oleq21JBom10oleq21JBom10oleq2"],
    .steady (-10800)⟩]

end ChatFlow.Calendar
