import ChatFlow.Calendar.Clock

/-!
# Zones of Europe

Each zone with its names, the offsets that it has had, the changes between them,
and the rule that has been in force since.
-/

namespace ChatFlow.Calendar

/-- The zones of Europe. -/
def europeZones : List ZoneHistory :=
  [⟨["Eire", "Europe/Dublin"],
    [-1521, 2079, 0, 3600],
    ["zzzzz0zzzzz0q9wSh10mDNw216Vg730wjCq2169b6316sYC213cGG314LDM213cGG31EUYi20w0Fk314LDM2114vQ3",
     "193PU2193PU30rI3c21E85A30wMjI21E85A30yu482193PU30yu48216W4e311ROy21BakK30yu482193PU30yu482",
     "16W4e311ROy2193PU30yu482193PU30yu48216W4e313yjo2193PU30yu48216W4e311ROy2193PU30yu482193PU3",
     "0yu48216W4e311ROy2193PU31GfQ020ZWhk3E7UxM20wMjI31Lk5g20yu483193PU20tpOS31E85A20yu48316W4e2",
     "11ROy316W4e213yjo316W4e211ROy30yu48216W4e311ROy2193PU30yu4821BakK30yu48216W4e311ROy2193PU3",
     "0yu482193PU30yu48216W4e311ROy211ROy31GfQ020rI3c31GfQ020tpOS31E85A20rI3c31GfQ020rI3c31GfQ02",
     "0rI3c31GfQ020rI3c31JCkq20ebNQ37tlrs20okim31JCkq20okim31JCkq20okim31JCkq20okim31JCkq20rI3c3",
     "1GfQ020rI3c31GfQ020rI3c31JCkq20okim31JCkq20okim31JCkq20toSO31E85A20tpOS31E85A20tpOS31E85A2",
     "0tpOS31GfQ020tpOS31E85A20tpOS31E85A20tpOS31E85A20tpOS31E85A20tpOS31GfQ020rI3c31GfQ020tpOS3",
     "1E85A20tpOS31E85A20tpOS31E85A20tpOS31E85A20tpOS31E85A20wMjI3"],
    .london⟩,
   ⟨["Europe/Amsterdam"],
    [1172, 4772, 4800, 1200, 7200, 3600],
    ["zzzzz0zzzzz0q2eMA10tRyq019ShE10tpOS0193PU113yjo016W4e111ROy016W4e111ROy016W4e111ROy013cGG1",
     "193PU01NYTQ10kP0C011ROy116W4e01Q5oG10hrfM01IqHI10p7CK01JCkq10okim01Jvhw10qZ6W01Hkqe10qCcy0",
     "1I7KC10pq9Q01ITnk10pTfs01Lk5g10mDNw01JZEO10qva401HON610qZ6W01Hkqe10qCcy01ITnk10pTfs01LNc81",
     "0ESFk20Y7bI31JCkq20okim31JZEO20qva431I5S445GIAy50rI3c416W4e513yjo413yjo513yjo40yXaa5zzzzz5",
     "5N1EX411ROy516W4e413yjo513yjo413yjo516W4e411ROy513yjo413yjo513yjo413yjo513yjo413yjo513yjo4",
     "16W4e513yjo413yjo513yjo413yjo513yjo413yjo513yjo413yjo513yjo413yjo513yjo416W4e513yjo413yjo5",
     "13yjo413yjo513yjo413yjo513yjo413yjo513yjo413yjo516W4e4"],
    .paris⟩,
   ⟨["Europe/Andorra"],
    [364, 0, 3600, 7200],
    ["zzzzz0zzzzz0JIs9m1zzzzz1Zh4uL2zzzzz2KDqhV313yjo213yjo313yjo213yjo313yjo213yjo313yjo213yjo3",
     "13yjo213yjo316W4e213yjo313yjo213yjo313yjo213yjo313yjo213yjo313yjo213yjo313yjo216W4e3"],
    .paris⟩,
   ⟨["Europe/Astrakhan"],
    [11532, 10800, 14400, 18000],
    ["zzzzz0zzzzz0zzzzz077uFT1D6mhI2zzzzz2kRkJt314KHI213zfs314KHI213zfs314KHI214M9Q3140bw213yjo3",
     "13yjo213yjo313yjo213yjo313yjo213yjo313yjo227yPg113yjo216W4e113yjo23BwDQ113yjo213yjo113yjo2",
     "13yjo113yjo213yjo116W4e21E85A10tpOS21E85A10tpOS21E85A10tpOS21GfQ010rI3c21GfQ010rI3c21GfQ01",
     "0tpOS21E85A10tpOS21E85A10tpOS21GfQ010rI3c21GfQ010rI3c21GfQ010rI3c21GfQ010tpOS21E85A10tpOS2",
     "1E85A10tpOS21GfQ010rI3c27eWum131no82"],
    .steady 14400⟩,
   ⟨["Europe/Athens"],
    [5692, 7200, 10800, 3600],
    ["zzzzz0zzzzz0qYX8U1Y2yky20KHke1IMLQ0208K1Y13DoLQ30rcf21168f2314M9Q1HbBaa20iw9w1lvH2e21Kef21",
     "0nhAG213yjo111ROy211nsW1169b6211SL2116bh2213Ulk1153EO213Eqe1142U4213yjo113yjo213yjo113yjo2",
     "13yjo113yjo216W4e113yjo213yjo113yjo213yjo113yjo213yjo113yjo213yjo113yjo213yjo113yjo216W4e1",
     "13yjo213yjo113yjo213yjo113yjo213yjo113yjo213yjo113yjo213yjo116W4e2"],
    .athens⟩,
   ⟨["Europe/Belfast", "Europe/London", "GB", "GB-Eire"],
    [-75, 0, 3600, 7200],
    ["Tvrj91zzzzz1zzzzz1ME4L120mDNw116W4e20wjCq1169b6216sYC113cGG214LDM113cGG21EUYi10w0Fk214LDM1",
     "114vQ2193PU1193PU20rI3c11E85A20wMjI11E85A20yu481193PU20yu48116W4e211ROy11BakK20yu481193PU2",
     "0yu48116W4e211ROy1193PU20yu481193PU20yu48116W4e213yjo1193PU20yu48116W4e211ROy1193PU20yu481",
     "193PU20yu48116W4e211ROy1193PU21GfQ010ZWhk22XJtw30ZWhk21OHQW30jg3621OHQW30mDNw21Lk5g30yu482",
     "19Pt230bhZ220USy8116W4e211ROy10wMjI20A8PI30h8iG20USy810mDNw21Lk5g10tpOS21E85A10yu48216W4e1",
     "11ROy216W4e113yjo216W4e111ROy20yu48116W4e211ROy1193PU20yu4811BakK20yu48116W4e211ROy1193PU2",
     "0yu481193PU20yu48116W4e211ROy111ROy21GfQ010rI3c21GfQ010tpOS21E85A10rI3c21GfQ010rI3c21GfQ01",
     "0rI3c21GfQ010rI3c21JCkq10ebNQ27tlrs10okim21JCkq10okim21JCkq10okim21JCkq10okim21JCkq10rI3c2",
     "1GfQ010rI3c21GfQ010rI3c21JCkq10okim21JCkq10okim21JCkq10toSO21E85A10tpOS21E85A10tpOS21E85A1",
     "0tpOS21GfQ010tpOS21E85A10tpOS21E85A10tpOS21E85A10tpOS21E85A10tpOS21GfQ010rI3c21GfQ010tpOS2",
     "1E85A10tpOS21E85A10tpOS21E85A10tpOS21E85A10tpOS21E85A10wMjI2"],
    .london⟩,
   ⟨["Europe/Belgrade", "Europe/Podgorica"],
    [4920, 3600, 7200],
    ["zzzzz0izvqL1zzzzz1yMYwL23HmeO10rI3c216W4e113yjo213yjo11H1tY20lUQq1zzzzz1I8m6D213yjo113yjo2",
     "16W4e113yjo213yjo113yjo213yjo113yjo213yjo113yjo213yjo113yjo213yjo113yjo216W4e113yjo213yjo1",
     "13yjo213yjo113yjo213yjo113yjo213yjo113yjo213yjo116W4e2"],
    .paris⟩,
   ⟨["Europe/Berlin"],
    [3208, 3600, 7200, 10800],
    ["zzzzz0zzzzz02kYCQ1nI4aW20tTqy119RlA20tpOS11E85A20tpOS1k0Lmi25WaNE10rI3c216W4e113yjo213yjo1",
     "13yjo20IpqS30iacS20Jx9E10rI3c211nsW113dCK20Cfk830HkPo20ZXdo1193PU20yu48116W4e211ROy1zzzzz1",
     "39z5F211ROy113yjo213yjo113yjo213yjo113yjo213yjo113yjo216W4e113yjo213yjo113yjo213yjo113yjo2",
     "13yjo113yjo213yjo113yjo213yjo113yjo216W4e113yjo213yjo113yjo213yjo113yjo213yjo113yjo213yjo1",
     "13yjo213yjo116W4e2"],
    .paris⟩,
   ⟨["Europe/Bratislava", "Europe/Prague"],
    [3464, 3600, 7200, 0],
    ["zzzzz0zXsxl1qUjpA20tTqy119RlA20tpOS11E85A20tpOS1k0Lmi25WaNE10rI3c216W4e113yjo213yjo113yjo2",
     "13yjo11GfQ020tSuu10KJcm30US2410KHke20yu481193PU20yu481169b6211nsW1zzzzz10zUGn213yjo116W4e2",
     "11ROy113yjo213yjo113yjo213yjo113yjo213yjo113yjo216W4e113yjo213yjo113yjo213yjo113yjo213yjo1",
     "13yjo213yjo113yjo213yjo113yjo216W4e113yjo213yjo113yjo213yjo113yjo213yjo113yjo213yjo113yjo2",
     "13yjo116W4e2"],
    .paris⟩,
   ⟨["Europe/Brussels"],
    [1050, 0, 3600, 7200],
    ["zzzzz0zzzzz00n7NS1m5lvU239kQ430tSuu219RlA30tpOS21E85A30tpOS20KS3M10e3f621GfQ010mDNw21TM6C1",
     "0pTfs21JZEO10sjxo2193PU1193PU20yu48111ROy216W4e113yjo213yjo1193PU20yu48116W4e211ROy1193PU2",
     "11UDA1193PU20yu48116W4e211ROy1193PU20yu48113yjo213yjo111ROy2193PU113yjo213yjo111ROy216W4e1",
     "193PU20yu48113yjo213yjo111ROy216W4e1193PU21GfQ010ZWhk20UoVc35Eo5I20rI3c316W4e213yjo30yXaa2",
     "19Pt230yXaa21QolM30p7CK2zzzzz2375Gr311ROy216W4e313yjo213yjo313yjo216W4e311ROy213yjo313yjo2",
     "13yjo313yjo213yjo313yjo213yjo316W4e213yjo313yjo213yjo313yjo213yjo313yjo213yjo313yjo213yjo3",
     "13yjo213yjo316W4e213yjo313yjo213yjo313yjo213yjo313yjo213yjo313yjo213yjo313yjo216W4e3"],
    .paris⟩,
   ⟨["Europe/Bucharest"],
    [6264, 7200, 10800],
    ["zzzzz0zzzzz0zzzzz0MYzoB11lTgW20mZrU113yjo213yjo116W4e213yjo113yjo213yjo113yjo213yjo113yjo2",
     "13yjo113yjo213yjo113yjo213yjo1zzzzz1MgSPJ20jf72116W4e211SL21140bw213yjo113yjo213yjo113yjo2",
     "13yjo113yjo216W4e113yjo213yjo113yjo213yjo113yjo213yjo113yjo213yjo113yjo213yjo113yjo216W4e1",
     "13wrg213yjo113yjo213yjo113yjo213yjo113yjo213xnk113zfs213xnk116X0i21E79610tt8i2"],
    .athens⟩,
   ⟨["Europe/Budapest"],
    [4580, 3600, 7200],
    ["zzzzz0xanUb1sRpIK20tTqy119RlA20tpOS11E85A20tpOS11EUYi20tSuu11BakK20yu481hshyS23LltQ10rI3c2",
     "16W4e113yjo213yjo11EoE4214M9Q10sPMO216rc8113dCK213yjo113yjo213yjo116W4e211ROy19u5Sq20mCRs1",
     "1Lmts20mDNw11QolM20h8iG11QolM20h8iG1m5k3M211ROy113yjo213yjo113yjo213yjo113yjo213yjo1140bw2",
     "16W4e113yjo213yjo113yjo213yjo113yjo213yjo113yjo213yjo113yjo213yjo113yjo216W4e113yjo213yjo1",
     "13yjo213yjo113yjo213yjo113yjo213yjo113yjo213yjo116W4e2"],
    .paris⟩,
   ⟨["Europe/Busingen", "Europe/Zurich"],
    [2048, 1786, 3600, 7200],
    ["fwU5I1zzzzz1PIVVf2zzzzz2cDKgd30tpOS21E85A30tpOS2zzzzz2KBJMf313yjo213yjo313yjo213yjo313yjo2",
     "13yjo316W4e213yjo313yjo213yjo313yjo213yjo313yjo213yjo313yjo213yjo313yjo213yjo316W4e213yjo3",
     "13yjo213yjo313yjo213yjo313yjo213yjo313yjo213yjo313yjo216W4e3"],
    .paris⟩,
   ⟨["Europe/Chisinau", "Europe/Tiraspol"],
    [6920, 6900, 6264, 7200, 10800, 3600, 14400],
    ["zzzzz0aSH1t1zzzzz1JPo052SgumC31lTgW40mZrU313yjo413yjo316W4e413yjo313yjo413yjo313yjo413yjo3",
     "13yjo413yjo313yjo413yjo313yjo413yjo31re1w41xnCC32lXAe50rI3c316W4e513yjo30pnLE4zzzzz4GAaYL6",
     "14KHI413zfs614KHI413zfs614KHI414M9Q6140bw413yjo613yjo413yjo613yjo413yjo613yjo413yjo613yjo4",
     "13yjo613yjo413yjo60FD4y40rJvk313yjo413yjo313wrg413xnk313zfs413xnk313zfs413xnk313zfs413xnk3",
     "16X0i41E79630tsCe41E85A30tpOS41E85A30tpOS41GfQ030rI3c41GfQ030rI3c41GfQ030tpOS41E85A30tpOS4",
     "1E85A30tpOS41GfQ030rI3c41GfQ030rI3c41GfQ030rI3c41GfQ030tpOS41E85A30tpOS41E85A30tpOS41GfQ03",
     "0rI3c41GfQ030rI3c41GfQ030tpOS41E85A30tpOS41E85A30tpOS41E85A30tpOS41GfQ030rI3c41GfQ030rI3c4",
     "1GfQ030tpOS41E85A30tpOS41E85A30tpOS41GfQ030rIzg4"],
    .athens⟩,
   ⟨["Europe/Copenhagen"],
    [3020, 3600, 7200],
    ["zzzzz0zzzzz04MFJG1llS9M20oNJA1oRXO425GfHE10rI3c216W4e113yjo213yjo113yjo20mwL211VtR220iacS1",
     "1QolM20ZWhk11ay6i20WzMu1zzzzz15cFFZ211ROy113yjo213yjo113yjo213yjo113yjo213yjo113yjo216W4e1",
     "13yjo213yjo113yjo213yjo113yjo213yjo113yjo213yjo113yjo213yjo113yjo216W4e113yjo213yjo113yjo2",
     "13yjo113yjo213yjo113yjo213yjo113yjo213yjo116W4e2"],
    .paris⟩,
   ⟨["Europe/Gibraltar"],
    [-1284, 0, 3600, 7200],
    ["zzzzz0bht9Z1zzzzz1ES2ub20mDNw116W4e20wjCq1169b6216sYC113cGG214LDM113cGG21EUYi10w0Fk214LDM1",
     "114vQ2193PU1193PU20rI3c11E85A20wMjI11E85A20yu481193PU20yu48116W4e211ROy11BakK20yu481193PU2",
     "0yu48116W4e211ROy1193PU20yu481193PU20yu48116W4e213yjo1193PU20yu48116W4e211ROy1193PU20yu481",
     "193PU20yu48116W4e211ROy1193PU21GfQ010ZWhk22XJtw30ZWhk21OHQW30jg3621OHQW30mDNw21Lk5g30yu482",
     "19Pt230bhZ220USy8116W4e211ROy10wMjI20A8PI30h8iG20USy810mDNw21Lk5g10tpOS21E85A10yu48216W4e1",
     "11ROy216W4e113yjo216W4e111ROy20yu48116W4e211ROy1193PU20yu4811BakK20yu48116W4e2rI2fw313yjo2",
     "13yjo313yjo213yjo316W4e213yjo313yjo213yjo313yjo213yjo313yjo213yjo313yjo213yjo313yjo213yjo3",
     "16W4e213yjo313yjo213yjo313yjo213yjo313yjo213yjo313yjo213yjo313yjo216W4e3"],
    .paris⟩,
   ⟨["Europe/Guernsey"],
    [-609, 0, 3600, 7200],
    ["zzzzz0zzzzz0jujMB16FChz20mDNw116W4e20wjCq1169b6216sYC113cGG214LDM113cGG21EUYi10w0Fk214LDM1",
     "114vQ2193PU1193PU20rI3c11E85A20wMjI11E85A20yu481193PU20yu48116W4e211ROy11BakK20yu481193PU2",
     "0yu48116W4e211ROy1193PU20yu481193PU20yu48116W4e213yjo1193PU20yu48116W4e211ROy1193PU20yu481",
     "193PU20yu48116W4e211ROy1193PU21GfQ010ZWhk20kMC034zGOu20rI3c316W4e213yjo313yjo213yjo30bhZ22",
     "0USy8116W4e211ROy10wMjI20A8PI30h8iG20USy810mDNw21Lk5g10tpOS21E85A10yu48216W4e111ROy216W4e1",
     "13yjo216W4e111ROy20yu48116W4e211ROy1193PU20yu4811BakK20yu48116W4e211ROy1193PU20yu481193PU2",
     "0yu48116W4e211ROy111ROy21GfQ010rI3c21GfQ010tpOS21E85A10rI3c21GfQ010rI3c21GfQ010rI3c21GfQ01",
     "0rI3c21JCkq10ebNQ27tlrs10okim21JCkq10okim21JCkq10okim21JCkq10okim21JCkq10rI3c21GfQ010rI3c2",
     "1GfQ010rI3c21JCkq10okim21JCkq10okim21JCkq10toSO21E85A10tpOS21E85A10tpOS21E85A10tpOS21GfQ01",
     "0tpOS21E85A10tpOS21E85A10tpOS21E85A10tpOS21E85A10tpOS21GfQ010rI3c21GfQ010tpOS21E85A10tpOS2",
     "1E85A10tpOS21E85A10tpOS21E85A10tpOS21E85A10wMjI2"],
    .london⟩,
   ⟨["Europe/Helsinki", "Europe/Mariehamn"],
    [5989, 7200, 10800],
    ["zzzzz0zzzzz0zzzzz00ibLq1igPlF214hgu1zzzzz1KBgmH213yjo113yjo213yjo113zfs213yjo113yjo216W4e1",
     "13yjo213yjo113yjo213yjo113yjo213yjo113yjo213yjo113yjo213yjo113yjo216W4e113yjo213yjo113yjo2",
     "13yjo113yjo213yjo113yjo213yjo113yjo213yjo116W4e2"],
    .athens⟩,
   ⟨["Europe/Isle_of_Man"],
    [-1075, 0, 3600, 7200],
    ["zzzzz0hNXO81zzzzz18mOg220mDNw116W4e20wjCq1169b6216sYC113cGG214LDM113cGG21EUYi10w0Fk214LDM1",
     "114vQ2193PU1193PU20rI3c11E85A20wMjI11E85A20yu481193PU20yu48116W4e211ROy11BakK20yu481193PU2",
     "0yu48116W4e211ROy1193PU20yu481193PU20yu48116W4e213yjo1193PU20yu48116W4e211ROy1193PU20yu481",
     "193PU20yu48116W4e211ROy1193PU21GfQ010ZWhk22XJtw30ZWhk21OHQW30jg3621OHQW30mDNw21Lk5g30yu482",
     "19Pt230bhZ220USy8116W4e211ROy10wMjI20A8PI30h8iG20USy810mDNw21Lk5g10tpOS21E85A10yu48216W4e1",
     "11ROy216W4e113yjo216W4e111ROy20yu48116W4e211ROy1193PU20yu4811BakK20yu48116W4e211ROy1193PU2",
     "0yu481193PU20yu48116W4e211ROy111ROy21GfQ010rI3c21GfQ010tpOS21E85A10rI3c21GfQ010rI3c21GfQ01",
     "0rI3c21GfQ010rI3c21JCkq10ebNQ27tlrs10okim21JCkq10okim21JCkq10okim21JCkq10okim21JCkq10rI3c2",
     "1GfQ010rI3c21GfQ010rI3c21JCkq10okim21JCkq10okim21JCkq10toSO21E85A10tpOS21E85A10tpOS21E85A1",
     "0tpOS21GfQ010tpOS21E85A10tpOS21E85A10tpOS21E85A10tpOS21E85A10tpOS21GfQ010rI3c21GfQ010tpOS2",
     "1E85A10tpOS21E85A10tpOS21E85A10tpOS21E85A10tpOS21E85A10wMjI2"],
    .london⟩,
   ⟨["Europe/Jersey"],
    [-506, 0, 3600, 7200],
    ["zzzzz0zzzzz0DqW6U1cJPxg20mDNw116W4e20wjCq1169b6216sYC113cGG214LDM113cGG21EUYi10w0Fk214LDM1",
     "114vQ2193PU1193PU20rI3c11E85A20wMjI11E85A20yu481193PU20yu48116W4e211ROy11BakK20yu481193PU2",
     "0yu48116W4e211ROy1193PU20yu481193PU20yu48116W4e213yjo1193PU20yu48116W4e211ROy1193PU20yu481",
     "193PU20yu48116W4e211ROy1193PU21GfQ010ZWhk20kMC034zGOu20rI3c316W4e213yjo313yjo213yjo30bhZ22",
     "0USy8116W4e211ROy10wMjI20A8PI30h8iG20USy810mDNw21Lk5g10tpOS21E85A10yu48216W4e111ROy216W4e1",
     "13yjo216W4e111ROy20yu48116W4e211ROy1193PU20yu4811BakK20yu48116W4e211ROy1193PU20yu481193PU2",
     "0yu48116W4e211ROy111ROy21GfQ010rI3c21GfQ010tpOS21E85A10rI3c21GfQ010rI3c21GfQ010rI3c21GfQ01",
     "0rI3c21JCkq10ebNQ27tlrs10okim21JCkq10okim21JCkq10okim21JCkq10okim21JCkq10rI3c21GfQ010rI3c2",
     "1GfQ010rI3c21JCkq10okim21JCkq10okim21JCkq10toSO21E85A10tpOS21E85A10tpOS21E85A10tpOS21GfQ01",
     "0tpOS21E85A10tpOS21E85A10tpOS21E85A10tpOS21E85A10tpOS21GfQ010rI3c21GfQ010tpOS21E85A10tpOS2",
     "1E85A10tpOS21E85A10tpOS21E85A10tpOS21E85A10wMjI2"],
    .london⟩,
   ⟨["Europe/Kaliningrad"],
    [4920, 3600, 7200, 10800, 14400],
    ["zzzzz0zzzzz02kXko1nI52820tTqy119RlA20tpOS11E85A20tpOS1k0Lmi25WaNE10rI3c216W4e113yjo213yjo1",
     "13yjo209k3c315Phw20uvlA3zzzzz3CiKtF414KHI313zfs414KHI313zfs414KHI314M9Q4140bw313yjo413yjo3",
     "13yjo413yjo313yjo413yjo313yjo413yjo327yPg213yjo316W4e213yjo313yjo213yjo313yjo213yjo313yjo2",
     "13yjo313yjo213yjo313yjo216W4e31E85A20tpOS31E85A20tpOS31E85A20tpOS31GfQ020rI3c31GfQ020rI3c3",
     "1GfQ020tpOS31E85A20tpOS31E85A20tpOS31GfQ020rI3c31GfQ020rI3c31GfQ020rI3c31GfQ020tpOS31E85A2",
     "0tpOS31E85A20tpOS31GfQ020rI3c37eWum2"],
    .steady 7200⟩,
   ⟨["Europe/Kiev", "Europe/Kyiv", "Europe/Uzhgorod", "Europe/Zaporozhye"],
    [7324, 7200, 10800, 3600, 14400],
    ["zzzzz0zzzzz0zzzzz078Hot1D6Q3w2O1bMG12NyC030rI3c116W4e30Bvqy2zzzzz2HsQmP414KHI213zfs414KHI2",
     "13zfs414KHI214M9Q4140bw213yjo413yjo213yjo413yjo213yjo413yjo213yjo413yjo213yjo413yjo213yjo4",
     "0ZVlg22eyie113yjo213yjo113yjo213yjo113yjo213yjo113yjo213yjo116W4e21E91E1"],
    .athens⟩,
   ⟨["Europe/Kirov"],
    [11928, 10800, 14400, 18000],
    ["zzzzz0zzzzz0wnjb01NQxLk2zzzzz2kRkJt314KHI213zfs314KHI213zfs314KHI214M9Q3140bw213yjo313yjo2",
     "13yjo313yjo213yjo313yjo213yjo313yjo227yPg113yjo216W4e113yjo23BwDQ113yjo213yjo113yjo213yjo1",
     "13yjo213yjo116W4e21E85A10tpOS21E85A10tpOS21E85A10tpOS21GfQ010rI3c21GfQ010rI3c21GfQ010tpOS2",
     "1E85A10tpOS21E85A10tpOS21GfQ010rI3c21GfQ010rI3c21GfQ010rI3c21GfQ010tpOS21E85A10tpOS21E85A1",
     "0tpOS21GfQ010rI3c27eWum1"],
    .steady 10800⟩,
   ⟨["Europe/Lisbon", "Portugal"],
    [-2205, 0, 3600, 7200],
    ["zzzzz0zzzzz0gn8hW19Wtto20nJke10hVBo21Kdiy10ngEC21Kdiy10ngEC21Kdiy10o2hk21Kdiy10ngEC21Kdiy1",
     "5Li4m20zzUm13H0t620yu48116W4e211ROy1193PU211ROy1193PU20yu4813H0t620yu48113yjo213yjo13ETYG2",
     "13yjo111ROy216W4e1193PU20yu48113yjo213yjo111ROy216W4e1193PU21GfQ010ZWhk21Jvhw113Fmi214LDM1",
     "0w0Fk20FD4y30ebNQ20POIS10okim20Cfk830mDNw20Mqxc10mDNw20FD4y30jg3620Mqxc10mDNw20FD4y30jg362",
     "0Mqxc10wMjI213yjo1141Y0213yjo113yjo213yjo113yjo213yjo113yjo213yjo113yjo216W4e113yjo213yjo1",
     "13yjo213yjo113yjo213yjo113yjo213yjo113yjo216W4e113yjo213yjo113yjo213yjo113yjo213yjo113yjo2",
     "13yjo113yjo213yjo113yjo216W4e113yjo213yjo113yjo213yjo113yjo213yjo113yjo2MO4ye113yjo213yjo1",
     "16X0i213yjo113yjo213yjo116W4e211ROy113xnk213yjo113yjo213yjo113yjo213yjo113yjo216W4e113yjo2",
     "13yjo113zfs213yjo113yjo213yjo113yjo213yjo113yjo213yjo113yjo216W4e113yjo213yjo113yjo227xTc3",
     "13yjo213yjo313yjo213yjo313yjo216W4e2"],
    .london⟩,
   ⟨["Europe/Ljubljana"],
    [3484, 3600, 7200],
    ["zzzzz0izwDV1zzzzz1yMYZB23HmeO10rI3c216W4e113yjo213yjo113yjo20yXaa1zzzzz1I8m6D213yjo113yjo2",
     "16W4e113yjo213yjo113yjo213yjo113yjo213yjo113yjo213yjo113yjo213yjo113yjo216W4e113yjo213yjo1",
     "13yjo213yjo113yjo213yjo113yjo213yjo113yjo213yjo116W4e2"],
    .paris⟩,
   ⟨["Europe/Luxembourg"],
    [1476, 3600, 7200, 0],
    ["zzzzz0zzzzz0QawAg1PWlHw20oPBI11E79620p88O11E9xI20tpOS10PLUG30ZAEC11GiEC30mAZk11TNyK30pRnk1",
     "1Jb6W30si5g1194LY3192TQ10yvwG311PWq116X0i314KHI113dCK3192TQ10yv0C316V8a111SL23192TQ111SL23",
     "192TQ10ywsK316W4e111ROy3193PU10yu48313yjo113yjo311ROy1193PU313yjo113yjo311ROy116W4e3193PU1",
     "0yu48313yjo113yjo311ROy116W4e3193PU11GfQ030ZWhk10SdeK25Gywa10rI3c216W4e113yjo20yu481193PU2",
     "0yXaa11QolM20p7CK1zzzzz1375Gr211ROy116W4e213yjo113yjo213yjo116W4e211ROy113yjo213yjo113yjo2",
     "13yjo113yjo213yjo113yjo216W4e113yjo213yjo113yjo213yjo113yjo213yjo113yjo213yjo113yjo213yjo1",
     "13yjo216W4e113yjo213yjo113yjo213yjo113yjo213yjo113yjo213yjo113yjo213yjo116W4e2"],
    .paris⟩,
   ⟨["Europe/Madrid"],
    [-884, 0, 3600, 7200],
    ["zzzzz0zzzzz0JIsFe1auyES2115rU113xnk214M9Q19fbKy2100Qq13Gzx220yv0C116V8a211SL21193PU211ROy1",
     "192TQ20yv0C1GR2kS20dAPI113xnk20A8PI30uBs022AAD210wLnE24XfN230hsbQ21L0CW30yv0C2192TQ30yv0C2",
     "192TQ30yv0C2192TQ30yv0C25WZRA30tqKW2qODHU311SL2216V8a311SL2211QSu313zfs216V8a311SL2216Xwm3",
     "13yjo213yjo313yjo216W4e311ROy213yjo313yjo213yjo313yjo213yjo313yjo213yjo316W4e213yjo313yjo2",
     "13yjo313yjo213yjo313yjo213yjo313yjo213yjo313yjo213yjo316W4e213yjo313yjo213yjo313yjo213yjo3",
     "13yjo213yjo313yjo213yjo313yjo216W4e3"],
    .paris⟩,
   ⟨["Europe/Malta"],
    [3484, 3600, 7200],
    ["zzzzz0zzzzz040Uas1mETKm20h7mC113zfs214KHI10w1Bo21ETce10qwW821GeTw10yv0C213xnk1g9SeO255QVE1",
     "0rI3c216W4e113cGG20yu48119Pt220y9Eu114N5U21BakK10wKrA21BakK10rJvk21GfQ01bedLU20jf7211QphQ2",
     "0h8iG11QolM20h8iG11TM6C20h8iG11QolM20h8iG11OHQW20jg3611QolM20jg36113cGG213yjo11BxDs20reXA1",
     "1GKoa20toSO11E91E20toSO11E91E20toSO11E91E20toSO11E91E20toSO119Qp62113zM116X0i213yjo113yjo2",
     "13yjo113yjo213yjo113yjo216W4e113yjo213yjo113yjo213yjo113yjo213yjo113yjo213yjo113yjo213yjo1",
     "13yjo216W4e113yjo213yjo113yjo213yjo113yjo213yjo113yjo213yjo113yjo213yjo116W4e2"],
    .paris⟩,
   ⟨["Europe/Minsk"],
    [6616, 6600, 7200, 10800, 3600, 14400],
    ["zzzzz0aSH6n1zzzzz1Wg0tl2D6PsG3NX9KC22sQE440rI3c216W4e413yjo20WwYi3zzzzz3GTRKr514KHI313zfs5",
     "14KHI313zfs514KHI314M9Q5140bw313yjo513yjo313yjo513yjo313yjo513yjo313yjo513yjo313yjo513yjo3",
     "4ITE8213yjo313yjo213yjo313yjo213yjo313yjo213yjo313yjo216W4e31E85A20tpOS31E85A20tpOS31E85A2",
     "0tpOS31GfQ020rI3c31GfQ020rI3c31GfQ020tpOS31E85A20tpOS31E85A20tpOS31GfQ020rI3c31GfQ020rI3c3",
     "1GfQ020rI3c31GfQ020tpOS31E85A20tpOS31E85A20tpOS31GfQ020rI3c3"],
    .steady 10800⟩,
   ⟨["Europe/Monaco"],
    [1772, 561, 0, 3600, 7200],
    ["zzzzz0zzzzz00yLgs1eC0N92B8b6f30dVwm2114vQ319Pt220tSuu31EUYi20qva431H1tY20lquO31TM6C20pTfs3",
     "1JZEO20sjxo3193PU21Lk5g30mDNw211ROy316W4e213yjo313yjo2193PU30yu48216W4e311ROy2193PU311ROy2",
     "193PU30yu48216W4e311ROy2193PU30yu48213yjo313yjo211ROy3193PU213yjo313yjo211ROy316W4e2193PU3",
     "0yu48213yjo313yjo211ROy316W4e2193PU31GfQ020ZZVw32XeVM40toSO30tqKW41OJIe30rI3c416W4e313yjo4",
     "167iy311pke40yXaa3zzzzz33CVU1413xnk316Xwm411ROy316W4e413yjo313yjo413yjo316W4e411ROy313yjo4",
     "13yjo313yjo413yjo313yjo413yjo313yjo416W4e313yjo413yjo313yjo413yjo313yjo413yjo313yjo413yjo3",
     "13yjo413yjo313yjo416W4e313yjo413yjo313yjo413yjo313yjo413yjo313yjo413yjo313yjo413yjo316W4e4"],
    .paris⟩,
   ⟨["Europe/Moscow", "W-SU"],
    [9017, 9079, 12679, 16279, 14400, 10800, 18000, 7200],
    ["zzzzz0zzzzz0qPSLB127wWY212tJA10uAvw30cnvk21VW1Q30AwX140GcAy53D1e440CJGa60xS9w40AtEW528KtE7",
     "GUKuW5zzzzz5kRkJt414KHI513zfs414KHI513zfs414KHI514M9Q4140bw513yjo413yjo513yjo413yjo513yjo4",
     "13yjo513yjo413yjo513yjo413yjo513yjo416W4e527yPg70ebNQ50PMQK413yjo513yjo413yjo513yjo413yjo5",
     "13yjo413yjo516W4e41E85A50tpOS41E85A50tpOS41E85A50tpOS41GfQ050rI3c41GfQ050rI3c41GfQ050tpOS4",
     "1E85A50tpOS41E85A50tpOS41GfQ050rI3c41GfQ050rI3c41GfQ050rI3c41GfQ050tpOS41E85A50tpOS41E85A5",
     "0tpOS41GfQ050rI3c47eWum5"],
    .steady 10800⟩,
   ⟨["Europe/Paris"],
    [561, 0, 3600, 7200],
    ["zzzzz0zzzzz0f3pU91BF7gX20dVwm1114vQ219Pt210tSuu21EUYi10qva421H1tY10lquO21TM6C10pTfs21JZEO1",
     "0sjxo2193PU11Lk5g20mDNw111ROy216W4e113yjo213yjo1193PU20yu48116W4e211ROy1193PU211ROy1193PU2",
     "0yu48116W4e211ROy1193PU20yu48113yjo213yjo111ROy2193PU113yjo213yjo111ROy216W4e1193PU20yu481",
     "13yjo213yjo111ROy216W4e1193PU21GfQ010ZZVw20eB9c355RRI20rI3c316W4e213yjo3167iy211pke30yXaa2",
     "zzzzz23CVU1313xnk216Xwm311ROy216W4e313yjo213yjo313yjo216W4e311ROy213yjo313yjo213yjo313yjo2",
     "13yjo313yjo213yjo316W4e213yjo313yjo213yjo313yjo213yjo313yjo213yjo313yjo213yjo313yjo213yjo3",
     "16W4e213yjo313yjo213yjo313yjo213yjo313yjo213yjo313yjo213yjo313yjo216W4e3"],
    .paris⟩,
   ⟨["Europe/Riga"],
    [5794, 9394, 7200, 10800, 3600, 14400],
    ["zzzzz0zzzzz0uDVJI10tpOS019Pt210IUIy0EsxW42UP7sw31vcKu22rKnQ40rI3c216W4e413yjo213yjo403xMu3",
     "zzzzz3FsRmr514KHI313zfs514KHI313zfs514KHI314M9Q5140bw313yjo513yjo313yjo513yjo313yjo513yjo3",
     "13yjo513yjo327yPg213yjo316W4e213yjo313yjo213yjo313yjo213yjo313yjo213yjo313yjo213yjo313yjo2",
     "16W4e313yjo213zfs31E85A20tpOS31E85A20tpOS31GfQ022zFXE3"],
    .athens⟩,
   ⟨["Europe/Rome", "Europe/San_Marino", "Europe/Vatican"],
    [2996, 3600, 7200],
    ["zzzzz0zzzzz04085S1mEpqC20h7mC113zfs214KHI10w1Bo21ETce10qwW821GeTw10yv0C213xnk1g9SeO255QVE1",
     "0rI3c216W4e113yjo20yXaa119Pt220y9Eu114N5U21BakK10wKrA21BakK10rJvk21GfQ01bedLU20jf7211QphQ2",
     "0h8iG11QolM20h8iG11TM6C20h8iG11QolM20h8iG11OHQW20jg3611QolM20jg3611QolM20h8iG11OHQW20jg361",
     "1QolM20h8iG11QolM20h8iG11OHQW20jg3611QolM20jg3611OHQW20jg36116Xwm211ROy113yjo213yjo113yjo2",
     "13yjo113yjo213yjo113yjo216W4e113yjo213yjo113yjo213yjo113yjo213yjo113yjo213yjo113yjo213yjo1",
     "13yjo216W4e113yjo213yjo113yjo213yjo113yjo213yjo113yjo213yjo113yjo213yjo116W4e2"],
    .paris⟩,
   ⟨["Europe/Samara"],
    [12020, 10800, 14400, 18000],
    ["zzzzz0zzzzz0wnjb01NQxLk2zzzzz2kRkJt314KHI213zfs314KHI213zfs314KHI214M9Q3140bw213yjo313yjo2",
     "13yjo313yjo213yjo313yjo213yjo313yjo227yPg113yjo216W4e12FaQC20wKrA313yjo213yjo313yjo213yjo3",
     "13yjo213yjo313yjo216W4e31E85A20tpOS31E85A20tpOS31E85A20tpOS31GfQ020rI3c31GfQ020rI3c31GfQ02",
     "0tpOS31E85A20tpOS31E85A20tpOS31GfQ020rI3c31GfQ020rI3c31GfQ020rI3c31GfQ020tpOS31E85A20tpOS3",
     "1E85A22AVkW10rI3c2"],
    .steady 14400⟩,
   ⟨["Europe/Sarajevo"],
    [4420, 3600, 7200],
    ["zzzzz0izvyP1zzzzz1yMYoH23HmeO10rI3c216W4e113yjo213yjo113yjo20yXaa1zzzzz1I8m6D213yjo113yjo2",
     "16W4e113yjo213yjo113yjo213yjo113yjo213yjo113yjo213yjo113yjo213yjo113yjo216W4e113yjo213yjo1",
     "13yjo213yjo113yjo213yjo113yjo213yjo113yjo213yjo116W4e2"],
    .paris⟩,
   ⟨["Europe/Saratov"],
    [11058, 10800, 14400, 18000],
    ["zzzzz0zzzzz0wnjb01NQxLk2zzzzz2kRkJt314KHI213zfs314KHI213zfs314KHI214M9Q3140bw213yjo313yjo2",
     "13yjo313yjo213yjo313yjo227yPg113yjo213yjo113yjo216W4e113yjo23BwDQ113yjo213yjo113yjo213yjo1",
     "13yjo213yjo116W4e21E85A10tpOS21E85A10tpOS21E85A10tpOS21GfQ010rI3c21GfQ010rI3c21GfQ010tpOS2",
     "1E85A10tpOS21E85A10tpOS21GfQ010rI3c21GfQ010rI3c21GfQ010rI3c21GfQ010tpOS21E85A10tpOS21E85A1",
     "0tpOS21GfQ010rI3c27eWum14V9uK2"],
    .steady 14400⟩,
   ⟨["Europe/Simferopol"],
    [8184, 8160, 7200, 10800, 3600, 14400],
    ["zzzzz0aSGhV1zzzzz1Wg0tt2D6QHQ3OGpNI228kAy40rI3c216W4e413yjo203ZxI3zzzzz3GwnwH514KHI313zfs5",
     "14KHI313zfs514KHI314M9Q5140bw313yjo513yjo313yjo513yjo313yjo513yjo313yjo513yjo313yjo513yjo3",
     "1dVRY23iwWO313yjo213yjo313yjo213yjo30Cds050rJvk313yjo513yjo316UCW51EAtM327yPg20tpOS31E85A2",
     "0tpOS31GfQ020rI3c31GfQ020rI3c31GfQ020tpOS31E85A20tpOS31E85A20tpOS31GfQ020rI3c31GfQ020rI3c3",
     "1GfQ020rI3c31GfQ020tpOS31E85A20tpOS31E85A20tpOS31GfQ020rI3c31GfQ020rI3c31GfQ020tpOS31E85A2",
     "0toSO51E6D23"],
    .steady 10800⟩,
   ⟨["Europe/Skopje"],
    [5144, 3600, 7200],
    ["zzzzz0izvmj1zzzzz1yMYzx23HmeO10rI3c216W4e113yjo213yjo113yjo20yXaa1zzzzz1I8m6D213yjo113yjo2",
     "16W4e113yjo213yjo113yjo213yjo113yjo213yjo113yjo213yjo113yjo213yjo113yjo216W4e113yjo213yjo1",
     "13yjo213yjo113yjo213yjo113yjo213yjo113yjo213yjo116W4e2"],
    .paris⟩,
   ⟨["Europe/Sofia"],
    [5596, 7016, 7200, 3600, 10800],
    ["zzzzz0aSHNF1VqfbA2zzzzz2eLKSf30rI3c216W4e313yjo213yjo313zfs2zzzzz2AbP61414M9Q2168f2411ooa2",
     "168f2411TH6216UCW411UDA213yjo413yjo213yjo416W4e213yjo413yjo213yjo413yjo213yjo413yjo213yjo4",
     "13yjo213yjo413yjo213yjo416W4e213wrg413xnk213zfs413xnk213zfs413xnk213zfs413xnk213zfs413xnk2",
     "16X0i41E79620tt8i4"],
    .athens⟩,
   ⟨["Europe/Stockholm"],
    [4332, 3614, 3600, 7200],
    ["zzzzz0YJxkT1iqZbi2YxA6Q30oPBI2zzzzz2zzzzz2Bdtje311ROy213yjo313yjo213yjo313yjo213yjo313yjo2",
     "13yjo316W4e213yjo313yjo213yjo313yjo213yjo313yjo213yjo313yjo213yjo313yjo213yjo316W4e213yjo3",
     "13yjo213yjo313yjo213yjo313yjo213yjo313yjo213yjo313yjo216W4e3"],
    .paris⟩,
   ⟨["Europe/Tallinn"],
    [5940, 3600, 7200, 10800, 14400],
    ["zzzzz0zzzzz0tn0bm10QVGu20tpOS11gNNo03ushg2f95Pg32Mo5222PmZk10rI3c216W4e113yjo210JA83zzzzz3",
     "G04jR414KHI313zfs414KHI313zfs414KHI314M9Q4140bw313yjo413yjo313yjo413yjo313yjo413yjo313yjo4",
     "13yjo327yPg213yjo316W4e213yjo313yjo213yjo313yjo213yjo313yjo213yjo313yjo213yjo313yjo216W4e3",
     "1E85A20tpOS31E85A20tpOS31E91E20tpOS31GfQ0259kLg3"],
    .athens⟩,
   ⟨["Europe/Tirane"],
    [4760, 3600, 7200],
    ["zzzzz0zzzzz0l47qc1uV5Ym25541g10rI3c204Lia1zzzzz14LXxR20sj1k11EVUm20toSO11FERs20toSO11GgM42",
     "0rH7Y11GJsW20rdb611GJsW20rdb611GJsW20toSO11By9w20toSO11GgM420toSO119Qp620yAAy114M9Q2140bw1",
     "13yjo213yjo113yjo213yjo113yjo213yjo113yjo213yjo113yjo213yjo113yjo216W4e113yjo213yjo113yjo2",
     "13yjo113yjo213yjo113yjo213yjo113yjo213yjo116W4e2"],
    .paris⟩,
   ⟨["Europe/Ulyanovsk"],
    [11616, 10800, 14400, 18000, 7200],
    ["zzzzz0zzzzz0wnjb01NQxLk2zzzzz2kRkJt314KHI213zfs314KHI213zfs314KHI214M9Q3140bw213yjo313yjo2",
     "13yjo313yjo213yjo313yjo213yjo313yjo227yPg113yjo216W4e127yPg40ebNQ10PMQK213yjo113yjo213yjo1",
     "13yjo213yjo113yjo213yjo116W4e21E85A10tpOS21E85A10tpOS21E85A10tpOS21GfQ010rI3c21GfQ010rI3c2",
     "1GfQ010tpOS21E85A10tpOS21E85A10tpOS21GfQ010rI3c21GfQ010rI3c21GfQ010rI3c21GfQ010tpOS21E85A1",
     "0tpOS21E85A10tpOS21GfQ010rI3c27eWum131no82"],
    .steady 14400⟩,
   ⟨["Europe/Vaduz"],
    [2284, 3600, 7200],
    ["zzzzz0zzzzz05EzSw1zzzzz1cDKof20tpOS11E85A20tpOS1zzzzz1KBJMf213yjo113yjo213yjo113yjo213yjo1",
     "13yjo216W4e113yjo213yjo113yjo213yjo113yjo213yjo113yjo213yjo113yjo213yjo113yjo216W4e113yjo2",
     "13yjo113yjo213yjo113yjo213yjo113yjo213yjo113yjo213yjo116W4e2"],
    .paris⟩,
   ⟨["Europe/Vienna"],
    [3921, 3600, 7200],
    ["zzzzz0zzzzz02kY0v1nI4m120tTqy119RlA20tpOS11E85A20tpOS13JYDw20wMjI1fkQpU25WaNE10rI3c216W4e1",
     "13yjo213yjo113yjo203clU1292uG211nsW113cGG213yjo1193PU20yu481zzzzz15Hugj211QSu1141Y0213yjo1",
     "13yjo213yjo113yjo213yjo113yjo216W4e113yjo213yjo113yjo213yjo113yjo213yjo113yjo213yjo113yjo2",
     "13yjo113yjo216W4e113yjo213yjo113yjo213yjo113yjo213yjo113yjo213yjo113yjo213yjo116W4e2"],
    .paris⟩,
   ⟨["Europe/Vilnius"],
    [6076, 5040, 5736, 3600, 7200, 10800, 14400],
    ["zzzzz0aSHFV1zzzzz1H1Ard25us7k31c45o40WFTk3gJyTI51tn1642ts8G30rI3c416W4e313yjo40hSNc5zzzzz5",
     "GIvVx614KHI513zfs614KHI513zfs614KHI514M9Q6140bw513yjo613yjo513yjo613yjo513yjo613yjo513yjo6",
     "13yjo527yPg413yjo516W4e413yjo513yjo413yjo513yjo413yjo513yjo413yjo513yjo413yjo513yjo416W4e5",
     "1E85A40tpOS51E85A427yPg30tpOS48YNFI5"],
    .athens⟩,
   ⟨["Europe/Volgograd"],
    [10660, 10800, 14400, 18000],
    ["zzzzz0zzzzz0xt7T41MLZTg2zzzzz2kRkJt314KHI213zfs314KHI213zfs314KHI214M9Q3140bw213yjo313yjo2",
     "13yjo313yjo213yjo313yjo227yPg113yjo213yjo113yjo216W4e113yjo23BwDQ113yjo213yjo113yjo213yjo1",
     "13yjo213yjo116W4e21E85A10tpOS21E85A10tpOS21E85A10tpOS21GfQ010rI3c21GfQ010rI3c21GfQ010tpOS2",
     "1E85A10tpOS21E85A10tpOS21GfQ010rI3c21GfQ010rI3c21GfQ010rI3c21GfQ010tpOS21E85A10tpOS21E85A1",
     "0tpOS21GfQ010rI3c27eWum18YOBM24ck2i1"],
    .steady 10800⟩,
   ⟨["Europe/Warsaw", "Poland"],
    [5040, 3600, 7200, 10800],
    ["zzzzz0zzzzz0oSkfi11Zs7E20tTqy119RlA20tpOS11E85A228J1630tpOS25mVTE1cZcqu252Uoi10rI3c216W4e1",
     "13yjo214gkq11D1iS215Phw10xT60211pke11Dlbc20tpOS1193PU20yu48116W4e211ROy1GN3VQ20h8iG113yjo2",
     "13yjo11QolM20jg36113yjo213yjo11OHQW20jg3611OHQW20jg3611OHQW20jg3611QolM20h8iG1Qj6Tg211ROy1",
     "16W4e213yjo113yjo213yjo116W4e211ROy113yjo213yjo113yjo213yjo113yjo213yjo113yjo216W4e113yjo2",
     "13yjo113yjo213yjo113yjo213yjo113zfs213yjo113yjo213yjo113yjo216W4e113yjo213yjo113yjo213yjo1",
     "13yjo213yjo113yjo213yjo113yjo213yjo116W4e2"],
    .paris⟩,
   ⟨["Europe/Zagreb"],
    [3832, 3600, 7200],
    ["zzzzz0izw7t1zzzzz1yMYen23HmeO10rI3c216W4e113yjo213yjo113yjo20yXaa1zzzzz1I8m6D213yjo113yjo2",
     "16W4e113yjo213yjo113yjo213yjo113yjo213yjo113yjo213yjo113yjo213yjo113yjo216W4e113yjo213yjo1",
     "13yjo213yjo113yjo213yjo113yjo213yjo113yjo213yjo116W4e2"],
    .paris⟩]

end ChatFlow.Calendar
