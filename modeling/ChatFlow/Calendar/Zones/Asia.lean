import ChatFlow.Calendar.Clock

/-!
# Zones of Asia

Each zone with its names, the offsets that it has had, the changes between them,
and the rule that has been in force since.
-/

namespace ChatFlow.Calendar

/-- The zones of Asia. -/
def asiaZones : List ZoneHistory :=
  [⟨["Asia/Aden"],
    [10794, 10800],
    ["zzzzz0zzzzz0zzzzz0zwwv31"],
    .steady 10800⟩,
   ⟨["Asia/Almaty"],
    [18468, 18000, 21600, 25200],
    ["zzzzz0zzzzz0zzzzz078Ev91D6Q9U2zzzzz2kRkJt314KHI213zfs314KHI213zfs314KHI214M9Q3140bw213yjo3",
     "13yjo213yjo313yjo213yjo313yjo213yjo313yjo213yjo313yjo213yjo316W4e227yPg10ebNQ20PMQK313yjo2",
     "13yjo313yjo213yjo313yjo213yjo313yjo216W4e31E85A20tpOS31E85A20tpOS31E85A20tpOS31GfQ020rI3c3",
     "1GfQ020rI3c31GfQ020tpOS31E85A20tpOS31E85A20tpOS31GfQ02fHlJ21"],
    .steady 18000⟩,
   ⟨["Asia/Amman"],
    [8624, 7200, 10800],
    ["zzzzz0zzzzz0zzzzz0LN1yF1zzzzz1Sc42L20gOp611EryK20tRyq11EryK20tRyq11FERs214gkq113dCK20tRyq1",
     "1EVUm20tRyq1Dt0pU214KHI11556W213xnk113zfs213xnk113zfs216V8a11FERs20sj1k11BbgO20wLnE118LOS2",
     "0x4kK1194LY211QSu113zfs213xnk113zfs20yt8411BbgO20wMjI11BakK20yu481193PU20yu481193PU20yu481",
     "1fgIq20UoVc1169b6214LDM113cGG214LDM113yjo213yjo113yjo21E85A10tpOS21BakK10yu48213yjo113yjo2",
     "1E85A10tpOS21E85A10tpOS21GfQ010rI3c21GfQ010rI3c21GfQ010tpOS21E85A10tpOS23gNJQ10ZXdo21GfQ01",
     "0rI3c21GfQ010tpOS21E85A10tpOS21E85A10tpOS21E85A10tpOS21E85A10tpOS21GfQ010rI3c21GfQ010h8iG2"],
    .steady 10800⟩,
   ⟨["Asia/Anadyr"],
    [42596, 43200, 46800, 50400, 39600],
    ["zzzzz0zzzzz0zzzzz0788dz1D6PsC2zzzzz2kRkJt314KHI228KtE113zfs214KHI114M9Q2140bw113yjo213yjo1",
     "13yjo213yjo113yjo213yjo113yjo213yjo113yjo213yjo113yjo216W4e127yPg40ebNQ10PMQK213yjo113yjo2",
     "13yjo113yjo213yjo113yjo213yjo116W4e21E85A10tpOS21E85A10tpOS21E85A10tpOS21GfQ010rI3c21GfQ01",
     "0rI3c21GfQ010tpOS21E85A10tpOS21E85A10tpOS21GfQ010rI3c21GfQ010rI3c21GfQ010rI3c21GfQ010tpOS2",
     "1E85A10tpOS21E85A12AVkW40rI3c1"],
    .steady 43200⟩,
   ⟨["Asia/Aqtau"],
    [12064, 14400, 18000, 21600],
    ["zzzzz0zzzzz0zzzzz078GaR1D6PQG2zzzzz2lW5XF328J16213zfs314KHI214M9Q3140bw213yjo313yjo213yjo3",
     "13yjo213yjo313yjo213yjo313yjo213yjo313yjo213yjo316W4e227yPg10ebNQ20PMQK313yjo213yjo313yjo2",
     "13yjo313yjo113zfs213yjo116W4e21E85A10tpOS21E85A10tpOS21E85A10tpOS21GfQ010rI3c21GfQ010rI3c2",
     "1GfQ010tpOS21E85A10tpOS21E85A10tpOS2"],
    .steady 18000⟩,
   ⟨["Asia/Aqtobe"],
    [13720, 14400, 18000, 21600],
    ["zzzzz0zzzzz0zzzzz078G9j1D6Pqy2zzzzz2kRkJt33CeES213zfs314KHI214M9Q3140bw213yjo313yjo213yjo3",
     "13yjo213yjo313yjo213yjo313yjo213yjo313yjo213yjo316W4e227yPg10ebNQ20PMQK313yjo213yjo313yjo2",
     "13yjo313yjo213yjo313yjo216W4e31E85A20tpOS31E85A20tpOS31E85A20tpOS31GfQ020rI3c31GfQ020rI3c3",
     "1GfQ020tpOS31E85A20tpOS31E85A20tpOS31GfQ02"],
    .steady 18000⟩,
   ⟨["Asia/Ashgabat", "Asia/Ashkhabad"],
    [14012, 14400, 18000, 21600],
    ["zzzzz0zzzzz0zzzzz078G511D6Pvg2zzzzz2kRkJt314KHI213zfs314KHI213zfs314KHI214M9Q3140bw213yjo3",
     "13yjo213yjo313yjo213yjo313yjo213yjo313yjo213yjo313yjo213yjo316W4e227yPg10ebNQ2"],
    .steady 18000⟩,
   ⟨["Asia/Atyrau"],
    [12464, 10800, 18000, 21600, 14400],
    ["zzzzz0zzzzz0zzzzz078GTz1D6QSm2zzzzz2lW4bB328J16213zfs314KHI214M9Q3140bw213yjo313yjo213yjo3",
     "13yjo213yjo313yjo213yjo313yjo213yjo313yjo213yjo316W4e227yPg40ebNQ20PMQK313yjo213yjo313yjo2",
     "13yjo313yjo213yjo313yjo216W4e31E85A20tpOS31E85A20tpOS31E85A22AVkW40rI3c21GfQ040rI3c21GfQ04",
     "0tpOS21E85A40tpOS21E85A40tpOS2"],
    .steady 18000⟩,
   ⟨["Asia/Baghdad"],
    [10660, 10656, 10800, 14400],
    ["zzzzz0voZ1p1xnBZs2zzzzz2zzzzz2DNtqc30tRyq213dCK314gkq214M9Q314KHI213zfs313dCK213yjo313yjo2",
     "13yjo313yjo213yjo313yjo213yjo313yjo213yjo316W4e214N5U314LDM214LDM314LDM213yjo314LDM213yjo3",
     "14LDM213yjo314LDM214LDM314LDM213yjo314LDM213yjo314LDM213yjo314LDM214LDM314LDM213yjo314LDM2",
     "13yjo314LDM213yjo314LDM214LDM314LDM213yjo314LDM213yjo314LDM213yjo314LDM2"],
    .steady 10800⟩,
   ⟨["Asia/Bahrain"],
    [12140, 12600, 14400, 10800],
    ["zzzzz0zzzzz0zzzzz0htpLT15ESQO2yge1g3"],
    .steady 10800⟩,
   ⟨["Asia/Baku"],
    [11964, 10800, 14400, 18000],
    ["zzzzz0zzzzz0zzzzz078Gc31zzzzz18733V2pR7b6314KHI213zfs314KHI213zfs314KHI214M9Q3140bw213yjo3",
     "13yjo213yjo313yjo213yjo313yjo213yjo313yjo213yjo313yjo213yjo316W4e227yPg113yjo28YP7Q31E85A2",
     "0toSO31E85A20tpOS31E85A20tpOS31GfQ020rI3c31GfQ020rI3c31GfQ020tpOS31E85A20tpOS31E85A20tpOS3",
     "1GfQ020rI3c31GfQ020rI3c31GfQ020rI3c31GfQ020tpOS31E85A20tpOS31E85A20tpOS31GfQ020rI3c31GfQ02",
     "0rI3c31GfQ020tpOS31E85A20tpOS31E85A20tpOS31E85A2"],
    .steady 14400⟩,
   ⟨["Asia/Bangkok"],
    [24124, 25200],
    ["zzzzz0zzzzz0yPKNi1"],
    .steady 25200⟩,
   ⟨["Asia/Barnaul"],
    [20100, 21600, 25200, 28800],
    ["zzzzz0zzzzz0xkNZe1MUGYu2zzzzz2kRkJt314KHI213zfs314KHI213zfs314KHI214M9Q3140bw213yjo313yjo2",
     "13yjo313yjo213yjo313yjo213yjo313yjo213yjo313yjo213yjo316W4e227yPg10ebNQ20PMQK313yjo213yjo3",
     "13yjo213yjo313yjo213yjo30MnDM20hCSW116W4e21E85A10tpOS21E85A10tpOS21E85A10tpOS21GfQ010rI3c2",
     "1GfQ010rI3c21GfQ010tpOS21E85A10tpOS21E85A10tpOS21GfQ010rI3c21GfQ010rI3c21GfQ010rI3c21GfQ01",
     "0tpOS21E85A10tpOS21E85A10tpOS21GfQ010rI3c27eWum131no82"],
    .steady 25200⟩,
   ⟨["Asia/Beirut"],
    [8520, 7200, 10800],
    ["zzzzz0aSGc51zzzzz1NvgGP21ETce10w1Bo214KHI1115rU2192TQ1194LY20rH7Y1zzzzz19oBtp20tRyq11EryK2",
     "0tRyq11EryK20tRyq11FERs20tRyq11EryK20tRyq1Mu1j620abCK11EryK20tRyq11EryK20tRyq11EryK20tRyq1",
     "1FERs20tRyq11EryK20tRyq11EVUm20tRyq1BvZAm20yt84119Qp620yt84119Qp620yt84119Qp620yt8411L24e2",
     "0neM411Ch7220vcq8119Qp620yt84119Qp620yt84119nIe20uXPU111SL2213xnk113zfs213xnk113zfs213xnk1",
     "16X0i213xnk113zfs213xnk113zfs213xnk113zfs2"],
    .beirut⟩,
   ⟨["Asia/Bishkek"],
    [17904, 18000, 21600, 25200],
    ["zzzzz0zzzzz0zzzzz078F4F1D6Q0O2zzzzz2kRkJt314KHI213zfs314KHI213zfs314KHI214M9Q3140bw213yjo3",
     "13yjo213yjo313yjo213yjo313yjo213yjo313yjo213yjo313yjo213yjo316W4e21xRei11JYIK20yt841194LY2",
     "0yt841194LY20yt841194LY20yt841194LY211QSu11421221E79610tqKW21E79610tqKW21GeTw10rIzg21GeTw1",
     "0rIzg21GeTw10tqKW21E79610tqKW21E79610tqKW21GeTw10rIzg2"],
    .steady 21600⟩,
   ⟨["Asia/Brunei"],
    [27580, 27000, 28800],
    ["zzzzz0zzzzz0zzzzz0B2MuV1EbafE2"],
    .steady 28800⟩,
   ⟨["Asia/Calcutta", "Asia/Kolkata"],
    [21208, 21200, 19270, 19800, 23400],
    ["hyCTY1X84LI2zzzzz2EsUfL3zzzzz3ELUel41Juls30dWsq46fGN63"],
    .steady 19800⟩,
   ⟨["Asia/Chita"],
    [27232, 28800, 32400, 36000],
    ["zzzzz0zzzzz0xmA6M1MSSA42zzzzz2kRkJt314KHI213zfs314KHI213zfs314KHI214M9Q3140bw213yjo313yjo2",
     "13yjo313yjo213yjo313yjo213yjo313yjo213yjo313yjo213yjo316W4e227yPg10ebNQ20PMQK313yjo213yjo3",
     "13yjo213yjo313yjo213yjo313yjo216W4e31E85A20tpOS31E85A20tpOS31E85A20tpOS31GfQ020rI3c31GfQ02",
     "0rI3c31GfQ020tpOS31E85A20tpOS31E85A20tpOS31GfQ020rI3c31GfQ020rI3c31GfQ020rI3c31GfQ020tpOS3",
     "1E85A20tpOS31E85A20tpOS31GfQ020rI3c37eWum131okC2"],
    .steady 32400⟩,
   ⟨["Asia/Choibalsan", "Asia/Ulaanbaatar", "Asia/Ulan_Bator"],
    [25652, 25200, 28800, 32400],
    ["zzzzz0zzzzz0T5GuM1zzzzz1zzzzz1UfAJi2BCaCe314KHI214M9Q313xnk213zfs313xnk213zfs313xnk213zfs3",
     "13xnk213zfs313xnk213zfs313xnk213zfs316V8a213zfs313xnk213zfs313xnk213zfs313xnk213zfs313xnk2",
     "13zfs313xnk216X0i313xnk213zfs313xnk213zfs313xnk25WGhs30toSO213zfs313xnk213zfs313xnk213zfs3",
     "13xnk213zfs313xnk213zfs316V8a2I8Cpc313vvc2141Y0313vvc2"],
    .steady 28800⟩,
   ⟨["Asia/Chongqing", "Asia/Chungking", "Asia/Harbin", "Asia/Shanghai", "PRC"],
    [29143, 28800, 32400],
    ["zzzzz0zzzzz0JIkfb1d2DmZ20zyYi1i8igq20mYvQ10tTqy21M5dA10WdpQ27etOK11USSu20oNJA1194LY21AUNc1",
     "13zfs20tRyq11EryK209lvk1zzzzz1GsVxx20mCRs11E91E20toSO11GgM420rH7Y11GgM420toSO11E91E20toSO1",
     "1E91E20toSO1"],
    .steady 28800⟩,
   ⟨["Asia/Colombo"],
    [19164, 19172, 19800, 21600, 23400],
    ["zzzzz0aSDqP1tWXfM2zzzzz2EuINp31OdR246ffBo2zzzzz2k4uIL40tovQ3KDcVM2"],
    .steady 19800⟩,
   ⟨["Asia/Dacca", "Asia/Dhaka"],
    [21700, 21200, 23400, 19800, 21600, 25200],
    ["zzzzz0voW9l1zzzzz1mVjcb21Jv8S30dWsq2JO7QO4zzzzz4zH7Pd518gvw4"],
    .steady 21600⟩,
   ⟨["Asia/Damascus"],
    [8712, 7200, 10800],
    ["zzzzz0zzzzz0xsP1O10dBjk20yt841194LY20yt841194LY20yt841194LY211QSu1zzzzz1KLpBZ20uAvw11EryK2",
     "0t5VI11FavQ20tRyq11EryK20t5VI11Ch7220vzJg11EryK20tRyq11FERs20tRyq11EryK20tRyq11EryK20tRyq1",
     "1EryK20tRyq11FERs20tRyq11EryK20tRyq11EryK20tRyq11EryK20tRyq11FERs20tRyq11EryK20iZgO11PkGm2",
     "0iZgO19pQ4u211QSu117Fxo211QSu12wMeu21NB3o10pr5U21QRLk10nJke21LMg410skts214gkq113zfs213xnk1",
     "14KHI214KHI116tUG211mwS111ooa214KHI116AXA214KHI113zfs214KHI114M9Q214KHI113dCK214gkq113Gim2",
     "153EO113zfs214KHI114M9Q214KHI113zfs214KHI113zfs214KHI113zfs214KHI114M9Q214KHI113zfs214KHI1",
     "13zfs2113zM116X0i21GeTw10tqKW21ETce10qwW821GeTw10tqKW21E79610tqKW21E79610tqKW21E79610tqKW2",
     "1E79610tqKW21GeTw10rIzg21GeTw10rIzg21GeTw10tqKW21E79610tqKW21E79610tqKW21E79610tqKW21GeTw1",
     "0rIzg21GeTw10rIzg2"],
    .steady 10800⟩,
   ⟨["Asia/Dili"],
    [30140, 28800, 32400],
    ["zzzzz0zzzzz0gn1D01zzzzz12NOHh2zzzzz2B1a5p1q3ZzM2"],
    .steady 32400⟩,
   ⟨["Asia/Dubai"],
    [13272, 14400],
    ["zzzzz0zzzzz0xsNpq1"],
    .steady 14400⟩,
   ⟨["Asia/Dushanbe"],
    [16512, 18000, 21600, 25200],
    ["zzzzz0zzzzz0zzzzz078FQh1D6Pdw2zzzzz2kRkJt314KHI213zfs314KHI213zfs314KHI214M9Q3140bw213yjo3",
     "13yjo213yjo313yjo213yjo313yjo213yjo313yjo213yjo313yjo213yjo316W4e220isi1"],
    .steady 18000⟩,
   ⟨["Asia/Famagusta"],
    [8148, 7200, 10800],
    ["zzzzz0zzzzz0zzzzz01s0g31zzzzz1q49VF213xnk11GJsW20s04e1115rU211QSu116X0i214KHI113dCK213xnk1",
     "16X0i211QSu113zfs213xnk113zfs213xnk113zfs213xnk113zfs216V8a113zfs213xnk113zfs213xnk113zfs2",
     "13xnk113zfs213xnk113zfs213xnk113zfs216V8a113zfs213xnk113zfs213xnk113zfs213xnk113zfs213xnk1",
     "13zfs213xnk116X0i213xnk113zfs213xnk113zfs21EAtM10tpOS21GfQ010rI3c21GfQ010rI3c21GfQ010tpOS2",
     "1E85A10tpOS21E85A10tpOS21GfQ010rI3c21GfQ010rI3c21GfQ010rI3c21GfQ010tpOS21E85A10tpOS21E85A1",
     "0tpOS21GfQ010rI3c21GfQ010rI3c21GfQ010tpOS21E85A10tpOS21E85A10tpOS21E85A10tpOS23Octc1"],
    .athens⟩,
   ⟨["Asia/Gaza"],
    [8272, 7200, 10800],
    ["zzzzz0zzzzz0IlUFm1zzzzz1MiIwT20iE8u10H2Om24AqHY10sjxo21FZzM10t6RM21FZzM10yB7221A8q810yB722",
     "1A8q81MT9eK20qBgu11EryK20tRyq11EsuO20t7NQ11FZ3I20t7NQ11FCZk20t7NQ11FCZk20t7NQ11FCZk20t7NQ1",
     "1FZ3I20t7NQ11FCZk20t7NQ11FCZk20tTqy11Eq6C20Ceo41F8aoq20ZVlg116X0i20mCRs1AWCJc20FE1217m9rM2",
     "0ebNQ11Lk5g20ojmi11VuN620eaRM11Hlmi20sj1k11E91E20rH7Y11OIMa20jf7211BbgO20toSO11E91E20wLnE1",
     "1E91E20wLnE11DQ4820uXPU11DQ4820s04e11FxOy20uXPU11FxOy20yu481193PU20yu481193PU20yu4811E85A2",
     "13xnk116X0i213xnk113zfs213xnk113zfs213xnk113zfs213xnk113zfs20yu481193PU210MuO112sN62113zM1",
     "17Fxo20xpZY119Owy20toSO11E91E20wMjI11BxEq20neL611MTzo20iDBs11PkGm211ROy116W4e213xnk113zfs2",
     "1E79610uCo421Dlbc10uCo421GeTw10rIzg21GeTw10rIzg21GeTw10tSuu21ETce10tqKW21E85A10tpOS21GIwS1",
     "0s10i21GJsW113zfs213xnk111SL2216V8a10yv0C2192TQ10tqKW21E79610tqKW21GeTw10rIzg21GeTw10rIzg2",
     "1GeTw10tqKW21E79610tqKW21E79610tqKW21GeTw10rIzg21GeTw10rIzg21GeTw10rIzg21GeTw10tqKW21BZoG1",
     "0wNfM2192TQ10yv0C213xnk113zfs211QSu116X0i20wLnE10HmHw202WOm10tqKW20rH7Y10FEx6207b4S10tqKW2",
     "0ojmi10FEx620A8PI10tqKW20jf7210HmHw20Cfk810tqKW20h7mC10FEx620KHke10rIzg20eaRM10FEx620Mp5U1",
     "0rIzg20ZVlg10HmHw20PMQK10tqKW20UR6010FEx620UR6010tqKW20PMQK10HmHw20WyQq10tqKW20Mp5U10FEx62",
     "0eaRM10rIzg20KHke10FEx620h7mC10rIzg20FD4y10HmHw20jf7210tqKW20A8PI10FEx620ojmi10tqKW2053jc1",
     "0HmHw20rH7Y10tqKW202WOm10HmHw20toSO1194LY211QSu113zfs213xnk10yv0C2192TQ10wNfM21BZoG10tqKW2",
     "1E79610tqKW21GeTw10rIzg21GeTw10rIzg21GeTw10rIzg21GeTw10tqKW21E79610tqKW21E79610tqKW21GeTw1",
     "0rIzg21GeTw10rIzg21E79610wNfM2192TQ10yv0C216V8a111SL2211QSu116X0i20yt8410FEx6202WOm10rIzg2",
     "0wLnE10FEx62053jc10rIzg20rH7Y10HmHw207b4S10tqKW20mCRs10FEx620Cfk810tqKW20h7mC10HmHw20FD4y1",
     "0tqKW20eaRM10HmHw20KHke10rIzg20c36W10FEx620PMQK10rIzg20WyQq10HmHw20RtlA10tqKW20RtlA10FEx62",
     "0WyQq10tqKW20PMQK10FEx620ZVlg10tqKW20KHke10HmHw20c36W10tqKW20HkPo10FEx620jf7210rIzg20Cfk81",
     "0HmHw20mCRs10rIzg20A8PI10HmHw20ojmi10tqKW2053jc10FEx62"],
    .gaza⟩,
   ⟨["Asia/Hebron"],
    [8423, 7200, 10800],
    ["zzzzz0zzzzz0IlUDL1zzzzz1MiIyu20iE8u10H2Om24AqHY10sjxo21FZzM10t6RM21FZzM10yB7221A8q810yB722",
     "1A8q81MT9eK20qBgu11EryK20tRyq11EsuO20t7NQ11FZ3I20t7NQ11FCZk20t7NQ11FCZk20t7NQ11FCZk20t7NQ1",
     "1FZ3I20t7NQ11FCZk20t7NQ11FCZk20tTqy11Eq6C20Ceo41F8aoq20ZVlg116X0i20mCRs1AWCJc20FE1217m9rM2",
     "0ebNQ11Lk5g20ojmi11VuN620eaRM11Hlmi20sj1k11E91E20rH7Y11OIMa20jf7211BbgO20toSO11E91E20wLnE1",
     "1E91E20wLnE11DQ4820uXPU11DQ4820s04e11FxOy20uXPU11FxOy20yu481193PU20yu481193PU20yu4811E85A2",
     "13xnk116X0i213xnk113zfs213xnk113zfs213xnk113zfs213xnk113zfs20yu481193PU210MuO112sN62113zM1",
     "17Fxo20xpZY119Owy20utt211D3aa20wMjI11BakK20o0pc11MTzo20iDBs10AWky20BDpw113zfs211ROy116W4e2",
     "13xnk113zfs21E79610uCo421Dlbc10uCo421GeTw10rIzg21GeTw10rIzg21GeTw10tSuu21ETce10tqKW21E85A1",
     "0tpOS21GIwS10s10i21GJsW113zfs213xnk111SL2216V8a10yv0C2192TQ10tqKW21E79610tqKW21GeTw10rIzg2",
     "1GeTw10rIzg21GeTw10tqKW21E79610tqKW21E79610tqKW21GeTw10rIzg21GeTw10rIzg21GeTw10rIzg21GeTw1",
     "0tqKW21BZoG10wNfM2192TQ10yv0C213xnk113zfs211QSu116X0i20wLnE10HmHw202WOm10tqKW20rH7Y10FEx62",
     "07b4S10tqKW20ojmi10FEx620A8PI10tqKW20jf7210HmHw20Cfk810tqKW20h7mC10FEx620KHke10rIzg20eaRM1",
     "0FEx620Mp5U10rIzg20ZVlg10HmHw20PMQK10tqKW20UR6010FEx620UR6010tqKW20PMQK10HmHw20WyQq10tqKW2",
     "0Mp5U10FEx620eaRM10rIzg20KHke10FEx620h7mC10rIzg20FD4y10HmHw20jf7210tqKW20A8PI10FEx620ojmi1",
     "0tqKW2053jc10HmHw20rH7Y10tqKW202WOm10HmHw20toSO1194LY211QSu113zfs213xnk10yv0C2192TQ10wNfM2",
     "1BZoG10tqKW21E79610tqKW21GeTw10rIzg21GeTw10rIzg21GeTw10rIzg21GeTw10tqKW21E79610tqKW21E7961",
     "0tqKW21GeTw10rIzg21GeTw10rIzg21E79610wNfM2192TQ10yv0C216V8a111SL2211QSu116X0i20yt8410FEx62",
     "02WOm10rIzg20wLnE10FEx62053jc10rIzg20rH7Y10HmHw207b4S10tqKW20mCRs10FEx620Cfk810tqKW20h7mC1",
     "0HmHw20FD4y10tqKW20eaRM10HmHw20KHke10rIzg20c36W10FEx620PMQK10rIzg20WyQq10HmHw20RtlA10tqKW2",
     "0RtlA10FEx620WyQq10tqKW20PMQK10FEx620ZVlg10tqKW20KHke10HmHw20c36W10tqKW20HkPo10FEx620jf721",
     "0rIzg20Cfk810HmHw20mCRs10rIzg20A8PI10HmHw20ojmi10tqKW2053jc10FEx62"],
    .gaza⟩,
   ⟨["Asia/Ho_Chi_Minh", "Asia/Saigon"],
    [25590, 25200, 28800, 32400],
    ["zzzzz0zzzzz0fMDHQ1zzzzz15dgJz24hSEq30zzUm13MqO02HcHxI19cL322WzMu01"],
    .steady 25200⟩,
   ⟨["Asia/Hong_Kong", "Hongkong"],
    [27402, 28800, 32400, 30600],
    ["zzzzz0zzzzz0RTZxq1zzzzz1GDXAv20d9TE30UlEO28KG4010toSO21JG2410mDNw21Lk5g10tpOS213yjo10tpOS2",
     "1E85A10tpOS21E85A10tpOS21E85A10wMjI21E85A10tpOS21E79610oleq21JBom10oleq21Lj9c10mEK021Lj9c1",
     "0oleq21JBom10oleq21JBom10oleq21JBom10oleq21Lj9c10mEK021Lj9c10mEK021Lj9c10oleq21JBom10oleq2",
     "1JBom10yv0C213xnk113zfs213xnk113zfs216V8a113zfs213xnk113zfs213xnk113zfs213xnk113zfs213xnk1",
     "13zfs216V8a113zfs213xnk10POIS21iZBA113zfs213xnk113zfs213xnk15U3yS20wLnE1"],
    .steady 28800⟩,
   ⟨["Asia/Hovd"],
    [21996, 21600, 25200, 28800],
    ["zzzzz0zzzzz0T5HrK1zzzzz1zzzzz1UfAIo2BCaCe314KHI214M9Q313xnk213zfs313xnk213zfs313xnk213zfs3",
     "13xnk213zfs313xnk213zfs313xnk213zfs316V8a213zfs313xnk213zfs313xnk213zfs313xnk213zfs313xnk2",
     "13zfs313xnk216X0i313xnk213zfs313xnk213zfs313xnk25WGhs30toSO213zfs313xnk213zfs313xnk213zfs3",
     "13xnk213zfs313xnk213zfs316V8a2I8Cpc313vvc2141Y0313vvc2"],
    .steady 25200⟩,
   ⟨["Asia/Irkutsk"],
    [25025, 25200, 28800, 32400],
    ["zzzzz0zzzzz0y12DR1MDaz32zzzzz2kRkJt314KHI213zfs314KHI213zfs314KHI214M9Q3140bw213yjo313yjo2",
     "13yjo313yjo213yjo313yjo213yjo313yjo213yjo313yjo213yjo316W4e227yPg10ebNQ20PMQK313yjo213yjo3",
     "13yjo213yjo313yjo213yjo313yjo216W4e31E85A20tpOS31E85A20tpOS31E85A20tpOS31GfQ020rI3c31GfQ02",
     "0rI3c31GfQ020tpOS31E85A20tpOS31E85A20tpOS31GfQ020rI3c31GfQ020rI3c31GfQ020rI3c31GfQ020tpOS3",
     "1E85A20tpOS31E85A20tpOS31GfQ020rI3c37eWum2"],
    .steady 28800⟩,
   ⟨["Asia/Istanbul", "Europe/Istanbul", "Turkey"],
    [6952, 7016, 7200, 10800, 14400],
    ["zzzzz0aSH1N1zzzzz13fA3N2BvBiC30tRyq27Rs6i31ETce20w1Bo314KHI2115rU3192TQ23PMmm30p6GG21EryK3",
     "0tRyq2VUwJE30Z9I820KJcm31iZBA217cRM37WBxA21NZPU30iDCq21AsjI30yt842194LY30yt84216X0i311QSu2",
     "194LY311QSu2194LY30yt842N0BpQ32l60m219nIe30oNJA2IW9Ds30tpOS20rIzg31GeTw20oPBI31JYIK20oleq3",
     "1JBom20tqKW3192TQ20yv0C3BNSV640Mp5U32JZfE20zd1E30wMjI214LDM313yjo213yjo313yjo213yjo313yjo2",
     "13yjo313yjo213yjo316W4e213yjo313yjo213yjo313yjo213yjo313yjo211ROy316W4e213yjo313yjo216W4e3",
     "1E85A20tpOS31E85A20tpOS31E85A20tpOS31GfQ020rI3c31GfQ020rI3c31GfQ020tpOS31E85A20tpOS31E85A2",
     "0tpOS31GfQ020rI3c31GfQ020rI3c31GfQ020rJvk31GfQ020tpOS31E85A20tpOS31E85A20tpOS31GfQ020reXA3",
     "1GIwS20rI3c31GfQ020tpOS31E85A20uBs031Dlbc20tpOS31JCkq20okim3"],
    .steady 10800⟩,
   ⟨["Asia/Jakarta"],
    [25632, 26400, 27000, 32400, 28800, 25200],
    ["zzzzz0zzzzz0zzzzz06PyiJ1Irrwe2K363k37U0cq25Ymdc44GdRI2TC6485"],
    .steady 25200⟩,
   ⟨["Asia/Jayapura"],
    [33768, 32400, 34200],
    ["zzzzz0zzzzz0zzzzz0PHok71PGqAC2fHmi81"],
    .steady 32400⟩,
   ⟨["Asia/Jerusalem", "Asia/Tel_Aviv", "Israel"],
    [8454, 8440, 7200, 10800, 14400],
    ["zzzzz0aSGd91zzzzz1J9UYJ2ls20m30iE8u20H2Om34AqHY20sjxo31FZzM20t6RM31FZzM20yB7231A8q820yB723",
     "1A8q823KHB240ac8O30M74S213cGG314hgu20yB7230t6RM219mMa31JCkq20wMjI313yjo211ROy30tpOS21ay6i3",
     "0WzMu21ay6i30WzMu21YQls30h8iG21E85A30rI3c2ZqyYa30ZVlg216X0i30mCRs2AWCJc30FE1227m9rM30ebNQ2",
     "1Lk5g30ojmi21VuN630eaRM21Hlmi30sj1k21E91E30rH7Y21OIMa30jf7221BbgO30toSO21E91E30wLnE21E91E3",
     "0wLnE21DQ4830uXPU21DQ4830s04e21FxOy30uXPU218LOS3153EO215Ra43129Q0215o3c30zc5A21DRwG30toSO2",
     "1JDgu311PWq21556W30yt84215Ra4317aZE210MuO316V8a215o3c30yt84217Gts317E5g210jNw314gkq213Gim3",
     "0zc5A218LOS317E5g210jNw314gkq213Gim30zc5A21AsjI314gkq213Gim3129Q0215o3c3"],
    .jerusalem⟩,
   ⟨["Asia/Kabul"],
    [16608, 14400, 16200],
    ["zzzzz0voXTt1zzzzz1tSQFd2"],
    .steady 16200⟩,
   ⟨["Asia/Kamchatka"],
    [38076, 39600, 43200, 46800],
    ["zzzzz0zzzzz0zzzzz03ykwJ1GFoVw2zzzzz2kRkJt314KHI213zfs314KHI213zfs314KHI214M9Q3140bw213yjo3",
     "13yjo213yjo313yjo213yjo313yjo213yjo313yjo213yjo313yjo213yjo316W4e227yPg10ebNQ20PMQK313yjo2",
     "13yjo313yjo213yjo313yjo213yjo313yjo216W4e31E85A20tpOS31E85A20tpOS31E85A20tpOS31GfQ020rI3c3",
     "1GfQ020rI3c31GfQ020tpOS31E85A20tpOS31E85A20tpOS31GfQ020rI3c31GfQ020rI3c31GfQ020rI3c31GfQ02",
     "0tpOS31E85A20tpOS31E85A22AVkW10rI3c2"],
    .steady 43200⟩,
   ⟨["Asia/Karachi"],
    [16092, 19800, 23400, 18000, 21600],
    ["zzzzz0zzzzz0W76Gc1zzzzz1EAbX326fGN61CirzM3zzzzz3jtKRt413xnk3C4d5U40tRyq30xpZY41AUNc3"],
    .steady 18000⟩,
   ⟨["Asia/Kashgar", "Asia/Urumqi"],
    [21020, 21600],
    ["zzzzz0zzzzz0zzzzz0ExePH1"],
    .steady 21600⟩,
   ⟨["Asia/Kathmandu", "Asia/Katmandu"],
    [20476, 19800, 20700],
    ["zzzzz0zzzzz0xsLxe1zzzzz1zzzzz1GxPFu2"],
    .steady 20700⟩,
   ⟨["Asia/Khandyga"],
    [32533, 28800, 32400, 36000, 39600],
    ["zzzzz0zzzzz0xm8ir1MSTXZ2zzzzz2kRkJt314KHI213zfs314KHI213zfs314KHI214M9Q3140bw213yjo313yjo2",
     "13yjo313yjo213yjo313yjo213yjo313yjo213yjo313yjo213yjo316W4e227yPg10ebNQ20PMQK313yjo213yjo3",
     "13yjo213yjo313yjo213yjo313yjo216W4e31E85A20tpOS31E85A20tpOS31E85A20tpOS31GfQ020rI3c31GfQ02",
     "0rI3c31GfQ020tpOS31E85A20tpOS31E85A20OG3c30VYOm41GfQ030rI3c41GfQ030rI3c41GfQ030rI3c41GfQ03",
     "0tpOS41E85A30tpOS41E85A30tpOS41GfQ030rI3c40zaD236exdo2"],
    .steady 32400⟩,
   ⟨["Asia/Krasnoyarsk"],
    [22286, 21600, 25200, 28800],
    ["zzzzz0zzzzz0xu9sC1MKUGM2zzzzz2kRkJt314KHI213zfs314KHI213zfs314KHI214M9Q3140bw213yjo313yjo2",
     "13yjo313yjo213yjo313yjo213yjo313yjo213yjo313yjo213yjo316W4e227yPg10ebNQ20PMQK313yjo213yjo3",
     "13yjo213yjo313yjo213yjo313yjo216W4e31E85A20tpOS31E85A20tpOS31E85A20tpOS31GfQ020rI3c31GfQ02",
     "0rI3c31GfQ020tpOS31E85A20tpOS31E85A20tpOS31GfQ020rI3c31GfQ020rI3c31GfQ020rI3c31GfQ020tpOS3",
     "1E85A20tpOS31E85A20tpOS31GfQ020rI3c37eWum2"],
    .steady 25200⟩,
   ⟨["Asia/Kuala_Lumpur"],
    [24406, 24925, 25200, 26400, 27000, 32400, 28800],
    ["zzzzz0zzzzz0JIlu019QO7d2wuo173IVO5I40ytuS57ci404zzzzz4FX6Th6"],
    .steady 28800⟩,
   ⟨["Asia/Kuching"],
    [26480, 27000, 28800, 30000, 32400],
    ["zzzzz0zzzzz0zzzzz0B2NCF1EbaNU25lRRg30Wz3Y21bhNA30Wz3Y21bKtc30Wz3Y21bKtc30Wz3Y21bKtc30Wz3Y2",
     "1bhNA30Wz3Y21bKtc30Wz3Y20NCoS47ciX22"],
    .steady 28800⟩,
   ⟨["Asia/Kuwait"],
    [11516, 10800],
    ["zzzzz0zzzzz0zzzzz0zwwjP1"],
    .steady 10800⟩,
   ⟨["Asia/Macao", "Asia/Macau"],
    [27250, 28800, 32400, 36000],
    ["zzzzz0zzzzz0RTZQm1zzzzz1HKMVv20l71E31AqrA20xT6030tRyq24H2G011Er2G20tSuu11ArnE21JZEO10tpOS2",
     "13yjo10tSuu21E85A10tpOS21E85A10tpOS21EUYi10w0Fk21E85A10tpOS21E85A10okim21JCkq10okim21Lk5g1",
     "0mDNw21LnMu10oleq21JBom10oleq21JBom10oleq21JBom10oleq21Lj9c10mEK021Lj9c10mEK021Lj9c10oleq2",
     "1JBom10oleq21JBom10yv0C213wrg1140bw213wrg1140bw216V8a113zfs213xnk113zfs213xnk113zfs213xnk1",
     "13zfs213xnk113zfs216V8a113zfs213xnk10POIS21iZBA113zfs213xnk113zfs213xnk15U3yS20wLnE1"],
    .steady 28800⟩,
   ⟨["Asia/Magadan"],
    [36192, 36000, 39600, 43200],
    ["zzzzz0zzzzz0zzzzz078AJH1D6Q522zzzzz2kRkJt314KHI213zfs314KHI213zfs314KHI214M9Q3140bw213yjo3",
     "13yjo213yjo313yjo213yjo313yjo213yjo313yjo213yjo313yjo213yjo316W4e227yPg10ebNQ20PMQK313yjo2",
     "13yjo313yjo213yjo313yjo213yjo313yjo216W4e31E85A20tpOS31E85A20tpOS31E85A20tpOS31GfQ020rI3c3",
     "1GfQ020rI3c31GfQ020tpOS31E85A20tpOS31E85A20tpOS31GfQ020rI3c31GfQ020rI3c31GfQ020rI3c31GfQ02",
     "0tpOS31E85A20tpOS31E85A20tpOS31GfQ020rI3c37eWum13By5Y2"],
    .steady 39600⟩,
   ⟨["Asia/Makassar", "Asia/Ujung_Pandang"],
    [28656, 28800, 32400],
    ["zzzzz0zzzzz0zzzzz0PHq4Z1JnsA427jF6u1"],
    .steady 28800⟩,
   ⟨["Asia/Manila"],
    [-57368, 29032, 28800, 32400],
    ["Ni14C1zzzzz1smBDN2zzzzz2HLI2r30RXHc2AUkPQ38SCCu2HrAQq30JYnY2miZrE312VtY2R2Kfo30Ozwm2"],
    .steady 28800⟩,
   ⟨["Asia/Muscat"],
    [14064, 14400],
    ["zzzzz0zzzzz0xsNd41"],
    .steady 14400⟩,
   ⟨["Asia/Nicosia", "Europe/Nicosia"],
    [8008, 7200, 10800],
    ["zzzzz0zzzzz0zzzzz01s0iJ1zzzzz1q49Sz213xnk11GJsW20s04e1115rU211QSu116X0i214KHI113dCK213xnk1",
     "16X0i211QSu113zfs213xnk113zfs213xnk113zfs213xnk113zfs216V8a113zfs213xnk113zfs213xnk113zfs2",
     "13xnk113zfs213xnk113zfs213xnk113zfs216V8a113zfs213xnk113zfs213xnk113zfs213xnk113zfs213xnk1",
     "13zfs213xnk116X0i213xnk113zfs213xnk113zfs21EAtM1"],
    .athens⟩,
   ⟨["Asia/Novokuznetsk"],
    [20928, 21600, 25200, 28800],
    ["zzzzz0zzzzz0zzzzz077rnv1D6mKe2zzzzz2kRkJt314KHI213zfs314KHI213zfs314KHI214M9Q3140bw213yjo3",
     "13yjo213yjo313yjo213yjo313yjo213yjo313yjo213yjo313yjo213yjo316W4e227yPg10ebNQ20PMQK313yjo2",
     "13yjo313yjo213yjo313yjo213yjo313yjo216W4e31E85A20tpOS31E85A20tpOS31E85A20tpOS31GfQ020rI3c3",
     "1GfQ020rI3c31GfQ020tpOS31E85A20tpOS31E85A20tpOS31GfQ020rI3c31GfQ020rI3c31GfQ020rI3c31GfQ02",
     "0tpOS31E85A20tpOS31E85A22AVkW10rI3c2"],
    .steady 25200⟩,
   ⟨["Asia/Novosibirsk"],
    [19900, 21600, 25200, 28800],
    ["zzzzz0zzzzz0xlv9S1MSiz62zzzzz2kRkJt314KHI213zfs314KHI213zfs314KHI214M9Q3140bw213yjo313yjo2",
     "13yjo313yjo213yjo313yjo213yjo313yjo213yjo313yjo213yjo316W4e227yPg10ebNQ20PMQK313yjo213yjo3",
     "0KFsW20jjnM113yjo213yjo113yjo213yjo116W4e21E85A10tpOS21E85A10tpOS21E85A10tpOS21GfQ010rI3c2",
     "1GfQ010rI3c21GfQ010tpOS21E85A10tpOS21E85A10tpOS21GfQ010rI3c21GfQ010rI3c21GfQ010rI3c21GfQ01",
     "0tpOS21E85A10tpOS21E85A10tpOS21GfQ010rI3c27eWum13iwWO2"],
    .steady 25200⟩,
   ⟨["Asia/Omsk"],
    [17610, 18000, 21600, 25200],
    ["zzzzz0zzzzz0xaxpY1MdhF42zzzzz2kRkJt314KHI213zfs314KHI213zfs314KHI214M9Q3140bw213yjo313yjo2",
     "13yjo313yjo213yjo313yjo213yjo313yjo213yjo313yjo213yjo316W4e227yPg10ebNQ20PMQK313yjo213yjo3",
     "13yjo213yjo313yjo213yjo313yjo216W4e31E85A20tpOS31E85A20tpOS31E85A20tpOS31GfQ020rI3c31GfQ02",
     "0rI3c31GfQ020tpOS31E85A20tpOS31E85A20tpOS31GfQ020rI3c31GfQ020rI3c31GfQ020rI3c31GfQ020tpOS3",
     "1E85A20tpOS31E85A20tpOS31GfQ020rI3c37eWum2"],
    .steady 21600⟩,
   ⟨["Asia/Oral"],
    [12324, 10800, 18000, 21600, 14400],
    ["zzzzz0zzzzz0zzzzz078GWF1D6QQW2zzzzz2kRjNp33CeES213zfs314KHI214M9Q3140bw213yjo313yjo213yjo3",
     "13yjo213yjo313yjo213yjo313yjo227yPg413yjo216W4e413yjo213yjo40ebNQ21TM6C413yjo213yjo413yjo2",
     "13yjo413yjo213yjo416W4e21E85A40tpOS21E85A40tpOS21E85A40tpOS21GfQ040rI3c21GfQ040rI3c21GfQ04",
     "0tpOS21E85A40tpOS21E85A40tpOS2"],
    .steady 18000⟩,
   ⟨["Asia/Phnom_Penh"],
    [25180, 25590, 25200, 28800, 32400],
    ["zzzzz0zzzzz0V2MD81AJr4I2zzzzz25dgJz34hSEq40zzUm2"],
    .steady 25200⟩,
   ⟨["Asia/Pontianak"],
    [26240, 27000, 32400, 28800, 25200],
    ["zzzzz0zzzzz0zzzzz0PHqhX1Jjsl627nDsu15Ymdc34GdRI1TC6483pFtI84"],
    .steady 25200⟩,
   ⟨["Asia/Pyongyang"],
    [30180, 30600, 32400],
    ["zzzzz0zzzzz0YmLvS180eoW2zzzzz2zzzzz2zzzzz2ZIUup15oLj62"],
    .steady 32400⟩,
   ⟨["Asia/Qatar"],
    [12368, 14400, 10800],
    ["zzzzz0zzzzz0xsO4Q1zzzzz1nwXj72"],
    .steady 10800⟩,
   ⟨["Asia/Qostanay"],
    [15268, 14400, 18000, 21600],
    ["zzzzz0zzzzz0zzzzz078Fkl1D6QFw2zzzzz2kRkJt33CeES213zfs314KHI214M9Q3140bw213yjo313yjo213yjo3",
     "13yjo213yjo313yjo213yjo313yjo213yjo313yjo213yjo316W4e227yPg10ebNQ20PMQK313yjo213yjo313yjo2",
     "13yjo313yjo213yjo313yjo216W4e31E85A20tpOS31E85A20tpOS31E85A20tpOS31GfQ020rI3c31GfQ020rI3c3",
     "1GfQ020tpOS31E85A20tpOS31E85A20tpOS3gYPmy2"],
    .steady 18000⟩,
   ⟨["Asia/Qyzylorda"],
    [15712, 14400, 18000, 21600],
    ["zzzzz0zzzzz0zzzzz078Fdb1D6QN62zzzzz2kRkJt33CeES213zfs314KHI214M9Q3140bw213yjo313yjo213yjo3",
     "13yjo213yjo313yjo213yjo313yjo213yjo313yjo213yjo316W4e22mYr231TM6C213yjo313yjo213yjo313yjo2",
     "13yjo313yjo216W4e31E85A20tpOS31E85A20tpOS31E85A20tpOS31GfQ020rI3c31GfQ020rI3c31GfQ020tpOS3",
     "1E85A20tpOS31E85A20tpOS3VShhg2"],
    .steady 18000⟩,
   ⟨["Asia/Rangoon", "Asia/Yangon"],
    [23087, 23400, 32400],
    ["zzzzz0zzzzz0xsLHX1lgkxb26Q0wy1"],
    .steady 23400⟩,
   ⟨["Asia/Riyadh"],
    [11212, 10800],
    ["zzzzz0zzzzz0zzzzz0tximl1"],
    .steady 10800⟩,
   ⟨["Asia/Sakhalin"],
    [34248, 32400, 39600, 43200, 36000],
    ["zzzzz0zzzzz0TDD9m1zzzzz1NREMr2zzzzz2E1tBZ314KHI213zfs314KHI213zfs314KHI214M9Q3140bw213yjo3",
     "13yjo213yjo313yjo213yjo313yjo213yjo313yjo213yjo313yjo213yjo316W4e227yPg40ebNQ20PMQK313yjo2",
     "13yjo313yjo213yjo313yjo213yjo313yjo216W4e31E85A227yPg40tpOS21E85A40tpOS21GfQ040rI3c21GfQ04",
     "0rI3c21GfQ040tpOS21E85A40tpOS21E85A40tpOS21GfQ040rI3c21GfQ040rI3c21GfQ040rI3c21GfQ040tpOS2",
     "1E85A40tpOS21E85A40tpOS21GfQ040rI3c27eWum431no82"],
    .steady 39600⟩,
   ⟨["Asia/Samarkand"],
    [16073, 14400, 18000, 21600],
    ["zzzzz0zzzzz0zzzzz078FXm1D6QSv2zzzzz2kRkJt33CeES213zfs314KHI214M9Q3140bw213yjo313yjo213yjo3",
     "13yjo213yjo313yjo213yjo313yjo213yjo313yjo213yjo316W4e213yjo313yjo2"],
    .steady 18000⟩,
   ⟨["Asia/Seoul", "ROK"],
    [30472, 30600, 32400, 36000, 34200],
    ["zzzzz0zzzzz0YmLqk180etE2zzzzz2Flwc530bgcy21BFCq30wLnE21BFCq30wiGm21OIMa30jf7225OzIm12Odrs4",
     "0k1aa11U5zM40mCRs11GgM440ojmi11JDgu40ojmi11JDgu40ojmi11JDgu40ojmi11uCIq2szDE830tpOS21E85A3",
     "0tpOS2"],
    .steady 32400⟩,
   ⟨["Asia/Singapore", "Singapore"],
    [24925, 25200, 26400, 27000, 32400, 28800],
    ["zzzzz0zzzzz0SjA1d1wuo172IVO5I30ytuS47ci403zzzzz3FX6Th5"],
    .steady 28800⟩,
   ⟨["Asia/Srednekolymsk"],
    [36892, 36000, 39600, 43200],
    ["zzzzz0zzzzz0zzzzz078A7z1D6QGK2zzzzz2kRkJt314KHI213zfs314KHI213zfs314KHI214M9Q3140bw213yjo3",
     "13yjo213yjo313yjo213yjo313yjo213yjo313yjo213yjo313yjo213yjo316W4e227yPg10ebNQ20PMQK313yjo2",
     "13yjo313yjo213yjo313yjo213yjo313yjo216W4e31E85A20tpOS31E85A20tpOS31E85A20tpOS31GfQ020rI3c3",
     "1GfQ020rI3c31GfQ020tpOS31E85A20tpOS31E85A20tpOS31GfQ020rI3c31GfQ020rI3c31GfQ020rI3c31GfQ02",
     "0tpOS31E85A20tpOS31E85A20tpOS31GfQ020rI3c37eWum2"],
    .steady 39600⟩,
   ⟨["Asia/Taipei", "ROC"],
    [29160, 28800, 32400],
    ["zzzzz0zzzzz08cmPy1zzzzz1R9n5d2H1fou11NYTQ20oNJA1194LY21AUNc113zfs20tRyq11EryK20tRyq11EryK2",
     "0tRyq11EryK20tRyq10t7NQ21QnpI10skts21FZ3I10skts21FZ3I10skts214KHI114M9Q214KHI113zfs214KHI1",
     "13zfs214KHI113zfs214KHI11QTDs20iDCq11Q6kK20iDCq1QgwYS214KHI113zfs214KHI180JNo20XKuO1"],
    .steady 28800⟩,
   ⟨["Asia/Tashkent"],
    [16631, 18000, 21600, 25200],
    ["zzzzz0zzzzz0zzzzz078FOm1D6Pfr2zzzzz2kRkJt314KHI213zfs314KHI213zfs314KHI214M9Q3140bw213yjo3",
     "13yjo213yjo313yjo213yjo313yjo213yjo313yjo213yjo313yjo213yjo316W4e227yPg1"],
    .steady 18000⟩,
   ⟨["Asia/Tbilisi"],
    [10751, 10800, 14400, 18000],
    ["zzzzz0zzzzz0zzzzz078Gvc1zzzzz1872jw2pR7b6314KHI213zfs314KHI213zfs314KHI214M9Q3140bw213yjo3",
     "13yjo213yjo313yjo213yjo313yjo213yjo313yjo213yjo313yjo213yjo316W4e227yPg113wrg213xnk113zfs2",
     "13xnk113zfs227wXY313xnk216X0i33M4ci20tqKW31E79620tqKW31GeTw20rIzg31GeTw20rIzg31GeTw20tqKW3",
     "1E79620tqKW31E79620tqKW30WyQq20jjnM10rI3c2"],
    .steady 14400⟩,
   ⟨["Asia/Tehran", "Iran"],
    [12344, 12600, 16200, 14400, 18000],
    ["zzzzz0zzzzz0zzzzz0Urkyp1zzzzz1RDOl721FDVo30uCL240mDNw30ZWhk119QM420ffs0114icy215Phw1MeREW2",
     "0pSjo113zfs214gkq113dCK214gkq113dCK214gkq113dCK214gkq113dCK214gkq113zfs214gkq113dCK214gkq1",
     "13dCK214gkq113dCK214gkq113zfs214gkq113dCK214gkq113dCK214gkq113dCK214gkq113zfs214gkq15KH6e2",
     "14gkq113zfs214gkq113dCK214gkq113dCK214gkq113dCK214gkq113zfs214gkq113dCK214gkq113dCK214gkq1",
     "13dCK214gkq113zfs214gkq113dCK214gkq113dCK214gkq113dCK214gkq113zfs214gkq113dCK214gkq1"],
    .steady 12600⟩,
   ⟨["Asia/Thimbu", "Asia/Thimphu"],
    [21516, 19800, 21600],
    ["zzzzz0zzzzz0zzzzz0urVV11zzzzz1NhXmP2"],
    .steady 21600⟩,
   ⟨["Asia/Tokyo", "Japan"],
    [33539, 32400, 36000],
    ["zzzzz0rXSzJ1zzzzz1zzzzz14qc4I20mDNw11BakK20wMjI11OHQW20jg3611OHQW20jg361"],
    .steady 32400⟩,
   ⟨["Asia/Tomsk"],
    [20391, 21600, 25200, 28800],
    ["zzzzz0zzzzz0xojDX1MPuv12zzzzz2kRkJt314KHI213zfs314KHI213zfs314KHI214M9Q3140bw213yjo313yjo2",
     "13yjo313yjo213yjo313yjo213yjo313yjo213yjo313yjo213yjo316W4e227yPg10ebNQ20PMQK313yjo213yjo3",
     "13yjo213yjo313yjo213yjo313yjo216W4e31E85A20tpOS31E85A20tpOS31E85A20tpOS31GfQ020rI3c31GfQ02",
     "0rI3c31GfQ020tpOS30BEm0212uFE10tpOS21E85A10tpOS21GfQ010rI3c21GfQ010rI3c21GfQ010rI3c21GfQ01",
     "0tpOS21E85A10tpOS21E85A10tpOS21GfQ010rI3c27eWum13Odpg2"],
    .steady 25200⟩,
   ⟨["Asia/Ust-Nera"],
    [34374, 28800, 32400, 43200, 39600, 36000],
    ["zzzzz0zzzzz0xm8FA1MSU1G2zzzzz2kRkJt314IPA413zfs314KHI413zfs314KHI414M9Q3140bw413yjo313yjo4",
     "13yjo313yjo413yjo313yjo413yjo313yjo413yjo313yjo413yjo316W4e427yPg50ebNQ40PMQK313yjo413yjo3",
     "13yjo413yjo313yjo413yjo313yjo416W4e31E85A40tpOS31E85A40tpOS31E85A40tpOS31GfQ040rI3c31GfQ04",
     "0rI3c31GfQ040tpOS31E85A40tpOS31E85A40tpOS31GfQ040rI3c31GfQ040rI3c31GfQ040rI3c31GfQ040tpOS3",
     "1E85A40tpOS31E85A40tpOS31GfQ040rI3c30zaD246exdo5"],
    .steady 36000⟩,
   ⟨["Asia/Vientiane"],
    [24624, 25590, 25200, 28800, 32400],
    ["zzzzz0zzzzz0V2MM61AJqvK2zzzzz25dgJz34hSEq40zzUm23MqO03HAMK02"],
    .steady 25200⟩,
   ⟨["Asia/Vladivostok"],
    [31651, 32400, 36000, 39600],
    ["zzzzz0zzzzz0zzzzz040azg1GE0Kh2zzzzz2kRkJt314KHI213zfs314KHI213zfs314KHI214M9Q3140bw213yjo3",
     "13yjo213yjo313yjo213yjo313yjo213yjo313yjo213yjo313yjo213yjo316W4e227yPg10ebNQ20PMQK313yjo2",
     "13yjo313yjo213yjo313yjo213yjo313yjo216W4e31E85A20tpOS31E85A20tpOS31E85A20tpOS31GfQ020rI3c3",
     "1GfQ020rI3c31GfQ020tpOS31E85A20tpOS31E85A20tpOS31GfQ020rI3c31GfQ020rI3c31GfQ020rI3c31GfQ02",
     "0tpOS31E85A20tpOS31E85A20tpOS31GfQ020rI3c37eWum2"],
    .steady 36000⟩,
   ⟨["Asia/Yakutsk"],
    [31138, 28800, 32400, 36000],
    ["zzzzz0zzzzz0xm95M1MSTB42zzzzz2kRkJt314KHI213zfs314KHI213zfs314KHI214M9Q3140bw213yjo313yjo2",
     "13yjo313yjo213yjo313yjo213yjo313yjo213yjo313yjo213yjo316W4e227yPg10ebNQ20PMQK313yjo213yjo3",
     "13yjo213yjo313yjo213yjo313yjo216W4e31E85A20tpOS31E85A20tpOS31E85A20tpOS31GfQ020rI3c31GfQ02",
     "0rI3c31GfQ020tpOS31E85A20tpOS31E85A20tpOS31GfQ020rI3c31GfQ020rI3c31GfQ020rI3c31GfQ020tpOS3",
     "1E85A20tpOS31E85A20tpOS31GfQ020rI3c37eWum2"],
    .steady 32400⟩,
   ⟨["Asia/Yekaterinburg"],
    [14553, 13505, 14400, 18000, 21600],
    ["zzzzz0zzzzz0qPQtt16TNbE2NLrVZ3zzzzz3kRkJt414KHI313zfs414KHI313zfs414KHI314M9Q4140bw313yjo4",
     "13yjo313yjo413yjo313yjo413yjo313yjo413yjo313yjo413yjo313yjo416W4e327yPg20ebNQ30PMQK413yjo3",
     "13yjo413yjo313yjo413yjo313yjo413yjo316W4e41E85A30tpOS41E85A30tpOS41E85A30tpOS41GfQ030rI3c4",
     "1GfQ030rI3c41GfQ030tpOS41E85A30tpOS41E85A30tpOS41GfQ030rI3c41GfQ030rI3c41GfQ030rI3c41GfQ03",
     "0tpOS41E85A30tpOS41E85A30tpOS41GfQ030rI3c47eWum3"],
    .steady 18000⟩,
   ⟨["Asia/Yerevan"],
    [10680, 10800, 14400, 18000],
    ["zzzzz0zzzzz0zzzzz078Gwl1zzzzz1872in2pR7b6314KHI213zfs314KHI213zfs314KHI214M9Q3140bw213yjo3",
     "13yjo213yjo313yjo213yjo313yjo213yjo313yjo213yjo313yjo213yjo316W4e227yPg113yjo213yjo113yjo2",
     "13yjo113yjo213yjo113yjo24IRM031E85A20tpOS31E85A20tpOS31GfQ020rI3c31GfQ020rI3c31GfQ020tpOS3",
     "1E85A20tpOS31E85A20tpOS31GfQ020rI3c31GfQ020rI3c31GfQ020rI3c31GfQ020tpOS31E85A20tpOS31E85A2",
     "0tpOS31GfQ020rI3c31GfQ02"],
    .steady 14400⟩]

end ChatFlow.Calendar
