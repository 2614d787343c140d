import ChatFlow.Calendar.Clock

/-!
# Zones of America

Each zone with its names, the offsets that it has had, the changes between them,
and the rule that has been in force since.
-/

namespace ChatFlow.Calendar

/-- The zones of America. -/
def americaZones : List ZoneHistory :=
  [⟨["America/Adak", "America/Atka", "US/Aleutian"],
    [44002, -42398, -39600, -36000, -32400],
    ["zzzzz0AOXAY1zzzzz1887UE2zzzzz2QZNFD37lmRk2oLMLg313xnk213zfs313xnk213zfs316V8a213zfs313xnk2",
     "13zfs313xnk20POIS31iZBA20h9eK31QnpI213zfs316V8a211SL2316V8a213zfs313xnk213zfs313xnk213zfs3",
     "13xnk213zfs313xnk213zfs316V8a211SL232ATsO413xnk313zfs413xnk313zfs413xnk30wNfM41BZoG30wNfM4",
     "1E79630tqKW41E79630tqKW41E79630wNfM41BZoG30wNfM41BZoG30wNfM41E79630tqKW41E79630tqKW41E7963",
     "0wNfM41BZoG30wNfM41BZoG30wNfM41BZoG30wNfM41E79630tqKW41E79630tqKW41E79630wNfM41BZoG30wNfM4",
     "1BZoG30wNfM41E79630tqKW41E79630tqKW41E79630mEK04"],
    .adak⟩,
   ⟨["America/Anchorage", "US/Alaska"],
    [50424, -35976, -36000, -32400, -28800],
    ["zzzzz0AOXAY1zzzzz1885oe2zzzzz2QZNyj37lmRk2oLMLg313xnk213zfs313xnk213zfs316V8a213zfs313xnk2",
     "13zfs313xnk20POIS31iZBA20h9eK31QnpI213zfs316V8a211SL2316V8a213zfs313xnk213zfs313xnk213zfs3",
     "13xnk213zfs313xnk213zfs316V8a211SL232ATsO413xnk313zfs413xnk313zfs413xnk30wNfM41BZoG30wNfM4",
     "1E79630tqKW41E79630tqKW41E79630wNfM41BZoG30wNfM41BZoG30wNfM41E79630tqKW41E79630tqKW41E7963",
     "0wNfM41BZoG30wNfM41BZoG30wNfM41BZoG30wNfM41E79630tqKW41E79630tqKW41E79630wNfM41BZoG30wNfM4",
     "1BZoG30wNfM41E79630tqKW41E79630tqKW41E79630mEK04"],
    .anchorage⟩,
   ⟨["America/Anguilla"],
    [-15136, -14400],
    ["zzzzz0zzzzz0h9Ji61"],
    .steady (-14400)⟩,
   ⟨["America/Antigua"],
    [-14832, -18000, -14400],
    ["zzzzz0zzzzz0h9JdC1zzzzz1Kw4jR2"],
    .steady (-14400)⟩,
   ⟨["America/Araguaina"],
    [-11568, -10800, -7200],
    ["zzzzz0zzzzz0l4C5y1bumI4213R1U11556W213Eqe1Zb4Oe20nIoa11L18a20hqjI11QTDs20iDCq11QTDs20WbxI1",
     "N0YIy20U4cS11xp4K20LNBI11QphQ20WbxI11QphQ20hUFk11QphQ20hqjI1bk7Iu20mCRs11JDgu20eaRM11TjVo2",
     "0c36W11TN2G20c36W11VuN620h7mC1C7AQK20h7mC11OIMa20mCRs11M7VI20que011JDgu20mCRs11JDgu20rH7Y1",
     "1JDgu20mCRs11OIMa20jf7211VuN620c36W1KfXfc20h7mC1"],
    .steady (-10800)⟩,
   ⟨["America/Argentina/Buenos_Aires", "America/Buenos_Aires"],
    [-14028, -15408, -14400, -10800, -7200],
    ["zzzzz0zzzzz068A9O1sSCoO2MbWDo30hqjI219Qp630o0pc21QphQ30hUFk21QphQ30hUFk21QphQ30hUFk21QphQ3",
     "0hqjI21QphQ30hUFk21QphQ30hUFk21QphQ30hUFk21QphQ30hqjI20iF4y322VOK20iF4y33pRE820RCgC354ejw2",
     "1FavQ3aIuBs20RCgC30RtlA21Kfb630neM421Kfb630neM421Kfb630zFbc213zfs316V8a213zfs313xnk213zfs3",
     "9BVmS40ZVlg3V9YBs40Y3rU31JDgu40ojmi31Ll1k40mCRs31Ll1k40mCRs31Ll1k40ojmi3VddkO40RtlA31GgM44",
     "0rH7Y3"],
    .steady (-10800)⟩,
   ⟨["America/Argentina/Catamarca", "America/Argentina/ComodRivadavia", "America/Catamarca"],
    [-15788, -15408, -14400, -10800, -7200],
    ["zzzzz0zzzzz068Abm1sSCM02MbWDo30hqjI219Qp630o0pc21QphQ30hUFk21QphQ30hUFk21QphQ30hUFk21QphQ3",
     "0hqjI21QphQ30hUFk21QphQ30hUFk21QphQ30hUFk21QphQ30hqjI20iF4y322VOK20iF4y33pRE820RCgC354ejw2",
     "1FavQ3aIuBs20RCgC30RtlA21Kfb630neM421Kfb630neM421Kfb630zFbc213zfs316V8a213zfs313xnk213zfs3",
     "9BVmS40ZVlg3V9YBs40Y3rU31JDgu40ojmi31Ll1k40mCRs21Llxo40mBVo31Ll1k40ojmi3Nzoqe206tzU37WuuG4",
     "0RtlA3"],
    .steady (-10800)⟩,
   ⟨["America/Argentina/Cordoba", "America/Cordoba", "America/Rosario"],
    [-15408, -14400, -10800, -7200],
    ["zzzzz0zzzzz0yaMxm1MbWDo20hqjI119Qp620o0pc11QphQ20hUFk11QphQ20hUFk11QphQ20hUFk11QphQ20hqjI1",
     "1QphQ20hUFk11QphQ20hUFk11QphQ20hUFk11QphQ20hqjI10iF4y222VOK10iF4y23pRE810RCgC254ejw11FavQ2",
     "aIuBs10RCgC20RtlA11Kfb620neM411Kfb620neM411Kfb620zFbc113zfs216V8a113zfs213xnk113zfs29BVmS3",
     "0ZVlg2V9YBs30Y3rU21JDgu30ojmi21Ll1k30mCRs11Llxo30mBVo21Ll1k30ojmi2VddkO30RtlA21GgM430rH7Y2"],
    .steady (-10800)⟩,
   ⟨["America/Argentina/Jujuy", "America/Jujuy"],
    [-15672, -15408, -14400, -10800, -7200],
    ["zzzzz0zzzzz068AZu1sSCNs2MbWDo30hqjI219Qp630o0pc21QphQ30hUFk21QphQ30hUFk21QphQ30hUFk21QphQ3",
     "0hqjI21QphQ30hUFk21QphQ30hUFk21QphQ30hUFk21QphQ30hqjI20iF4y322VOK20iF4y33pRE820RCgC354ejw2",
     "1FavQ3aIuBs20RCgC30RtlA21Kfb630neM421Kfb630neM421Kfb630zFbc213zfs316V8a213zfs313xnk213zfs3",
     "9BVmS40ZVlg3V9YBs40Y3rU31JDgu40ojmi21OJIe30ojmi21BbgO40rGBU31Ll1k40ojmi3VddkO40RtlA3"],
    .steady (-10800)⟩,
   ⟨["America/Argentina/La_Rioja"],
    [-16044, -15408, -14400, -10800, -7200],
    ["zzzzz0zzzzz068Afu1sSCHs2MbWDo30hqjI219Qp630o0pc21QphQ30hUFk21QphQ30hUFk21QphQ30hUFk21QphQ3",
     "0hqjI21QphQ30hUFk21QphQ30hUFk21QphQ30hUFk21QphQ30hqjI20iF4y322VOK20iF4y33pRE820RCgC354ejw2",
     "1FavQ3aIuBs20RCgC30RtlA21Kfb630neM421Kfb630neM421Kfb630zFbc213zfs316V8a213zfs313xnk213zfs3",
     "9BVmS40ZVlg3V9YBs40Y3rU31JDgu40ojmi31Ll1k40lTUm20OJns30yAAy40mCRs31Ll1k40ojmi3Nzoqe206tzU3",
     "7WuuG40RtlA3"],
    .steady (-10800)⟩,
   ⟨["America/Argentina/Mendoza", "America/Mendoza"],
    [-16516, -15408, -14400, -10800, -7200],
    ["zzzzz0zzzzz068AnW1sSCAG2MbWDo30hqjI219Qp630o0pc21QphQ30hUFk21QphQ30hUFk21QphQ30hUFk21QphQ3",
     "0hqjI21QphQ30hUFk21QphQ30hUFk21QphQ30hUFk21QphQ30hqjI20iF4y322VOK20iF4y33pRE820RCgC354ejw2",
     "1FavQ3aIuBs20RCgC30RtlA21Kfb630neM421Kfb630neM421Kfb630zFbc213zfs316V8a213zfs313xnk213zfs3",
     "9BVmS40ZVlg3V9YBs40Y3rU31JDgu40ojmi21Jb6W30neM421Kfb630o0pc21Ll1k40oiqe3NwYYi20jgzA36xOCW4",
     "0RtlA3"],
    .steady (-10800)⟩,
   ⟨["America/Argentina/Rio_Gallegos"],
    [-16612, -15408, -14400, -10800, -7200],
    ["zzzzz0zzzzz068Ap41sSC8i2MbWDo30hqjI219Qp630o0pc21QphQ30hUFk21QphQ30hUFk21QphQ30hUFk21QphQ3",
     "0hqjI21QphQ30hUFk21QphQ30hUFk21QphQ30hUFk21QphQ30hqjI20iF4y322VOK20iF4y33pRE820RCgC354ejw2",
     "1FavQ3aIuBs20RCgC30RtlA21Kfb630neM421Kfb630neM421Kfb630zFbc213zfs316V8a213zfs313xnk213zfs3",
     "9BVmS40ZVlg3V9YBs40Y3rU31JDgu40ojmi31Ll1k40mCRs31Ll1k40mCRs31Ll1k40ojmi3Nzoqe206tzU37WuuG4",
     "0RtlA3"],
    .steady (-10800)⟩,
   ⟨["America/Argentina/Salta"],
    [-15700, -15408, -14400, -10800, -7200],
    ["zzzzz0zzzzz068AaM1sSCNQ2MbWDo30hqjI219Qp630o0pc21QphQ30hUFk21QphQ30hUFk21QphQ30hUFk21QphQ3",
     "0hqjI21QphQ30hUFk21QphQ30hUFk21QphQ30hUFk21QphQ30hqjI20iF4y322VOK20iF4y33pRE820RCgC354ejw2",
     "1FavQ3aIuBs20RCgC30RtlA21Kfb630neM421Kfb630neM421Kfb630zFbc213zfs316V8a213zfs313xnk213zfs3",
     "9BVmS40ZVlg3V9YBs40Y3rU31JDgu40ojmi31Ll1k40mCRs21Llxo40mBVo31Ll1k40ojmi3VddkO40RtlA3"],
    .steady (-10800)⟩,
   ⟨["America/Argentina/San_Juan"],
    [-16444, -15408, -14400, -10800, -7200],
    ["zzzzz0zzzzz068AmM1sSCBQ2MbWDo30hqjI219Qp630o0pc21QphQ30hUFk21QphQ30hUFk21QphQ30hUFk21QphQ3",
     "0hqjI21QphQ30hUFk21QphQ30hUFk21QphQ30hUFk21QphQ30hqjI20iF4y322VOK20iF4y33pRE820RCgC354ejw2",
     "1FavQ3aIuBs20RCgC30RtlA21Kfb630neM421Kfb630neM421Kfb630zFbc213zfs316V8a213zfs313xnk213zfs3",
     "9BVmS40ZVlg3V9YBs40Y3rU31JDgu40ojmi31Ll1k40lTUm20OJns30yAAy40mCRs31Ll1k40ojmi3NzSN620Jx9E3",
     "7KEE440RtlA3"],
    .steady (-10800)⟩,
   ⟨["America/Argentina/San_Luis"],
    [-15924, -15408, -14400, -10800, -7200],
    ["zzzzz0zzzzz068Ady1sSCJo2MbWDo30hqjI219Qp630o0pc21QphQ30hUFk21QphQ30hUFk21QphQ30hUFk21QphQ3",
     "0hqjI21QphQ30hUFk21QphQ30hUFk21QphQ30hUFk21QphQ30hqjI20iF4y322VOK20iF4y33pRE820RCgC354ejw2",
     "1FavQ3aIuBs20RCgC30RtlA21Kfb630neM421Kfb630neM421Kfb630zFbc213zfs316V8a213zfs313xnk213zfs3",
     "9BVmS40ZVlg3V9YBs40Y3rU31JDgu40sMYC21FyL230neM420XMmW3RlFtg20Jx9E37KEE4407xY030HPoO21GgM43",
     "0rH7Y21GgM43"],
    .steady (-10800)⟩,
   ⟨["America/Argentina/Tucuman"],
    [-15652, -15408, -14400, -10800, -7200],
    ["zzzzz0zzzzz068AZa1sSCOC2MbWDo30hqjI219Qp630o0pc21QphQ30hUFk21QphQ30hUFk21QphQ30hUFk21QphQ3",
     "0hqjI21QphQ30hUFk21QphQ30hUFk21QphQ30hUFk21QphQ30hqjI20iF4y322VOK20iF4y33pRE820RCgC354ejw2",
     "1FavQ3aIuBs20RCgC30RtlA21Kfb630neM421Kfb630neM421Kfb630zFbc213zfs316V8a213zfs313xnk213zfs3",
     "9BVmS40ZVlg3V9YBs40Y3rU31JDgu40ojmi31Ll1k40mCRs21Llxo40mBVo31Ll1k40ojmi3Nzoqe204Mee37ZSF64",
     "0RtlA31GgM440rH7Y3"],
    .steady (-10800)⟩,
   ⟨["America/Argentina/Ushuaia"],
    [-16392, -15408, -14400, -10800, -7200],
    ["zzzzz0zzzzz068AlW1sSCCG2MbWDo30hqjI219Qp630o0pc21QphQ30hUFk21QphQ30hUFk21QphQ30hUFk21QphQ3",
     "0hqjI21QphQ30hUFk21QphQ30hUFk21QphQ30hUFk21QphQ30hqjI20iF4y322VOK20iF4y33pRE820RCgC354ejw2",
     "1FavQ3aIuBs20RCgC30RtlA21Kfb630neM421Kfb630neM421Kfb630zFbc213zfs316V8a213zfs313xnk213zfs3",
     "9BVmS40ZVlg3V9YBs40Y3rU31JDgu40ojmi31Ll1k40mCRs31Ll1k40mCRs31Ll1k40ojmi3Nz5tY207cwa37WuuG4",
     "0RtlA3"],
    .steady (-10800)⟩,
   ⟨["America/Aruba"],
    [-16824, -16200, -14400],
    ["zzzzz0zzzzz0h2R5u1zzzzz1owu492"],
    .steady (-14400)⟩,
   ⟨["America/Asuncion"],
    [-13840, -14400, -10800],
    ["zzzzz0zzzzz0zzzzz0N1MDD1zzzzz1PVvDl23CHku13Cg6a20t5VI11FavQ20sj1k11FavQ20sj1k11FavQ213xnk1",
     "14M9Q214KHI114M9Q213xnk114M9Q213xnk114M9Q213xnk114M9Q214KHI114M9Q213xnk114M9Q213xnk114M9Q2",
     "13xnk114M9Q214KHI114M9Q213xnk11By9w20wLnE114M9Q213xnk116AXA20rH7Y11H2pc2129Q0114icy20s04e1",
     "1GJsW20rdb611GgM420t5VI11HPJA20ojmi11JDgu20rH7Y11GgM420toSO11E91E20toSO11E91E20toSO11GgM42",
     "13xnk10rIzg21GeTw10tqKW21E7961194LY20rH7Y11GgM420rH7Y11GgM420rH7Y11JDgu20ojmi11JDgu20ojmi1",
     "1JDgu211QSu111SL2216V8a111SL2216V8a113zfs20yt841194LY20yt841194LY20yt841194LY211QSu116X0i2",
     "11QSu116X0i211QSu1194LY20yt841194LY20yt841194LY211QSu116X0i211QSu116X0i211QSu116X0i211QSu1",
     "194LY2"],
    .steady (-10800)⟩,
   ⟨["America/Atikokan", "America/Coral_Harbour"],
    [-21988, -21600, -18000],
    ["zzzzz0zzzzz06Uflm1niaBo2192TQ1kp5ZQ2"],
    .steady (-18000)⟩,
   ⟨["America/Bahia"],
    [-9244, -10800, -7200],
    ["zzzzz0zzzzz0l4BUU1bumtY213R1U11556W213Eqe1Zb4Oe20nIoa11L18a20hqjI11QTDs20iDCq11QTDs20WbxI1",
     "N0YIy20U4cS11xp4K20LNBI11QphQ20WbxI11QphQ20hUFk11QphQ20hqjI1bk7Iu20mCRs11JDgu20eaRM11TjVo2",
     "0c36W11TN2G20c36W11VuN620h7mC11TN2G20h7mC11QphQ20eaRM11VuN620ZVlg11VuN620jf7211OIMa20jf721",
     "1OIMa20h7mC11OIMa20mCRs11M7VI20que011JDgu20mCRs11JDgu20rH7Y11JDgu20mCRs11OIMa20jf7211VuN62",
     "0c36W1IV2rA20mCRs1"],
    .steady (-10800)⟩,
   ⟨["America/Bahia_Banderas"],
    [-25260, -25200, -21600, -18000],
    ["zzzzz0zzzzz0zzzzz029YEF1BbyV627Kahc10yC3620toSO114M9Q2LUGWG1zzzzz1rEKuH21BZoG10wNfM21BZoG1",
     "0wNfM21BZoG10wNfM21E79610tqKW21E796116X0i20rH7Y116X0i21BZoG10wNfM21BZoG10wNfM21E79610tqKW2",
     "1E79610tqKW21E79610tqKW21E79610wNfM21BZoG10wNfM21BZoG10wNfM31E6D220tqKW31E79620tqKW31E7962",
     "0wNfM31BZoG20wNfM31BZoG20wNfM31BZoG20wNfM31E79620tqKW31E79620tqKW31E79620wNfM31BZoG20wNfM3",
     "1BZoG20wNfM31E79620tqKW31E7962"],
    .steady (-21600)⟩,
   ⟨["America/Barbados"],
    [-14309, -14400, -10800, -12600],
    ["zzzzz0zzzzz0g3WND1zzzzz13ROv620manY11QRLk20jgzA11H0xU30tTqy1zzzzz17wtPN20eaRM1194LY20yt841",
     "194LY20yt8411BbgO20vGMa1"],
    .steady (-14400)⟩,
   ⟨["America/Belem"],
    [-11636, -10800, -7200],
    ["zzzzz0zzzzz0l4C741bumGy213R1U11556W213Eqe1Zb4Oe20nIoa11L18a20hqjI11QTDs20iDCq11QTDs20WbxI1",
     "N0YIy20U4cS11xp4K20LNBI11QphQ20WbxI11QphQ20hUFk11QphQ20hqjI1bk7Iu20mCRs11JDgu20eaRM11TjVo2",
     "0c36W1"],
    .steady (-10800)⟩,
   ⟨["America/Belize"],
    [-21168, -21600, -19800, -18000],
    ["zzzzz0zzzzz0hKDZq1DuRua20jfa411OHtY20mCuu11LkYi20mCuu11LkYi20mCuu11OHtY20jfa411OHtY20jfa41",
     "1OHtY20mCuu11LkYi20mCuu11LkYi20mCuu11LkYi20mCuu11OHtY20jfa411OHtY20jfa411OHtY20mCuu11LkYi2",
     "0mCuu11LkYi20mCuu11OHtY20jfa411OHtY20jfa411OHtY20jfa411OHtY20mCuu11LkYi20mCuu11LkYi20mCuu1",
     "1OHtY20jfa411OHtY20jfa411OHtY20mCuu10mDqy37PItk13qYWu20mCuu11LkYi20mCuu11LkYi20mCuu11OHtY2",
     "0jfa411OHtY20jfa411OHtY20mCuu11LkYi20mCuu11LkYi20mCuu11LkYi20mCuu11OHtY20jfa411OHtY20jfa41",
     "1OHtY20mCuu11LkYi20mCuu11LkYi20mCuu11OHtY20jfa411OHtY20jfa411OHtY20jfa411OHtY20mCuu11LkYi2",
     "0mCuu11LkYi20mCuu11OHtY20jfa41CQ0jo30NuW81IuQDY30KHke1"],
    .steady (-21600)⟩,
   ⟨["America/Blanc-Sablon"],
    [-13708, -14400, -10800],
    ["zzzzz0j00gn1zzzzz1BDDOf2192TQ1njeme27lmRk1"],
    .steady (-14400)⟩,
   ⟨["America/Boa_Vista"],
    [-14560, -14400, -10800],
    ["zzzzz0zzzzz0l4CsE1bumRs213R1U11556W213Eqe1Zb4Oe20nIoa11L18a20hqjI11QTDs20iDCq11QTDs20WbxI1",
     "N0YIy20U4cS11xp4K20LNBI11QphQ20WbxI11QphQ20hUFk11QphQ20hqjI1bk7Iu20mCRs11JDgu20eaRM11TjVo2",
     "0c36W1OsvI020rH7Y11JDgu202WOm1"],
    .steady (-14400)⟩,
   ⟨["America/Bogota"],
    [-17776, -18000, -14400],
    ["zzzzz0zzzzz0myP4s1zzzzz1zzzzz1fOOnK21dUVU1"],
    .steady (-18000)⟩,
   ⟨["America/Boise"],
    [-27889, -28800, -25200, -21600],
    ["zzzzz0ikIsr1zzzzz1BNuHB21E79610tqKW21E79617ZU7E2e2CFk37lmRk2k5ROS313xnk213zfs313xnk213zfs3",
     "13xnk213zfs313xnk213zfs316V8a213zfs313xnk213zfs313xnk20ZXdo31YPpo20h9eK31QnpI213zfs316V8a2",
     "11SL2316V8a213zfs313xnk213zfs313xnk213zfs313xnk213zfs313xnk213zfs316V8a211SL2316V8a213zfs3",
     "13xnk213zfs313xnk213zfs313xnk20wNfM31BZoG20wNfM31E79620tqKW31E79620tqKW31E79620wNfM31BZoG2",
     "0wNfM31BZoG20wNfM31E79620tqKW31E79620tqKW31E79620wNfM31BZoG20wNfM31BZoG20wNfM31BZoG20wNfM3",
     "1E79620tqKW31E79620tqKW31E79620wNfM31BZoG20wNfM31BZoG20wNfM31E79620tqKW31E79620tqKW31E7962",
     "0mEK03"],
    .denver⟩,
   ⟨["America/Cambridge_Bay"],
    [0, -25200, -21600, -18000],
    ["zzzzz0zzzzz0xsRHu1lDWro27lmRk1ulm7M213xnk113zfs213xnk113zfs213xnk113zfs213xnk113zfs216V8a1",
     "11SL2216V8a113zfs213xnk113zfs213xnk113zfs213xnk113zfs213xnk113zfs216V8a111SL2216V8a113zfs2",
     "13xnk113zfs213xnk113zfs213xnk10wNfM21BZoG10wNfM21E79610tqKW21E79610tqKW21E79610wNfM21BZoG1",
     "0wNfM21BZoG10wNfM21E79610tqKW21E79610tqKW21E79610wNfM21BZoG10wNfM21BZoG10wNfM21BZoG10wNfM2",
     "27wXY31Gcbo225Swy10wNfM21BZoG10wNfM21BZoG10wNfM21E79610tqKW21E79610tqKW21E79610mEK02"],
    .denver⟩,
   ⟨["America/Campo_Grande"],
    [-13108, -14400, -10800],
    ["zzzzz0zzzzz0l4CUo1bumpI213R1U11556W213Eqe1Zb4Oe20nIoa11L18a20hqjI11QTDs20iDCq11QTDs20WbxI1",
     "N0YIy20U4cS11xp4K20LNBI11QphQ20WbxI11QphQ20hUFk11QphQ20hqjI1bk7Iu20mCRs11JDgu20eaRM11TjVo2",
     "0c36W11TN2G20c36W11VuN620h7mC11TN2G20h7mC11QphQ20eaRM11VuN620ZVlg11VuN620jf7211OIMa20jf721",
     "1OIMa20h7mC11OIMa20mCRs11M7VI20que011JDgu20mCRs11JDgu20rH7Y11JDgu20mCRs11OIMa20jf7211VuN62",
     "0c36W11QphQ20h7mC11WdKC20drUG11OIMa20jf7211VuN620eaRM11Ll1k20jf7211QphQ20h7mC11QphQ20jf721",
     "1OIMa20jf7211OIMa20mCRs11OIMa20h7mC11QphQ20h7mC11QphQ20jf7211OIMa20jf7211OIMa20jf7211OIMa2",
     "0jf7211VuN620c36W1"],
    .steady (-14400)⟩,
   ⟨["America/Cancun"],
    [-20824, -21600, -18000, -14400],
    ["zzzzz0zzzzz0zzzzz029XIB1zzzzz1zzzzz146bPm22BXQu1SJORU21BZoG10wNfM227wXY30h7mC20USy810wNfM2",
     "1E79610tqKW21E796116X0i20rH7Y116X0i21BZoG10wNfM21BZoG10wNfM21E79610tqKW21E79610tqKW21E7961",
     "0tqKW21E79610wNfM21BZoG10wNfM21BZoG10wNfM21E79610tqKW21E79610tqKW21E79610wNfM21BZoG10wNfM2",
     "1BZoG10ZXdo2"],
    .steady (-18000)⟩,
   ⟨["America/Caracas"],
    [-16064, -16060, -16200, -14400],
    ["zzzzz0vofyr1lDkui2zzzzz2owuGT3zzzzz3ThAAz2HvVDM3"],
    .steady (-14400)⟩,
   ⟨["America/Cayenne"],
    [-12560, -14400, -10800],
    ["zzzzz0zzzzz0fiUHC1zzzzz1w8SQr2"],
    .steady (-10800)⟩,
   ⟨["America/Cayman"],
    [-19532, -18430, -18000],
    ["zzzzz0vogsn1l9lNy2"],
    .steady (-18000)⟩,
   ⟨["America/Chicago", "US/Central"],
    [-21036, -21600, -18000],
    ["zzzzz0ikH0j1zzzzz1BNuHB21E79610tqKW21E79611Ll1k20ojmi10rIzg21GeTw113zfs20rH7Y11GgM420toSO1",
     "1E91E20toSO11E91E20toSO11E91E20toSO11E91E20toSO11GgM420toSO11E91E20toSO11E91E20toSO11E91E2",
     "0toSO11E91E20toSO11GgM420rH7Y11GgM420toSO11E91E20toSO10tqKW21VsUy10wNfM20toSO11E91E20toSO1",
     "1GgM420rH7Y11GgM420toSO11E91E20toSO10manY27lmRk11E91E20toSO11E91E20toSO11E91E20toSO11E91E2",
     "0toSO11GgM420rH7Y11GgM420toSO11E91E20toSO11E91E20toSO11E91E20toSO11E91E216V8a113zfs213xnk1",
     "13zfs213xnk113zfs213xnk113zfs213xnk113zfs216V8a113zfs213xnk113zfs213xnk113zfs213xnk113zfs2",
     "13xnk113zfs216V8a111SL2216V8a113zfs213xnk113zfs213xnk113zfs213xnk113zfs213xnk113zfs216V8a1",
     "13zfs213xnk113zfs213xnk10POIS21iZBA10h9eK21QnpI113zfs216V8a111SL2216V8a113zfs213xnk113zfs2",
     "13xnk113zfs213xnk113zfs213xnk113zfs216V8a111SL2216V8a113zfs213xnk113zfs213xnk113zfs213xnk1",
     "0wNfM21BZoG10wNfM21E79610tqKW21E79610tqKW21E79610wNfM21BZoG10wNfM21BZoG10wNfM21E79610tqKW2",
     "1E79610tqKW21E79610wNfM21BZoG10wNfM21BZoG10wNfM21BZoG10wNfM21E79610tqKW21E79610tqKW21E7961",
     "0wNfM21BZoG10wNfM21BZoG10wNfM21E79610tqKW21E79610tqKW21E79610mEK02"],
    .chicago⟩,
   ⟨["America/Chihuahua"],
    [-25460, -25200, -21600, -18000],
    ["zzzzz0zzzzz0zzzzz029YEF1BbyV627Kahc10yC3620toSO114M9Q2zzzzz2zzzzz2CiaUU31BZoG20wNfM31BZoG2",
     "27yPg10wNfM21E79610tqKW21E796116X0i20rH7Y116X0i21BZoG10wNfM21BZoG10wNfM21E79610tqKW21E7961",
     "0tqKW21E79610tqKW21E79610wNfM21BZoG10wNfM21BZoG10wNfM21E79610tqKW21E79610tqKW21E79610wNfM2",
     "1BZoG10wNfM21BZoG10wNfM21BZoG10wNfM21E79610tqKW21E79610tqKW21E79610wNfM21BZoG10wNfM21BZoG1",
     "0wNfM21E79610tqKW2"],
    .steady (-21600)⟩,
   ⟨["America/Ciudad_Juarez"],
    [-25556, -25200, -21600, -18000],
    ["zzzzz0zzzzz0zzzzz029YEF1BbyV627Kahc10yC3620toSO114M9Q2zzzzz2zzzzz2CiaUU31BZoG20wNfM31BZoG2",
     "27yPg10wNfM21E79610tqKW21E796116X0i20rH7Y116X0i21BZoG10wNfM21BZoG10wNfM21E79610tqKW21E7961",
     "0tqKW21E79610tqKW21E79610wNfM21BZoG10wNfM21BZoG10oleq21OGUS10jgzA21OGUS10jgzA21OGUS10jgzA2",
     "1OGUS10jgzA21OGUS10jgzA21OGUS10mEK021OGUS10jgzA21OGUS10jgzA21OGUS10jgzA21OGUS10jgzA21OGUS1",
     "0mEK021OGUS10jgzA21Ww3U1"],
    .denver⟩,
   ⟨["America/Costa_Rica"],
    [-20173, -21600, -18000],
    ["zzzzz0zzzzz0zzzzz006Hdg1zzzzz1zzzzz106bvZ20ZVlg11YRhw20ZVlg1Mi40020x4kK11AsjI20KeEC1"],
    .steady (-21600)⟩,
   ⟨["America/Coyhaique"],
    [-17296, -16965, -18000, -14400, -10800],
    ["zzzzz0vogIj1gl9C12Dp0v514gNTZ31iZRr1HRmnl31FCqR20tTqy31Eq6C20tTqy31Eq6C20tTqy31Eq6C20tTqy3",
     "1FCZk20tTqy3KoZiC20M80W39xjAO20IUIy3jokXA40rH7Y31OIMa40jf723194LY40toSO31E91E40toSO31GgM44",
     "0rH7Y31BbgO40wLnE31GgM440rH7Y31GgM440toSO31E91E40toSO31E91E40toSO31GgM440rH7Y31GgM440rH7Y3",
     "1GgM440toSO31E91E40toSO31E91E40toSO31E91E40toSO31GgM440rH7Y31GgM440rH7Y31GgM4413xnk313zfs4",
     "0toSO31E91E40toSO31GgM440rH7Y316X0i411QSu31GgM440toSO31E91E40toSO31E91E40toSO31E91E40toSO3",
     "1GgM440rH7Y31GgM440yt843194LY40toSO3194LY416V8a316X0i40toSO31GgM440rH7Y31GgM440rH7Y31GgM44",
     "0rH7Y31GgM440toSO31E91E40toSO31E91E40toSO31GgM440rH7Y31GgM440yt843194LY40toSO31E91E411QSu3",
     "16X0i41E79630c4ye41TLA830jgzA41OGUS30mEK041Lj9c30mEK043bIdk30X0Iy41axAe30X0Iy41axAe30X0Iy4",
     "1OGUS30tqKW41E79630tqKW41E79630tqKW41E79630wNfM41BZoG30tqKW41GeTw30tqKW4"],
    .steady (-10800)⟩,
   ⟨["America/Creston"],
    [-27964, -25200, -28800],
    ["zzzzz0j04Oj1zzzzz17w9jh23YnB21"],
    .steady (-25200)⟩,
   ⟨["America/Cuiaba"],
    [-13460, -14400, -10800],
    ["zzzzz0zzzzz0l4CaU1bumjc213R1U11556W213Eqe1Zb4Oe20nIoa11L18a20hqjI11QTDs20iDCq11QTDs20WbxI1",
     "N0YIy20U4cS11xp4K20LNBI11QphQ20WbxI11QphQ20hUFk11QphQ20hqjI1bk7Iu20mCRs11JDgu20eaRM11TjVo2",
     "0c36W11TN2G20c36W11VuN620h7mC11TN2G20h7mC11QphQ20eaRM11VuN620ZVlg11VuN620jf7211OIMa20jf721",
     "1OIMa20h7mC11OIMa20mCRs11M7VI20que011JDgu20mCRs11JDgu20rH7Y11JDgu20mCRs11OIMa20jf7211VuN62",
     "0c36W13eano20drUG11OIMa20jf7211VuN620eaRM11Ll1k20jf7211QphQ20h7mC11QphQ20jf7211OIMa20jf721",
     "1OIMa20mCRs11OIMa20h7mC11QphQ20h7mC11QphQ20jf7211OIMa20jf7211OIMa20jf7211OIMa20jf7211VuN62",
     "0c36W1"],
    .steady (-14400)⟩,
   ⟨["America/Curacao", "America/Kralendijk", "America/Lower_Princes"],
    [-16547, -16200, -14400],
    ["zzzzz0zzzzz0h2R1R1zzzzz1owu8c2"],
    .steady (-14400)⟩,
   ⟨["America/Danmarkshavn"],
    [-4480, -10800, -7200, 0],
    ["zzzzz0zzzzz0qYZla1zzzzz1zzzzz1C1UME211Nei113yjo213yjo113yjo213yjo113yjo213yjo113yjo216W4e1",
     "13yjo213yjo113yjo213yjo113yjo213yjo113yjo213yjo113yjo213yjo113yjo216W4e113yjo213yjo113yjo2",
     "13yjo113yjo213yjo113yjo213yjo113yjo213yjo10Zv3Q3"],
    .steady 0⟩,
   ⟨["America/Dawson"],
    [-33460, -32400, -28800, -25200],
    ["zzzzz0zzzzz0IWR5q1bgrfw2192TQ11E91E20vxRY1lZYJs27lmRk1fmxEG316W4e1H4D9k2DsHsO313xnk213zfs3",
     "13xnk213zfs316V8a211SL2316V8a213zfs313xnk213zfs313xnk213zfs313xnk20wNfM31BZoG20wNfM31E7962",
     "0tqKW31E79620tqKW31E79620wNfM31BZoG20wNfM31BZoG20wNfM31E79620tqKW31E79620tqKW31E79620wNfM3",
     "1BZoG20wNfM31BZoG20wNfM31BZoG20wNfM31E79620tqKW31E79620tqKW31E79620wNfM31BZoG20wNfM31BZoG2",
     "0wNfM31E79620tqKW31E79620tqKW31E79620mEK031OGUS20jgzA31OGUS20jgzA31OGUS20mEK031OGUS20jgzA3",
     "1OGUS20jgzA31OGUS20jgzA31OGUS20jgzA31OGUS20jgzA31OGUS20mEK031OGUS20jgzA31OGUS20jgzA31OGUS2",
     "0jgzA31OGUS20jgzA3"],
    .steady (-25200)⟩,
   ⟨["America/Dawson_Creek"],
    [-28856, -28800, -25200],
    ["zzzzz0j04d71zzzzz1BDDCb2192TQ1njeme27lmRk13M6Uq20toSO11E91E20toSO11E91E20toSO11GgM420rH7Y1",
     "1GgM420toSO11E91E20toSO11E91E20toSO11E91E20toSO11E91E20toSO11GgM420toSO11E91E20toSO11E91E2",
     "0toSO11E91E20toSO11E91E20toSO11GgM420rH7Y11GgM4213xnk113zfs213xnk113zfs213xnk113zfs216V8a1",
     "11SL2216V8a113zfs213xnk113zfs213xnk113zfs213xnk113zfs213xnk113zfs216V8a113zfs2"],
    .steady (-25200)⟩,
   ⟨["America/Denver", "America/Shiprock", "Navajo", "US/Mountain"],
    [-25196, -25200, -21600],
    ["zzzzz0ikHwn1zzzzz1BNuHB21E79610tqKW21E79610tqKW21GeTw10rIzg20KHke1iFbkG27lmRk1fmz6O216V8a1",
     "11SL2216V8a113zfs213xnk113zfs213xnk113zfs213xnk113zfs213xnk113zfs216V8a113zfs213xnk113zfs2",
     "13xnk10POIS21iZBA10h9eK21QnpI113zfs216V8a111SL2216V8a113zfs213xnk113zfs213xnk113zfs213xnk1",
     "13zfs213xnk113zfs216V8a111SL2216V8a113zfs213xnk113zfs213xnk113zfs213xnk10wNfM21BZoG10wNfM2",
     "1E79610tqKW21E79610tqKW21E79610wNfM21BZoG10wNfM21BZoG10wNfM21E79610tqKW21E79610tqKW21E7961",
     "0wNfM21BZoG10wNfM21BZoG10wNfM21BZoG10wNfM21E79610tqKW21E79610tqKW21E79610wNfM21BZoG10wNfM2",
     "1BZoG10wNfM21E79610tqKW21E79610tqKW21E79610mEK02"],
    .denver⟩,
   ⟨["America/Detroit", "US/Michigan"],
    [-19931, -21600, -18000, -14400],
    ["zzzzz0zzzzz0RqbjJ1M8YfF2v6lt237lmRk25U3yS30toSO2dxqY830ngDE213zfs313xnk29cMvA313xnk20POIS3",
     "1iZBA213zfs313xnk213zfs316V8a211SL2316V8a213zfs313xnk213zfs313xnk213zfs313xnk213zfs313xnk2",
     "13zfs316V8a211SL2316V8a213zfs313xnk213zfs313xnk213zfs313xnk20wNfM31BZoG20wNfM31E79620tqKW3",
     "1E79620tqKW31E79620wNfM31BZoG20wNfM31BZoG20wNfM31E79620tqKW31E79620tqKW31E79620wNfM31BZoG2",
     "0wNfM31BZoG20wNfM31BZoG20wNfM31E79620tqKW31E79620tqKW31E79620wNfM31BZoG20wNfM31BZoG20wNfM3",
     "1E79620tqKW31E79620tqKW31E79620mEK03"],
    .newYork⟩,
   ⟨["America/Dominica"],
    [-14736, -14400],
    ["zzzzz0zzzzz0fiUrG1"],
    .steady (-14400)⟩,
   ⟨["America/Edmonton", "America/Yellowknife", "Canada/Mountain"],
    [-27232, -25200, -21600],
    ["zzzzz0zzzzz0VP3OU1OoDVA2192TQ10yv0C20Fw2411x67E216V8a111SL220toSO11GgM420rH7Y11GgM420toSO1",
     "dDTP627lmRk13M6Uq20toSO1qVrA8213xnk113zfs213xnk113zfs213xnk113zfs213xnk113zfs216V8a111SL22",
     "16V8a113zfs213xnk113zfs213xnk113zfs213xnk113zfs213xnk113zfs216V8a111SL2216V8a113zfs213xnk1",
     "13zfs213xnk113zfs213xnk10wNfM21BZoG10wNfM21E79610tqKW21E79610tqKW21E79610wNfM21BZoG10wNfM2",
     "1BZoG10wNfM21E79610tqKW21E79610tqKW21E79610wNfM21BZoG10wNfM21BZoG10wNfM21BZoG10wNfM21E7961",
     "0tqKW21E79610tqKW21E79610wNfM21BZoG10wNfM21BZoG10wNfM21E79610tqKW21E79610tqKW21E79610mEK02"],
    .denver⟩,
   ⟨["America/Eirunepe"],
    [-16768, -18000, -14400],
    ["zzzzz0zzzzz0l4DRq1bumoK213R1U11556W213Eqe1Zb4Oe20nIoa11L18a20hqjI11QTDs20iDCq11QTDs20WbxI1",
     "N0YIy20U4cS11xp4K20LNBI11QphQ20WbxI11QphQ20hUFk11QphQ20hqjI1bk7Iu20mCRs11JDgu20eaRM11TjVo2",
     "0c36W1C9hlA20jf721UcvIW2BULYW1"],
    .steady (-18000)⟩,
   ⟨["America/El_Salvador"],
    [-21408, -21600, -18000],
    ["zzzzz0zzzzz0zzzzz001DHv1zzzzz1zzzzz1HfGnS20rH7Y11GgM420rH7Y1"],
    .steady (-21600)⟩,
   ⟨["America/Ensenada", "America/Santa_Isabel", "America/Tijuana", "Mexico/BajaNorte"],
    [-28084, -25200, -28800],
    ["zzzzz0zzzzz0zzzzz029YEF14GduK27LLWq17Kahc20ngEC113xnk2MZ05I17bd6O2568WG11ewPg22l7su10que02",
     "1GiEC10toSO21E91E10toSO21E85A10tpOS21E85A10tpOS21E85A10tpOS21GfQ010tpOS21E85A10tpOS21E85A1",
     "0tpOS21E85A10tpOS21E85A10tpOS21GfQ010rI3c21GfQ0113yjo213yjo113yjo213yjo113yjo213yjo116W4e2",
     "11ROy116W4e213zfs113xnk213zfs113xnk213zfs113xnk213zfs113xnk213zfs116V8a213zfs113xnk213zfs1",
     "13xnk20POIS11iZBA20h9eK11QnpI213zfs116V8a211SL2116V8a213zfs113xnk213zfs113xnk213zfs113xnk2",
     "13zfs113xnk213zfs116V8a211SL2116V8a213zfs113xnk213zfs113xnk213zfs113xnk20wNfM11BZoG20wNfM1",
     "1E79620tqKW11E79620tqKW11E79620wNfM11BZoG20wNfM11BZoG20wNfM11E79620tqKW11E79620tqKW11E7962",
     "0wNfM11BZoG20wNfM11BZoG20wNfM11BZoG20wNfM11E79620tqKW11E79620tqKW11E79620wNfM11BZoG20wNfM1",
     "1BZoG20wNfM11E79620tqKW11E79620tqKW11E79620tqKW11E79620wNfM11BZoG20wNfM11BZoG20oleq1"],
    .losAngeles⟩,
   ⟨["America/Fort_Nelson"],
    [-29447, -28800, -25200],
    ["zzzzz0j04me1zzzzz1BDD342192TQ1njeme27lmRk13M6Uq20toSO11E91E20toSO11E91E20toSO11GgM420rH7Y1",
     "1GgM420toSO11E91E20toSO11E91E20toSO11E91E20toSO11E91E20toSO11GgM420toSO11E91E20toSO11E91E2",
     "0toSO11E91E20toSO11E91E20toSO11GgM420rH7Y11GgM4213xnk113zfs213xnk113zfs213xnk113zfs216V8a1",
     "11SL2216V8a113zfs213xnk113zfs213xnk113zfs213xnk113zfs213xnk113zfs216V8a113zfs213xnk113zfs2",
     "13xnk113zfs213xnk113zfs213xnk113zfs216V8a111SL2216V8a113zfs213xnk113zfs213xnk113zfs213xnk1",
     "13zfs213xnk113zfs216V8a111SL2216V8a113zfs213xnk113zfs213xnk113zfs213xnk10wNfM21BZoG10wNfM2",
     "1E79610tqKW21E79610tqKW21E79610wNfM21BZoG10wNfM21BZoG10wNfM21E79610tqKW21E79610tqKW21E7961",
     "0wNfM21BZoG10wNfM21BZoG10wNfM21BZoG10wNfM21E79610tqKW21E79610tqKW21E79610wNfM21BZoG10wNfM2",
     "1BZoG10wNfM21E79610tqKW21E79610tqKW21E79610mEK021OGUS10jgzA21OGUS10jgzA21OGUS10mEK021OGUS1",
     "0jgzA21OGUS10jgzA21OGUS10jgzA21OGUS10jgzA21OGUS10jgzA2"],
    .steady (-25200)⟩,
   ⟨["America/Fort_Wayne", "America/Indiana/Indianapolis", "America/Indianapolis",
     "US/East-Indiana"],
    [-20678, -21600, -18000, -14400],
    ["zzzzz0ikH0j1zzzzz1BNuHB21E79610tqKW21E7961kFajo20ZVlg10manY27lmRk11E91E20toSO11E91E20toSO1",
     "1E91E20toSO11E91E20toSO11GgM420rH7Y11GgM420toSO11E91E20toSO11E91E20toSO11E91E20toSO11E91E2",
     "5CGkS11E91E2NUbzM313xnk213zfs313xnk2zzzzz2DgBOr31E79620mEK03"],
    .newYork⟩,
   ⟨["America/Fortaleza"],
    [-9240, -10800, -7200],
    ["zzzzz0zzzzz0l4BUQ1bumtc213R1U11556W213Eqe1Zb4Oe20nIoa11L18a20hqjI11QTDs20iDCq11QTDs20WbxI1",
     "N0YIy20U4cS11xp4K20LNBI11QphQ20WbxI11QphQ20hUFk11QphQ20hqjI1bk7Iu20mCRs11JDgu20eaRM11TjVo2",
     "0c36W11TN2G20c36W11VuN620h7mC1KaSzw20rH7Y11JDgu2053jc125R4q20jf721"],
    .steady (-10800)⟩,
   ⟨["America/Glace_Bay"],
    [-14388, -14400, -10800],
    ["zzzzz0zzzzz0MP4aM1Xo9V62192TQ1njeme27lmRk1GAOhM20toSO1dhYxc213xnk113zfs213xnk113zfs213xnk1",
     "13zfs213xnk113zfs216V8a111SL2216V8a113zfs213xnk113zfs213xnk113zfs213xnk113zfs213xnk113zfs2",
     "16V8a111SL2216V8a113zfs213xnk113zfs213xnk113zfs213xnk10wNfM21BZoG10wNfM21E79610tqKW21E7961",
     "0tqKW21E79610wNfM21BZoG10wNfM21BZoG10wNfM21E79610tqKW21E79610tqKW21E79610wNfM21BZoG10wNfM2",
     "1BZoG10wNfM21BZoG10wNfM21E79610tqKW21E79610tqKW21E79610wNfM21BZoG10wNfM21BZoG10wNfM21E7961",
     "0tqKW21E79610tqKW21E79610mEK02"],
    .halifax⟩,
   ⟨["America/Godthab", "America/Nuuk"],
    [-12416, -10800, -7200, -3600],
    ["zzzzz0zzzzz0qYbpa1zzzzz1zzzzz1C1SIE211Nei113yjo213yjo113yjo213yjo113yjo213yjo113yjo216W4e1",
     "13yjo213yjo113yjo213yjo113yjo213yjo113yjo213yjo113yjo213yjo113yjo216W4e113yjo213yjo113yjo2",
     "13yjo113yjo213yjo113yjo213yjo113yjo213yjo116W4e21E85A10tpOS21E85A10tpOS21E85A10tpOS21GfQ01",
     "0rI3c21GfQ010rI3c21GfQ010tpOS21E85A10tpOS21E85A10tpOS21GfQ010rI3c21GfQ010rI3c21GfQ010rI3c2",
     "1GfQ010tpOS21E85A10tpOS21E85A10tpOS21GfQ010rI3c21GfQ010rI3c21GfQ010tpOS21E85A10tpOS21E85A1",
     "0tpOS21E85A10tpOS21GfQ010rI3c21GfQ010rI3c21GfQ010tpOS21E85A10tpOS21E85A10tpOS21GfQ010rI3c2",
     "1GfQ010rI3c22AUoS3"],
    .nuuk⟩,
   ⟨["America/Goose_Bay"],
    [-14500, -12652, -9052, -12600, -9000, -14400, -10800, -7200],
    ["zzzzz0j00tZ1zzzzz1BDCjh2192TQ1Z4PdA32NuQu40rH7Y31GgM440rH7Y31GgM440rH7Y31JDgu40ojmi31JDgu4",
     "0rH7Y31GgM440rH7Y31GgM447Eowy31JDgu40rH7Y31GgM440rH7Y31GgM440rH7Y31GgM440rH7Y31JDgu40rH7Y3",
     "1BbgO40toSO31E91E40toSO31E91E40toSO31E91E40toSO31E91E40toSO31GgM440toSO31E91E40toSO31E91E4",
     "0toSO31E91E40toSO31E91E416V8a313zfs413xnk313zfs413xnk313zfs413xnk313zfs413xnk313zfs416V8a3",
     "0mxH650EVWy616V8a513zfs613xnk513zfs613xnk513zfs613xnk513zfs613xnk513zfs616V8a513zfs613xnk5",
     "13zfs613xnk513zfs613xnk513zfs613xnk513zfs616V8a511SL2616V8a513zfs613xnk513zfs613xnk513zfs6",
     "13xnk513zfs613xnk513zfs616V8a511SL2616V8a513zfs613xnk513zfs613xnk513zfs613xnk50wLoC61BZoG5",
     "0wNfM71E6D250trGa61E79650tqKW61E79650wNfM61BZoG50wNfM61BZoG50wNfM61E79650tqKW61E79650tqKW6",
     "1E79650wNfM61BZoG50wNfM61BZoG50wNfM61BZoG50wNfM61E79650tqKW61E79650tqKW61E79650wNfM61BZoG5",
     "0wNfM61BZoG50wNfM61E79650tqKW61E79650tqKW61E79650mEK061OGUS50jgzA61OGUS50jgzA61OGUS50mEK06",
     "1OGUS50jgzA61OILc5"],
    .halifax⟩,
   ⟨["America/Grand_Turk"],
    [-17072, -18430, -18000, -14400],
    ["zzzzz0vogF71l9m1e2zzzzz2zzzzz2JbIG4313xnk213zfs313xnk213zfs313xnk213zfs316V8a211SL2316V8a2",
     "13zfs313xnk213zfs313xnk213zfs313xnk20wNfM31BZoG20wNfM31E79620tqKW31E79620tqKW31E79620wNfM3",
     "1BZoG20wNfM31BZoG20wNfM31E79620tqKW31E79620tqKW31E79620wNfM31BZoG20wNfM31BZoG20wNfM31BZoG2",
     "0wNfM31E79620tqKW31E79620tqKW31E79620wNfM31BZoG20wNfM31BZoG20wNfM31E79620tqKW31E79620tqKW3",
     "1E79620mEK031OGUS20jgzA31OGUS20jgzA31OGUS20mEK031OGUS20jgzA31OGUS20jgzA31OGUS20jgzA31OGUS2",
     "0jgzA31OGUS20jgzA36QPlg3"],
    .newYork⟩,
   ⟨["America/Grenada"],
    [-14820, -14400],
    ["zzzzz0zzzzz0fiUre1"],
    .steady (-14400)⟩,
   ⟨["America/Guadeloupe"],
    [-14768, -14400],
    ["zzzzz0zzzzz0fa9tC1"],
    .steady (-14400)⟩,
   ⟨["America/Guatemala"],
    [-21724, -21600, -18000],
    ["zzzzz0zzzzz0vEJ2s1zzzzz1tlGQX20WyQq1JioSm20iw9w1G0yJ620yt841VHACO20toSO1"],
    .steady (-21600)⟩,
   ⟨["America/Guayaquil"],
    [-19160, -18840, -18000, -14400],
    ["zzzzz0vogmn1zzzzz1PYSKP2zzzzz2zzzzz28DQMc30Ozwm2"],
    .steady (-18000)⟩,
   ⟨["America/Guyana"],
    [-13959, -14400, -13500, -10800],
    ["zzzzz0zzzzz0ftjPl17eBUP2zzzzz2zzzzz252D5K3ZZyGS1"],
    .steady (-14400)⟩,
   ⟨["America/Halifax", "Canada/Atlantic"],
    [-15264, -14400, -10800],
    ["zzzzz0zzzzz0MP4oU1TSlIO214KHI13H3hI2192TQ13Gzx220eaRM11Se5A20iDCq11Nvt220kO4811Q6kK20hqjI1",
     "1Q6kK20mYvQ11LOYC20rdb611LOYC20hUFk11LOYC20rdb611LOYC20h7mC11QphQ20fJOS11Se5A20k1aa11Nvt22",
     "0p6GG11GJsW20rdb611GJsW20uAvw11LOYC20h7mC11VuN620hUFk11QphQ20c36W11LOYC20rdb611GJsW20rdb61",
     "1QTDs20hUFk11IrDM20rdb611GJsW20rdb610mGC827lmRk11E91E20toSO11E91E20toSO11E91E20toSO11E91E2",
     "0toSO13Odpg20toSO11E91E20toSO11E91E20toSO11E91E20toSO13Odpg20toSO11E91E20toSO11E91E20toSO1",
     "1E91E20toSO15WbJI213xnk113zfs213xnk113zfs213xnk113zfs216V8a111SL2216V8a113zfs213xnk113zfs2",
     "13xnk113zfs213xnk113zfs213xnk113zfs216V8a113zfs213xnk113zfs213xnk113zfs213xnk113zfs213xnk1",
     "13zfs216V8a111SL2216V8a113zfs213xnk113zfs213xnk113zfs213xnk113zfs213xnk113zfs216V8a111SL22",
     "16V8a113zfs213xnk113zfs213xnk113zfs213xnk10wNfM21BZoG10wNfM21E79610tqKW21E79610tqKW21E7961",
     "0wNfM21BZoG10wNfM21BZoG10wNfM21E79610tqKW21E79610tqKW21E79610wNfM21BZoG10wNfM21BZoG10wNfM2",
     "1BZoG10wNfM21E79610tqKW21E79610tqKW21E79610wNfM21BZoG10wNfM21BZoG10wNfM21E79610tqKW21E7961",
     "0tqKW21E79610mEK02"],
    .halifax⟩,
   ⟨["America/Havana", "Cuba"],
    [-19768, -19776, -18000, -14400],
    ["zzzzz0vogwb1zzzzz1DuUI526B03E30iDCq2OrprM30WyQq21az2m30ZVlg21az2m30WyQq25qu0030WyQq21az2m3",
     "0WyQq2e2abQ30hqjI21PNnE30jf72216AXA30uAvw21GgM430rH7Y21Ll1k313xnk213zfs313xnk213zfs316V8a2",
     "13zfs30wLnE21BbgO30wiGm21BFCq30x4kK21AsjI313xnk213zfs316V8a211SL2316V8a216X0i30toSO20wNfM3",
     "1E79620tqKW31E79621E91E30toSO21E91E30toSO21E91E30toSO21E91E30wLnE21BbgO30wLnE20tqKW31E7962",
     "0tqKW31E79620wNfM31BZoG20wNfM31BZoG211SL23192TQ211SL2316W4e211ROy316W4e211ROy316W4e211ROy3",
     "16W4e211ROy316W4e213yjo313yjo213yjo316W4e20yu4831E85A20tpOS31GfQ020tpOS31E85A20tpOS31E85A2",
     "0wMjI31BakK20wMjI31BakK20tpOS35WaNE20mDNw31Lk5g20okim31JCkq20mDNw31Lk5g20okim31Lk5g20okim3",
     "1OHQW20okim3"],
    .havana⟩,
   ⟨["America/Hermosillo"],
    [-26632, -25200, -21600],
    ["zzzzz0zzzzz0zzzzz029YEF1BbyV627Kahc10yC3620toSO114M9Q2LUGWG1zzzzz1rEKuH21BZoG10wNfM21BZoG1",
     "0wNfM21BZoG1"],
    .steady (-25200)⟩,
   ⟨["America/Indiana/Knox", "America/Knox_IN", "US/Indiana-Starke"],
    [-20790, -21600, -18000],
    ["zzzzz0ikH0j1zzzzz1BNuHB21E79610tqKW21E7961lbhJ227lmRk13M6Uq20toSO11E91E20toSO11E91E20toSO1",
     "1GgM420rH7Y11GgM420toSO11E91E20toSO11E91E20toSO11E91E20toSO11E91E216V8a113zfs213xnk113zfs2",
     "0toSO11E91E20toSO11E91E213xnk113zfs216V8a113zfs213xnk113zfs23BvHM17UPRY213xnk113zfs213xnk1",
     "13zfs213xnk113zfs213xnk113zfs216V8a113zfs213xnk113zfs213xnk10POIS21iZBA10h9eK21QnpI113zfs2",
     "16V8a111SL2216V8a113zfs213xnk113zfs213xnk113zfs213xnk113zfs213xnk113zfs216V8a111SL2216V8a1",
     "13zfs213xnk113zfs213xnk113zfs213xnk10wNfM21BZoG10wNfM21E79610tqKW21E79610tqKW21E79610wNfM2",
     "XEZyy10mEK02"],
    .chicago⟩,
   ⟨["America/Indiana/Marengo"],
    [-20723, -21600, -18000, -14400],
    ["zzzzz0ikH0j1zzzzz1BNuHB21E79610tqKW21E7961lbhJ227lmRk1BuTk820toSO15U3yS20toSO11E91E20toSO1",
     "1GgM420toSO11E91E20toSO11E91E20toSO11E91E20toSO11E91E20toSO11GgM42H4CDg313xnk213zfs313xnk2",
     "13zfs316V8a213zfs313xnk213zfs313xnk22p77w31QnpI2zzzzz22zqfx31E79620mEK03"],
    .newYork⟩,
   ⟨["America/Indiana/Petersburg"],
    [-20947, -21600, -18000],
    ["zzzzz0ikH0j1zzzzz1BNuHB21E79610tqKW21E7961lbhJ227lmRk1KSp7I20rIzg11GgM420toSO11E91E20toSO1",
     "1E91E20toSO11E91E20toSO11E91E20toSO11GgM4213xnk113zfs213xnk113zfs213xnk113zfs213xnk113zfs2",
     "3EScC113zfs213xnk113zfs213xnk113zfs213xnk113zfs213xnk113zfs216V8a113zfs213xnk113zfs213xnk1",
     "0POIS21iZBA10h9eK21QnpI113zfs216V8a111SL22zzzzz2120fZ10mEK021OGUS2"],
    .newYork⟩,
   ⟨["America/Indiana/Tell_City"],
    [-20823, -21600, -18000, -14400],
    ["zzzzz0ikH0j1zzzzz1BNuHB21E79610tqKW21E7961lbhJ227lmRk1KSp7I20rIzg11GgM420toSO11E91E20toSO1",
     "1E91E20toSO11E91E20toSO11E91E20toSO11GgM4213xnk113zfs213xnk113zfs213xnk113zfs27UNZQ113zfs2",
     "13xnk113zfs313wrg213zfs313xnk2zzzzz2EuJU110mEK02"],
    .chicago⟩,
   ⟨["America/Indiana/Vevay"],
    [-20416, -21600, -18000, -14400],
    ["zzzzz0ikH0j1zzzzz1BNuHB21E79610tqKW21E7961lbhJ227lmRk1IIMAy2W2zEe313xnk213zfs313xnk213zfs3",
     "16V8a213zfs313xnk2zzzzz29Nj6n31E79620mEK03"],
    .newYork⟩,
   ⟨["America/Indiana/Vincennes"],
    [-21007, -21600, -18000, -14400],
    ["zzzzz0ikH0j1zzzzz1BNuHB21E79610tqKW21E7961lbhJ227lmRk11E91E20toSO1E2RDk20toSO11E91E20toSO1",
     "1GeTw20rIzg11GgM420toSO11E91E20toSO11E91E20toSO11E91E20toSO11E91E216V8a113zfs20rH7Y11GgM42",
     "13xnk113zfs213xnk113zfs2AgJmq313xnk213zfs313xnk2zzzzz2EuJU110mEK021OGUS2"],
    .newYork⟩,
   ⟨["America/Indiana/Winamac"],
    [-20785, -21600, -18000, -14400],
    ["zzzzz0ikH0j1zzzzz1BNuHB21E79610tqKW21E7961lbhJ227lmRk11E91E20toSO11E91E20toSO11E91E20toSO1",
     "1E91E20toSO11GgM420rH7Y11GgM420toSO11E91E20toSO11E91E20toSO11E91E20toSO11E91E216V8a113zfs2",
     "13xnk113zfs20toSO11E91E20toSO11E91E20toSO11E91E20toSO11GgM42H4CDg313xnk213zfs313xnk2zzzzz2",
     "EuJU110mEK03"],
    .newYork⟩,
   ⟨["America/Inuvik"],
    [0, -28800, -25200, -21600],
    ["zzzzz0zzzzz0zzzzz0zzzzz06MK4C1fHDai213xnk113zfs213xnk113zfs213xnk113zfs213xnk113zfs216V8a1",
     "11SL2216V8a113zfs213xnk113zfs313wrg213zfs313xnk213zfs313xnk213zfs316V8a211SL2316V8a213zfs3",
     "13xnk213zfs313xnk213zfs313xnk20wNfM31BZoG20wNfM31E79620tqKW31E79620tqKW31E79620wNfM31BZoG2",
     "0wNfM31BZoG20wNfM31E79620tqKW31E79620tqKW31E79620wNfM31BZoG20wNfM31BZoG20wNfM31BZoG20wNfM3",
     "1E79620tqKW31E79620tqKW31E79620wNfM31BZoG20wNfM31BZoG20wNfM31E79620tqKW31E79620tqKW31E7962",
     "0mEK03"],
    .denver⟩,
   ⟨["America/Iqaluit", "America/Pangnirtung"],
    [0, -14400, -18000, -21600],
    ["zzzzz0zzzzz0zzzzz0k6YB116lAYK2ulm7M113xnk213zfs113xnk213zfs113xnk213zfs113xnk213zfs116V8a2",
     "11SL2116V8a213zfs113xnk213zfs113xnk213zfs113xnk213zfs113xnk213zfs116V8a211SL2116V8a213zfs1",
     "13xnk213zfs113xnk213zfs113xnk20wNfM11BZoG20wNfM11E79620tqKW11E79620tqKW11E79620wNfM11BZoG2",
     "0wNfM11BZoG20wNfM11E79620tqKW11E79620tqKW11E79620wNfM11BZoG20wNfM11BZoG20wNfM11BZoG20wNfM1",
     "1E79630trGa227wXY11E79620wNfM11BZoG20wNfM11BZoG20wNfM11E79620tqKW11E79620tqKW11E79620mEK01"],
    .newYork⟩,
   ⟨["America/Jamaica", "Jamaica"],
    [-18430, -18000, -14400],
    ["zzzzz0zzzzz0gySGm1zzzzz1zzzzz18GM9k21iZBA10h9eK21QnpI113zfs216V8a111SL2216V8a113zfs213xnk1",
     "13zfs213xnk113zfs213xnk113zfs213xnk113zfs216V8a111SL2216V8a1"],
    .steady (-18000)⟩,
   ⟨["America/Juneau"],
    [54139, -32261, -28800, -25200, -32400],
    ["zzzzz0AOXAY1zzzzz1884qj2zzzzz2QZN4W37lmRk2oLMLg313xnk213zfs313xnk213zfs316V8a213zfs313xnk2",
     "13zfs313xnk20POIS31iZBA20h9eK31QnpI213zfs316V8a211SL2316V8a213zfs313xnk213zfs313xnk23Bx9U3",
     "13xnk213zfs316V8a211SL2316V8a4140bw213xnk413zfs213xnk413zfs213xnk40wNfM21BZoG40wNfM21E7964",
     "0tqKW21E79640tqKW21E79640wNfM21BZoG40wNfM21BZoG40wNfM21E79640tqKW21E79640tqKW21E79640wNfM2",
     "1BZoG40wNfM21BZoG40wNfM21BZoG40wNfM21E79640tqKW21E79640tqKW21E79640wNfM21BZoG40wNfM21BZoG4",
     "0wNfM21E79640tqKW21E79640tqKW21E79640mEK02"],
    .anchorage⟩,
   ⟨["America/Kentucky/Louisville", "America/Louisville"],
    [-20582, -21600, -18000, -14400],
    ["zzzzz0ikH0j1zzzzz1BNuHB21E79610tqKW21E79613EUUK20iZgO1fyDsO20toSO10manY27lmRk11E7A420ChbI1",
     "8LhVA20rH7Y11GgM420toSO11E91E20toSO11E91E20toSO11E91E20toSO11E91E20toSO11GgM4213xnk113zfs2",
     "13xnk113zfs213xnk113zfs213xnk113zfs216V8a113zfs2EwEk4313xnk213zfs313xnk213zfs313xnk213zfs3",
     "16V8a213zfs313xnk213zfs313xnk22p77w31QnpI213zfs316V8a211SL2316V8a213zfs313xnk213zfs313xnk2",
     "13zfs313xnk213zfs313xnk213zfs316V8a211SL2316V8a213zfs313xnk213zfs313xnk213zfs313xnk20wNfM3",
     "1BZoG20wNfM31E79620tqKW31E79620tqKW31E79620wNfM31BZoG20wNfM31BZoG20wNfM31E79620tqKW31E7962",
     "0tqKW31E79620wNfM31BZoG20wNfM31BZoG20wNfM31BZoG20wNfM31E79620tqKW31E79620tqKW31E79620wNfM3",
     "1BZoG20wNfM31BZoG20wNfM31E79620tqKW31E79620tqKW31E79620mEK03"],
    .newYork⟩,
   ⟨["America/Kentucky/Monticello"],
    [-20364, -21600, -18000, -14400],
    ["zzzzz0ikH0j1zzzzz1BNuHB21E79610tqKW21E7961lbhJ227lmRk1mDOs4213xnk113zfs213xnk113zfs213xnk1",
     "13zfs216V8a113zfs213xnk113zfs213xnk10POIS21iZBA10h9eK21QnpI113zfs216V8a111SL2216V8a113zfs2",
     "13xnk113zfs213xnk113zfs213xnk113zfs213xnk113zfs216V8a111SL2216V8a113zfs213xnk113zfs213xnk1",
     "13zfs213xnk10wNfM21BZoG10wNfM21E79610tqKW21E79610tqKW21E79610wNfM21BZoG10wNfM21BZoG10wNfM2",
     "1E79610tqKW21E79610tqKW21E79610wNfM21BZoG10wNfM21BZoG10wNfM21BZoG10wNfM21E79610tqKW227wXY3",
     "1E79620wNfM31BZoG20wNfM31BZoG20wNfM31E79620tqKW31E79620tqKW31E79620mEK03"],
    .newYork⟩,
   ⟨["America/La_Paz"],
    [-16356, -12756, -14400],
    ["zzzzz0zzzzz0zzzzz0N3BFX10vGMa2"],
    .steady (-14400)⟩,
   ⟨["America/Lima"],
    [-18492, -18516, -18000, -14400],
    ["zzzzz0vogc11deeDY2zzzzz20qmhJ30WbxI212BI8313xnk213zfs313xnk2zzzzz2Zl4zZ30WbxI21bhzs30WbxI2",
     "5siNk30WbxI2812Ku30WbxI2"],
    .steady (-18000)⟩,
   ⟨["America/Los_Angeles", "US/Pacific"],
    [-28378, -28800, -25200],
    ["zzzzz0ikIsr1zzzzz1BNuHB21E79610tqKW21E7961lbhJ227lmRk15EpyO21iCge12pSfQ20rI3c11GfQ020tpOS1",
     "1E85A20tpOS11E85A20tpOS11E85A20tpOS11E85A20tpOS11GfQ020tpOS11E85A20tpOS11E85A20tpOS11E85A2",
     "0tpOS11E85A20tpOS11GfQ020rI3c11GfQ0213yjo113yjo213yjo113yjo213yjo113yjo216W4e111ROy216W4e1",
     "13zfs213xnk113zfs213xnk113zfs213xnk113zfs213xnk113zfs216V8a113zfs213xnk113zfs213xnk10POIS2",
     "1iZBA10h9eK21QnpI113zfs216V8a111SL2216V8a113zfs213xnk113zfs213xnk113zfs213xnk113zfs213xnk1",
     "13zfs216V8a111SL2216V8a113zfs213xnk113zfs213xnk113zfs213xnk10wNfM21BZoG10wNfM21E79610tqKW2",
     "1E79610tqKW21E79610wNfM21BZoG10wNfM21BZoG10wNfM21E79610tqKW21E79610tqKW21E79610wNfM21BZoG1",
     "0wNfM21BZoG10wNfM21BZoG10wNfM21E79610tqKW21E79610tqKW21E79610wNfM21BZoG10wNfM21BZoG10wNfM2",
     "1E79610tqKW21E79610tqKW21E79610mEK02"],
    .losAngeles⟩,
   ⟨["America/Maceio"],
    [-8572, -10800, -7200],
    ["zzzzz0zzzzz0l4BJe1bun4O213R1U11556W213Eqe1Zb4Oe20nIoa11L18a20hqjI11QTDs20iDCq11QTDs20WbxI1",
     "N0YIy20U4cS11xp4K20LNBI11QphQ20WbxI11QphQ20hUFk11QphQ20hqjI1bk7Iu20mCRs11JDgu20eaRM11TjVo2",
     "0c36W11TN2G20c36W11VuN620h7mC1C7AQK20h7mC17mAnQ20rH7Y11JDgu2053jc125R4q20jf721"],
    .steady (-10800)⟩,
   ⟨["America/Managua"],
    [-20708, -20712, -21600, -18000],
    ["zzzzz0vohBl1zzzzz1WyVCX2zzzzz2Kyxx333pnhg28iXWi30ZsFE21Y5EO30ZsFE2ObwdU31YiZ620Zu7M38XdM82",
     "HfChk311QSu21EAtM30tnWK2"],
    .steady (-21600)⟩,
   ⟨["America/Manaus", "Brazil/West"],
    [-14404, -14400, -10800],
    ["zzzzz0zzzzz0l4Cpi1bumUO213R1U11556W213Eqe1Zb4Oe20nIoa11L18a20hqjI11QTDs20iDCq11QTDs20WbxI1",
     "N0YIy20U4cS11xp4K20LNBI11QphQ20WbxI11QphQ20hUFk11QphQ20hqjI1bk7Iu20mCRs11JDgu20eaRM11TjVo2",
     "0c36W1C9hlA20jf721"],
    .steady (-14400)⟩,
   ⟨["America/Marigot", "America/Port_of_Spain", "America/St_Barthelemy"],
    [-14764, -14400],
    ["zzzzz0zzzzz0h9Jc61"],
    .steady (-14400)⟩,
   ⟨["America/Martinique"],
    [-14660, -14400, -10800],
    ["zzzzz0zzzzz0fMNkc1zzzzz1zzzzz1NDfR8211QSu1"],
    .steady (-14400)⟩,
   ⟨["America/Matamoros"],
    [-23400, -21600, -18000],
    ["zzzzz0zzzzz0zzzzz029XIB1zzzzz1zzzzz1HUmna21E7961FsdLU21BZoG10wNfM21BZoG10wNfM21BZoG10wNfM2",
     "1E79610tqKW21E796116X0i20rH7Y116X0i21BZoG10wNfM21BZoG10wNfM21E79610tqKW21E79610tqKW21E7961",
     "0tqKW21E79610wNfM21BZoG10wNfM21BZoG10oleq2"],
    .chicago⟩,
   ⟨["America/Mazatlan", "Mexico/BajaSur"],
    [-25540, -25200, -21600],
    ["zzzzz0zzzzz0zzzzz029YEF1BbyV627Kahc10yC3620toSO114M9Q2LUGWG1zzzzz1rEKuH21BZoG10wNfM21BZoG1",
     "0wNfM21BZoG10wNfM21E79610tqKW21E796116X0i20rH7Y116X0i21BZoG10wNfM21BZoG10wNfM21E79610tqKW2",
     "1E79610tqKW21E79610tqKW21E79610wNfM21BZoG10wNfM21BZoG10wNfM21E79610tqKW21E79610tqKW21E7961",
     "0wNfM21BZoG10wNfM21BZoG10wNfM21BZoG10wNfM21E79610tqKW21E79610tqKW21E79610wNfM21BZoG10wNfM2",
     "1BZoG10wNfM21E79610tqKW21E7961"],
    .steady (-25200)⟩,
   ⟨["America/Menominee"],
    [-21027, -21600, -18000],
    ["zzzzz0mfAAu1zzzzz17T17021E79610tqKW21E7961lbhJ227lmRk11E91E20toSO1fmz6O216V8a15Jud629cL321",
     "0POIS21iZBA10h9eK21QnpI113zfs216V8a111SL2216V8a113zfs213xnk113zfs213xnk113zfs213xnk113zfs2",
     "13xnk113zfs216V8a111SL2216V8a113zfs213xnk113zfs213xnk113zfs213xnk10wNfM21BZoG10wNfM21E7961",
     "0tqKW21E79610tqKW21E79610wNfM21BZoG10wNfM21BZoG10wNfM21E79610tqKW21E79610tqKW21E79610wNfM2",
     "1BZoG10wNfM21BZoG10wNfM21BZoG10wNfM21E79610tqKW21E79610tqKW21E79610wNfM21BZoG10wNfM21BZoG1",
     "0wNfM21E79610tqKW21E79610tqKW21E79610mEK02"],
    .chicago⟩,
   ⟨["America/Merida"],
    [-21508, -21600, -18000],
    ["zzzzz0zzzzz0zzzzz029XIB1zzzzz1zzzzz146bPm21ojHU1SgCau21BZoG10wNfM21BZoG10wNfM21BZoG10wNfM2",
     "1E79610tqKW21E796116X0i20rH7Y116X0i21BZoG10wNfM21BZoG10wNfM21E79610tqKW21E79610tqKW21E7961",
     "0tqKW21E79610wNfM21BZoG10wNfM21BZoG10wNfM21E79610tqKW21E79610tqKW21E79610wNfM21BZoG10wNfM2",
     "1BZoG10wNfM21BZoG10wNfM21E79610tqKW21E79610tqKW21E79610wNfM21BZoG10wNfM21BZoG10wNfM21E7961",
     "0tqKW21E7961"],
    .steady (-21600)⟩,
   ⟨["America/Metlakatla"],
    [54822, -31578, -28800, -25200, -32400],
    ["zzzzz0AOXAY1zzzzz1884fi2zzzzz2QZNFX37lmRk2oLMLg313xnk213zfs313xnk213zfs316V8a213zfs313xnk2",
     "13zfs313xnk20POIS31iZBA20h9eK31QnpI213zfs316V8a211SL2316V8a213zfs313xnk213zfs313xnk213zfs3",
     "13xnk213zfs313xnk213zfs316V8a211SL2316V8a2zzzzz26LwEj40mEK021OGUS40jgzA21OGUS40jgzA21qBBg4"],
    .anchorage⟩,
   ⟨["America/Mexico_City", "Mexico/General"],
    [-23796, -25200, -21600, -18000],
    ["zzzzz0zzzzz0zzzzz029YEF1BbyV627Kahc10yC3620toSO114M9Q2Ecf0S30ojmi237ExM30ewuu25mYHQ30neM42",
     "CM1xo30yt842zzzzz2ZZs5h31BZoG20wNfM31BZoG20wNfM31BZoG20wNfM31E79620tqKW31E796216X0i30rH7Y2",
     "16X0i31BZoG20wNfM31BZoG20wNfM31E79620tqKW31E79620tqKW31E79620tqKW31E79620wNfM31BZoG20wNfM3",
     "1BZoG20wNfM31E79620tqKW31E79620tqKW31E79620wNfM31BZoG20wNfM31BZoG20wNfM31BZoG20wNfM31E7962",
     "0tqKW31E79620tqKW31E79620wNfM31BZoG20wNfM31BZoG20wNfM31E79620tqKW31E7962"],
    .steady (-21600)⟩,
   ⟨["America/Miquelon"],
    [-13480, -14400, -10800, -7200],
    ["zzzzz0zzzzz0fcgtG1zzzzz1zzzzz1N6QDC2EnChU31BZoG20wNfM31E79620tqKW31E79620tqKW31E79620wNfM3",
     "1BZoG20wNfM31BZoG20wNfM31E79620tqKW31E79620tqKW31E79620wNfM31BZoG20wNfM31BZoG20wNfM31BZoG2",
     "0wNfM31E79620tqKW31E79620tqKW31E79620wNfM31BZoG20wNfM31BZoG20wNfM31E79620tqKW31E79620tqKW3",
     "1E79620mEK03"],
    .miquelon⟩,
   ⟨["America/Moncton"],
    [-15548, -18000, -14400, -10800],
    ["zzzzz0irgCr1dXPJk2Xo8Yq3192TQ2VEFRw30WyQq21az2m30WyQq21az2m30WyQq21az2m30WyQq21az2m30WyQq2",
     "1az2m30WyQq21Y5EO30h7mC21Oeq830jIdU21JaAS30que020myDA37lmRk21E91E30toSO21E91E30toSO21E91E3",
     "0toSO21E91E30toSO21GgM430rH7Y21GgM430toSO21E91E30toSO21E91E30toSO21E91E30toSO21E91E30toSO2",
     "1GgM430toSO21E91E313xnk213zfs313xnk213zfs313xnk213zfs316V8a213zfs313xnk213zfs313xnk213zfs3",
     "13xnk213zfs313xnk213zfs316V8a211SL2316V8a213zfs313xnk213zfs313xnk213zfs313xnk213zfs313xnk2",
     "13zfs316V8a213zfs313xnk23Bx9U313xnk213zfs313xnk213zfs316V8a211SL2316V8a213zfs313xnk213zfs3",
     "13xnk213zfs313xnk213zfs313xnk213zfs316V8a211SL2316V8a213zfs313xnk213zfs313xnk213zfs313xnk2",
     "0wNfM31BZoG20wNfM31E79620tqKW31E79620tqKW31E79620wNfM31BZoG20wNfM31BZoG20wLoC31E79620tqKW3",
     "1E79620tqKW31E79620wNfM31BZoG20wNfM31BZoG20wNfM31BZoG20wNfM31E79620tqKW31E79620tqKW31E7962",
     "0wNfM31BZoG20wNfM31BZoG20wNfM31E79620tqKW31E79620tqKW31E79620mGBA3"],
    .halifax⟩,
   ⟨["America/Monterrey"],
    [-24076, -25200, -21600, -18000],
    ["zzzzz0zzzzz0zzzzz029XIB1BbzRA27Kahc10yC3620toSO114M9Q2zzzzz2vbpzt31E7962FsdLU31BZoG20wNfM3",
     "1BZoG20wNfM31BZoG20wNfM31E79620tqKW31E796216X0i30rH7Y216X0i31BZoG20wNfM31BZoG20wNfM31E7962",
     "0tqKW31E79620tqKW31E79620tqKW31E79620wNfM31BZoG20wNfM31BZoG20wNfM31E79620tqKW31E79620tqKW3",
     "1E79620wNfM31BZoG20wNfM31BZoG20wNfM31BZoG20wNfM31E79620tqKW31E79620tqKW31E79620wNfM31BZoG2",
     "0wNfM31BZoG20wNfM31E79620tqKW31E7962"],
    .steady (-21600)⟩,
   ⟨["America/Montevideo"],
    [-13491, -14400, -10800, -12600, -9000, -7200, -5400],
    ["zzzzz0zzzzz0yaMSr17IR13214KHI314LgO213yGm314LgO213yGm3GBTey20tovQ31E8YC20tovQ31E8YC20tovQ3",
     "1E8YC20tovQ31Gft220rHaa31Gft220rHaa316WXg213yGm31E8YC20tovQ30ixZ222vFpA40WcQK2YaLTk411Qvw2",
     "0MqUa50HkPo2AqV0K511QSu25h78C41698422ytWi50I6tM23yAXQ50UR6023Bx9U60KHHc411SL220ebqS50ZVlg2",
     "3gPBY50RtlA21az2m50WyQq21g3iS50RtlA20KJcm51siWW2GXbCS50RXHc21g3iS50UR6021OIMa50h7mC21OIMa5",
     "0mCRs21OIMa50jf7221Ll1k50mCRs2OgEbo516X0i2194LY50toSO21BbgO50wLnE21E91E50toSO21E91E50toSO2",
     "1E91E50wLnE21BbgO50wLnE21BbgO50wLnE21E91E50toSO21E91E50toSO21E91E50toSO2"],
    .steady (-10800)⟩,
   ⟨["America/Montreal", "America/Nipigon", "America/Thunder_Bay", "America/Toronto",
     "Canada/Eastern"],
    [-19052, -18000, -14400],
    ["zzzzz0zzzzz06Uf0Q1nia162192TQ10uASu21Dl8a116Ysq20rFFQ11Lmts20iZgO11PNnE20jf7211OIMa20jf721",
     "1Ll1k20ojmi11JDgu20ojmi11JDgu20ojmi11JDgu20rH7Y11GgM420toSO11E91E20toSO11E91E20toSO11E91E2",
     "0toSO11GgM420rH7Y11GgM420toSO11E91E20toSO11E91E20toSO11E91E20toSO11E91E20toSO11E91E20toSO1",
     "1GgM420rH7Y11GgM42Ba9BI11E91E20toSO11E91E20toSO11E91E20toSO11E91E21GeTw10tqKW21E79610tqKW2",
     "0toSO11E91E20toSO11E91E20toSO11E91E20toSO11E91E20toSO11GgM420toSO11E91E213xnk113zfs213xnk1",
     "13zfs213xnk113zfs216V8a113zfs213xnk113zfs213xnk113zfs213xnk113zfs213xnk113zfs216V8a111SL22",
     "16V8a113zfs213xnk113zfs213xnk113zfs213xnk113zfs213xnk113zfs216V8a113zfs213xnk113zfs213xnk1",
     "13zfs213xnk113zfs213xnk113zfs216V8a111SL2216V8a113zfs213xnk113zfs213xnk113zfs213xnk113zfs2",
     "13xnk113zfs216V8a111SL2216V8a113zfs213xnk113zfs213xnk113zfs213xnk10wNfM21BZoG10wNfM21E7961",
     "0tqKW21E79610tqKW21E79610wNfM21BZoG10wNfM21BZoG10wNfM21E79610tqKW21E79610tqKW21E79610wNfM2",
     "1BZoG10wNfM21BZoG10wNfM21BZoG10wNfM21E79610tqKW21E79610tqKW21E79610wNfM21BZoG10wNfM21BZoG1",
     "0wNfM21E79610tqKW21E79610tqKW21E79610mEK02"],
    .newYork⟩,
   ⟨["America/Montserrat"],
    [-14932, -14400],
    ["zzzzz0zzzzz0fiUuQ1"],
    .steady (-14400)⟩,
   ⟨["America/Nassau"],
    [-18570, -18000, -14400],
    ["zzzzz0zzzzz0h9KbU1zzzzz12QIsx25hRjc10BFi421VsUy1dYWv2213xnk113zfs216V8a111SL2216V8a113zfs2",
     "13xnk113zfs213xnk113zfs213xnk113zfs213xnk113zfs216V8a113zfs213xnk113zfs213xnk113zfs213xnk1",
     "13zfs213xnk113zfs216V8a111SL2216V8a113zfs213xnk113zfs213xnk113zfs213xnk113zfs213xnk113zfs2",
     "16V8a111SL2216V8a113zfs213xnk113zfs213xnk113zfs213xnk10wNfM21BZoG10wNfM21E79610tqKW21E7961",
     "0tqKW21E79610wNfM21BZoG10wNfM21BZoG10wNfM21E79610tqKW21E79610tqKW21E79610wNfM21BZoG10wNfM2",
     "1BZoG10wNfM21BZoG10wNfM21E79610tqKW21E79610tqKW21E79610wNfM21BZoG10wNfM21BZoG10wNfM21E7961",
     "0tqKW21E79610tqKW21E79610mEK02"],
    .newYork⟩,
   ⟨["America/New_York", "US/Eastern", "posixrules"],
    [-17762, -18000, -14400],
    ["zzzzz0ikG4f1zzzzz1BNuHB21E79610tqKW21E79610tqKW21GeTw111SL220toSO11GgM420rH7Y11GgM420toSO1",
     "1E91E20toSO11E91E20toSO11E91E20toSO11E91E20toSO11GgM420toSO11E91E20toSO11E91E20toSO11E91E2",
     "0toSO11E91E20toSO11GgM420rH7Y11GgM420toSO11E91E20toSO11E91E20toSO11E91E20toSO11E91E20toSO1",
     "1GgM420rH7Y11GgM420toSO11E91E20toSO10manY27lmRk11E91E20toSO11E91E20toSO11E91E20toSO11E91E2",
     "0toSO11GgM420rH7Y11GgM420toSO11E91E20toSO11E91E20toSO11E91E20toSO11E91E216V8a113zfs213xnk1",
     "13zfs213xnk113zfs213xnk113zfs213xnk113zfs216V8a113zfs213xnk113zfs213xnk113zfs213xnk113zfs2",
     "13xnk113zfs216V8a111SL2216V8a113zfs213xnk113zfs213xnk113zfs213xnk113zfs213xnk113zfs216V8a1",
     "13zfs213xnk113zfs213xnk10POIS21iZBA10h9eK21QnpI113zfs216V8a111SL2216V8a113zfs213xnk113zfs2",
     "13xnk113zfs213xnk113zfs213xnk113zfs216V8a111SL2216V8a113zfs213xnk113zfs213xnk113zfs213xnk1",
     "0wNfM21BZoG10wNfM21E79610tqKW21E79610tqKW21E79610wNfM21BZoG10wNfM21BZoG10wNfM21E79610tqKW2",
     "1E79610tqKW21E79610wNfM21BZoG10wNfM21BZoG10wNfM21BZoG10wNfM21E79610tqKW21E79610tqKW21E7961",
     "0wNfM21BZoG10wNfM21BZoG10wNfM21E79610tqKW21E79610tqKW21E79610mEK02"],
    .newYork⟩,
   ⟨["America/Nome"],
    [46702, -39698, -39600, -36000, -32400, -28800],
    ["zzzzz0AOXAY1zzzzz1886mg2zzzzz2QZNwl37lmRk2oLMLg313xnk213zfs313xnk213zfs316V8a213zfs313xnk2",
     "13zfs313xnk20POIS31iZBA20h9eK31QnpI213zfs316V8a211SL2316V8a213zfs313xnk213zfs313xnk213zfs3",
     "13xnk213zfs313xnk213zfs316V8a211SL2316V8a413xnk513xnk413zfs513xnk413zfs513xnk40wNfM51BZoG4",
     "0wNfM51E79640tqKW51E79640tqKW51E79640wNfM51BZoG40wNfM51BZoG40wNfM51E79640tqKW51E79640tqKW5",
     "1E79640wNfM51BZoG40wNfM51BZoG40wNfM51BZoG40wNfM51E79640tqKW51E79640tqKW51E79640wNfM51BZoG4",
     "0wNfM51BZoG40wNfM51E79640tqKW51E79640tqKW51E79640mEK05"],
    .anchorage⟩,
   ⟨["America/Noronha", "Brazil/DeNoronha"],
    [-7780, -7200, -3600],
    ["zzzzz0zzzzz0l4B6s1bumL6213R1U11556W213Eqe1Zb4Oe20nIoa11L18a20hqjI11QTDs20iDCq11QTDs20WbxI1",
     "N0YIy20U4cS11xp4K20LNBI11QphQ20WbxI11QphQ20hUFk11QphQ20hqjI1bk7Iu20mCRs11JDgu20eaRM11TjVo2",
     "0c36W11TN2G20c36W11VuN620h7mC1KaSzw20rH7Y11JDgu202WOm127yPg20jf721"],
    .steady (-7200)⟩,
   ⟨["America/North_Dakota/Beulah"],
    [-24427, -25200, -21600],
    ["zzzzz0ikHwn1zzzzz1BNuHB21E79610tqKW21E7961lbhJ227lmRk1k5ROS213xnk113zfs213xnk113zfs213xnk1",
     "13zfs213xnk113zfs216V8a113zfs213xnk113zfs213xnk10POIS21iZBA10h9eK21QnpI113zfs216V8a111SL22",
     "16V8a113zfs213xnk113zfs213xnk113zfs213xnk113zfs213xnk113zfs216V8a111SL2216V8a113zfs213xnk1",
     "13zfs213xnk113zfs213xnk10wNfM21BZoG10wNfM21E79610tqKW21E79610tqKW21E79610wNfM21BZoG10wNfM2",
     "1BZoG10wNfM21E79610tqKW21E79610tqKW21E79610wNfM21BZoG10wNfM21BZoG10wNfM21BZoG10wNfM21E7961",
     "0tqKW21E79610tqKW21E79610wNfM21BZoG10wNfM21BZoG10wNfM21E79610tqKW21E79610tqKW21E79610mEK02",
     "1OGUS10jgzA21OGUS10jgzA21OGUS10mEK021OGUS2"],
    .chicago⟩,
   ⟨["America/North_Dakota/Center"],
    [-24312, -25200, -21600, -18000],
    ["zzzzz0ikHwn1zzzzz1BNuHB21E79610tqKW21E7961lbhJ227lmRk1k5ROS213xnk113zfs213xnk113zfs213xnk1",
     "13zfs213xnk113zfs216V8a113zfs213xnk113zfs213xnk10POIS21iZBA10h9eK21QnpI113zfs216V8a111SL22",
     "16V8a113zfs213xnk113zfs213xnk113zfs213xnk113zfs213xnk113zfs216V8a111SL2216V8a113zfs213xnk1",
     "13zfs213xnk113zfs213xnk10wNfM21BZoG10wNfM21E79610tqKW21E79610tqKW21E79610wNfM21BZoG10wNfM2",
     "27wXY31E79620tqKW31E79620tqKW31E79620wNfM31BZoG20wNfM31BZoG20wNfM31BZoG20wNfM31E79620tqKW3",
     "1E79620tqKW31E79620wNfM31BZoG20wNfM31BZoG20wNfM31E79620tqKW31E79620tqKW31E79620mEK03"],
    .chicago⟩,
   ⟨["America/North_Dakota/New_Salem"],
    [-24339, -25200, -21600, -18000],
    ["zzzzz0ikHwn1zzzzz1BNuHB21E79610tqKW21E7961lbhJ227lmRk1k5ROS213xnk113zfs213xnk113zfs213xnk1",
     "13zfs213xnk113zfs216V8a113zfs213xnk113zfs213xnk10POIS21iZBA10h9eK21QnpI113zfs216V8a111SL22",
     "16V8a113zfs213xnk113zfs213xnk113zfs213xnk113zfs213xnk113zfs216V8a111SL2216V8a113zfs213xnk1",
     "13zfs213xnk113zfs213xnk10wNfM21BZoG10wNfM21E79610tqKW21E79610tqKW21E79610wNfM21BZoG10wNfM2",
     "1BZoG10wNfM21E79610tqKW21E79610tqKW21E79610wNfM21BZoG10wNfM21BZoG10wNfM21BZoG10wNfM21E7961",
     "0tqKW21E79610tqKW21E79610wNfM21BZoG10wNfM227wXY31E79620tqKW31E79620tqKW31E79620mEK03"],
    .chicago⟩,
   ⟨["America/Ojinaga"],
    [-25060, -25200, -21600, -18000],
    ["zzzzz0zzzzz0zzzzz029YEF1BbyV627Kahc10yC3620toSO114M9Q2zzzzz2zzzzz2CiaUU31BZoG20wNfM31BZoG2",
     "27yPg10wNfM21E79610tqKW21E796116X0i20rH7Y116X0i21BZoG10wNfM21BZoG10wNfM21E79610tqKW21E7961",
     "0tqKW21E79610tqKW21E79610wNfM21BZoG10wNfM21BZoG10oleq21OGUS10jgzA21OGUS10jgzA21OGUS10jgzA2",
     "1OGUS10jgzA21OGUS10jgzA21OGUS10mEK021OGUS10jgzA21OGUS10jgzA21OGUS10jgzA21OGUS10jgzA21OGUS1",
     "0mEK021OGUS10jgzA227wXY3"],
    .chicago⟩,
   ⟨["America/Panama"],
    [-19088, -19176, -18000],
    ["zzzzz0vogld1d5U0O2"],
    .steady (-18000)⟩,
   ⟨["America/Paramaribo"],
    [-13240, -13252, -13236, -12600, -10800],
    ["zzzzz0zzzzz0eesBu1pFtlM2MxH4i3zzzzz3LIAoX4"],
    .steady (-10800)⟩,
   ⟨["America/Phoenix", "US/Arizona"],
    [-26898, -25200, -21600],
    ["zzzzz0ikHwn1zzzzz1BNuHB21E79610tqKW21E7961lbhJ2242SWi10X0Iy214KHI1mDQjE213xnk1"],
    .steady (-25200)⟩,
   ⟨["America/Port-au-Prince"],
    [-17360, -17340, -18000, -14400],
    ["zzzzz0vogJl1vnNoi2zzzzz2zzzzz2HYZ6M311QSu213zfs313xnk213zfs313xnk213zfs313xnk213zfs313xnk2",
     "0wObQ31E85A20tpOS31E85A20tpOS31E85A20wMjI31BakK20wMjI31BakK20wMjI31E85A20tpOS31E85A20tpOS3",
     "1E85A20wMjI31BakK20wMjI31BakK2FsbTM31E79620tqKW31E7962BSav231OGUS20jgzA31OGUS20jgzA31OGUS2",
     "0jgzA31OGUS22uBnc3"],
    .newYork⟩,
   ⟨["America/Porto_Acre", "America/Rio_Branco", "Brazil/Acre"],
    [-16272, -18000, -14400],
    ["zzzzz0zzzzz0l4DJq1bumwK213R1U11556W213Eqe1Zb4Oe20nIoa11L18a20hqjI11QTDs20iDCq11QTDs20WbxI1",
     "N0YIy20U4cS11xp4K20LNBI11QphQ20WbxI11QphQ20hUFk11QphQ20hqjI1bk7Iu20mCRs11JDgu20eaRM11TjVo2",
     "0c36W1hWIAi2BULYW1"],
    .steady (-18000)⟩,
   ⟨["America/Porto_Velho"],
    [-15336, -14400, -10800],
    ["zzzzz0zzzzz0l4D4k1bumFM213R1U11556W213Eqe1Zb4Oe20nIoa11L18a20hqjI11QTDs20iDCq11QTDs20WbxI1",
     "N0YIy20U4cS11xp4K20LNBI11QphQ20WbxI11QphQ20hUFk11QphQ20hqjI1bk7Iu20mCRs11JDgu20eaRM11TjVo2",
     "0c36W1"],
    .steady (-14400)⟩,
   ⟨["America/Puerto_Rico"],
    [-15865, -14400, -10800],
    ["zzzzz0zzzzz0FXeh91zzzzz1U2KKm27HilM1"],
    .steady (-14400)⟩,
   ⟨["America/Punta_Arenas"],
    [-17020, -16965, -18000, -14400, -10800],
    ["zzzzz0vogEH1gl9GT2Dp0v514gNTZ31iZRr1HRmnl31FCqR20tTqy31Eq6C20tTqy31Eq6C20tTqy31Eq6C20tTqy3",
     "1FCZk20tTqy3KoZiC20M80W39xjAO20IUIy3jokXA40rH7Y31OIMa40jf723194LY40toSO31E91E40toSO31GgM44",
     "0rH7Y31BbgO40wLnE31GgM440rH7Y31GgM440toSO31E91E40toSO31E91E40toSO31GgM440rH7Y31GgM440rH7Y3",
     "1GgM440toSO31E91E40toSO31E91E40toSO31E91E40toSO31GgM440rH7Y31GgM440rH7Y31GgM4413xnk313zfs4",
     "0toSO31E91E40toSO31GgM440rH7Y316X0i411QSu31GgM440toSO31E91E40toSO31E91E40toSO31E91E40toSO3",
     "1GgM440rH7Y31GgM440yt843194LY40toSO3194LY416V8a316X0i40toSO31GgM440rH7Y31GgM440rH7Y31GgM44",
     "0rH7Y31GgM440toSO31E91E40toSO31E91E40toSO31GgM440rH7Y31GgM440yt843194LY40toSO31E91E411QSu3",
     "16X0i41E79630c4ye41TLA830jgzA41OGUS30mEK041Lj9c30mEK043bIdk30X0Iy4"],
    .steady (-10800)⟩,
   ⟨["America/Rainy_River", "America/Winnipeg", "Canada/Central"],
    [-23316, -21600, -18000],
    ["zzzzz0qYQwH1zRPWm20rH7Y13M8My2192TQ1dcUHw20mCRs19Ky2q27lmRk11JDgu20toSO1194LY20toSO11E91E2",
     "0toSO11E91E20toSO11H2pc20t5VI11EVUm20toSO11E91E20toSO11E91E20toSO11E91E20toSO11E91E20toSO1",
     "1GgM420toSO11E91E20toSO11E91E20toSO11E91E213xnk113zfs20toSO15WbJI20rH7Y15WbJI216W4e113yjo2",
     "13yjo113yjo213yjo113yjo213yjo113yjo213yjo113yjo216W4e113yjo213yjo113yjo213yjo113yjo213yjo1",
     "13yjo213yjo113yjo216W4e111ROy216W4e113yjo213yjo113yjo213yjo113yjo213yjo113yjo213yjo113yjo2",
     "16W4e111ROy216W4e113yjo213yjo113yjo213yjo113yjo213yjo10wMjI21BakK10wMjI21E85A10tpOS21E85A1",
     "0tpOS21E85A10wMjI21BakK10wMjI21BakK10wMjI21E85A10tpOS21E85A10tpOS21E85A10wMjI21BakK10wMjI2",
     "1BakK10wMjI21BakK10wMjI21E85A10tpOS21E85A10tpOS21E85A10wMjI21BakK10wMjI21BakK10wMjI21E85A1",
     "0tpOS21E85A10tpOS21E79610mEK02"],
    .chicago⟩,
   ⟨["America/Rankin_Inlet"],
    [0, -21600, -18000],
    ["zzzzz0zzzzz0zzzzz0zzzzz0EtyMO1WjXQO213xnk113zfs213xnk113zfs213xnk113zfs213xnk113zfs216V8a1",
     "11SL2216V8a113zfs213xnk113zfs213xnk113zfs213xnk113zfs213xnk113zfs216V8a111SL2216V8a113zfs2",
     "13xnk113zfs213xnk113zfs213xnk10wNfM21BZoG10wNfM21E79610tqKW21E79610tqKW21E79610wNfM21BZoG1",
     "0wNfM21BZoG10wNfM21E79610tqKW21E79610tqKW21E79610wNfM21BZoG10wNfM21BZoG10wNfM21BZoG10wNfM2",
     "1E79610tqKW23M4ci10wNfM21BZoG10wNfM21BZoG10wNfM21E79610tqKW21E79610tqKW21E79610mEK02"],
    .chicago⟩,
   ⟨["America/Recife"],
    [-8376, -10800, -7200],
    ["zzzzz0zzzzz0l4BGU1bun7Y213R1U11556W213Eqe1Zb4Oe20nIoa11L18a20hqjI11QTDs20iDCq11QTDs20WbxI1",
     "N0YIy20U4cS11xp4K20LNBI11QphQ20WbxI11QphQ20hUFk11QphQ20hqjI1bk7Iu20mCRs11JDgu20eaRM11TjVo2",
     "0c36W11TN2G20c36W11VuN620h7mC1KaSzw20rH7Y11JDgu202WOm127yPg20jf721"],
    .steady (-10800)⟩,
   ⟨["America/Regina", "Canada/Saskatchewan"],
    [-25116, -25200, -21600],
    ["zzzzz0zzzzz0TGitC1QwY0S2192TQ1Ob84020toSO11E91E20toSO11E91E20toSO11GgM420rH7Y11GgM420toSO1",
     "5MRxw213xnk113zfs211QSu116X0i213xnk116X0i213xnk113zfs213xnk10hY0027lmRk1194LY213xnk1194LY2",
     "0toSO11E91E20toSO11E91E20toSO11GgM420rH7Y11GgM420toSO11E91E20toSO11E91E20toSO11E91E20toSO1",
     "1E91E20toSO11GgM420toSO11E91E20toSO13M6Uq213xnk113zfs2"],
    .steady (-21600)⟩,
   ⟨["America/Resolute"],
    [0, -21600, -18000],
    ["zzzzz0zzzzz0zzzzz0uxOip1qg73w213xnk113zfs213xnk113zfs213xnk113zfs213xnk113zfs216V8a111SL22",
     "16V8a113zfs213xnk113zfs213xnk113zfs213xnk113zfs213xnk113zfs216V8a111SL2216V8a113zfs213xnk1",
     "13zfs213xnk113zfs213xnk10wNfM21BZoG10wNfM21E79610tqKW21E79610tqKW21E79610wNfM21BZoG10wNfM2",
     "1BZoG10wNfM21E79610tqKW21E79610tqKW21E79610wNfM21BZoG10wNfM21BZoG10wNfM21BZoG10wNfM21E7961",
     "0tqKW23M4ci10wNfM21BZoG10wNfM21BZoG10wNfM21E79610tqKW21E79610tqKW220LT62"],
    .chicago⟩,
   ⟨["America/Santarem"],
    [-13128, -14400, -10800],
    ["zzzzz0zzzzz0l4CV81bumoy213R1U11556W213Eqe1Zb4Oe20nIoa11L18a20hqjI11QTDs20iDCq11QTDs20WbxI1",
     "N0YIy20U4cS11xp4K20LNBI11QphQ20WbxI11QphQ20hUFk11QphQ20hqjI1bk7Iu20mCRs11JDgu20eaRM11TjVo2",
     "0c36W1hWIAi2"],
    .steady (-10800)⟩,
   ⟨["America/Santiago", "Chile/Continental"],
    [-16965, -18000, -14400, -10800],
    ["zzzzz0zzzzz0cZpUl1Dp0v504gNTZ21iZRr0HRmnl21FCqR10tTqy21Eq6C10tTqy21Eq6C10tTqy21Eq6C10tTqy2",
     "1FCZk10tTqy2KoZiC10M80W28RTFo30GIVc21FxOy10IUIy2jokXA30rH7Y21OIMa30jf722194LY30toSO21E91E3",
     "0toSO21GgM430rH7Y21BbgO30wLnE21GgM430rH7Y21GgM430toSO21E91E30toSO21E91E30toSO21GgM430rH7Y2",
     "1GgM430rH7Y21GgM430toSO21E91E30toSO21E91E30toSO21E91E30toSO21GgM430rH7Y21GgM430rH7Y21GgM43",
     "13xnk213zfs30toSO21E91E30toSO21GgM430rH7Y216X0i311QSu21GgM430toSO21E91E30toSO21E91E30toSO2",
     "1E91E30toSO21GgM430rH7Y21GgM430yt842194LY30toSO2194LY316V8a216X0i30toSO21GgM430rH7Y21GgM43",
     "0rH7Y21GgM430rH7Y21GgM430toSO21E91E30toSO21E91E30toSO21GgM430rH7Y21GgM430yt842194LY30toSO2",
     "1E91E311QSu216X0i31E79620c4ye31TLA820jgzA31OGUS20mEK031Lj9c20mEK033bIdk20X0Iy31axAe20X0Iy3",
     "1axAe20X0Iy31OGUS20tqKW31E79620tqKW31E79620tqKW31E79620wNfM3"],
    .santiago⟩,
   ⟨["America/Santo_Domingo"],
    [-16776, -16800, -18000, -14400, -16200],
    ["zzzzz0vogAL1zzzzz1UMGvx2zzzzz29iCPZ30hqjI25g1hY40gllg21RBhw40VWzg21exom40Tibw21eErg40URZ22",
     "1dVua40Uo2a21d9R23tXe2C20CggC3"],
    .steady (-14400)⟩,
   ⟨["America/Sao_Paulo", "Brazil/East"],
    [-11188, -10800, -7200],
    ["zzzzz0zzzzz0l4Bzq1bumOC213R1U11556W213Eqe1Zb4Oe20nIoa11L18a20hqjI11QTDs20iDCq11QTDs20WbxI1",
     "MjVuC20l71E11xp4K20LNBI11QphQ20WbxI11QphQ20hUFk11QphQ20hqjI1bk7Iu20mCRs11JDgu20eaRM11TjVo2",
     "0c36W11TN2G20c36W11VuN620h7mC11TN2G20h7mC11QphQ20eaRM11VuN620ZVlg11VuN620jf7211OIMa20jf721",
     "1OIMa20h7mC11OIMa20mCRs11M7VI20que011JDgu20mCRs11JDgu20rH7Y11JDgu20mCRs11OIMa20jf7211VuN62",
     "0c36W11QphQ20h7mC11WdKC20drUG11OIMa20jf7211VuN620eaRM11Ll1k20jf7211QphQ20h7mC11QphQ20jf721",
     "1OIMa20jf7211OIMa20mCRs11OIMa20h7mC11QphQ20h7mC11QphQ20jf7211OIMa20jf7211OIMa20jf7211OIMa2",
     "0jf7211VuN620c36W1"],
    .steady (-10800)⟩,
   ⟨["America/Scoresbysund"],
    [-5272, -7200, -3600, 0],
    ["zzzzz0zzzzz0qYZyM1zzzzz1zzzzz1C1TDO211ROy113wrg313xnk213yjo313yjo213yjo313yjo213yjo316W4e2",
     "13yjo313yjo213yjo313yjo213yjo313yjo213yjo313yjo213yjo313yjo213yjo316W4e213yjo313yjo213yjo3",
     "13yjo213yjo313yjo213yjo313yjo213yjo313yjo216W4e31E85A20tpOS31E85A20tpOS31E85A20tpOS31GfQ02",
     "0rI3c31GfQ020rI3c31GfQ020tpOS31E85A20tpOS31E85A20tpOS31GfQ020rI3c31GfQ020rI3c31GfQ020rI3c3",
     "1GfQ020tpOS31E85A20tpOS31E85A20tpOS31GfQ020rI3c31GfQ020rI3c31GfQ020tpOS31E85A20tpOS31E85A2",
     "0tpOS31E85A20tpOS31GfQ020rI3c31GfQ020rI3c31GfQ020tpOS31E85A20tpOS31E85A20tpOS31GfQ020rI3c3",
     "1GfQ020rI3c31GfQ020tpOS2"],
    .nuuk⟩,
   ⟨["America/Sitka"],
    [53927, -32473, -28800, -25200, -32400],
    ["zzzzz0AOXAY1zzzzz1884u92zzzzz2QZN1637lmRk2oLMLg313xnk213zfs313xnk213zfs316V8a213zfs313xnk2",
     "13zfs313xnk20POIS31iZBA20h9eK31QnpI213zfs316V8a211SL2316V8a213zfs313xnk213zfs313xnk213zfs3",
     "13xnk213zfs313xnk213zfs316V8a211SL2316V8a4140bw213xnk413zfs213xnk413zfs213xnk40wNfM21BZoG4",
     "0wNfM21E79640tqKW21E79640tqKW21E79640wNfM21BZoG40wNfM21BZoG40wNfM21E79640tqKW21E79640tqKW2",
     "1E79640wNfM21BZoG40wNfM21BZoG40wNfM21BZoG40wNfM21E79640tqKW21E79640tqKW21E79640wNfM21BZoG4",
     "0wNfM21BZoG40wNfM21E79640tqKW21E79640tqKW21E79640mEK02"],
    .anchorage⟩,
   ⟨["America/St_Johns", "Canada/Newfoundland"],
    [-12652, -9052, -12600, -9000, -5400],
    ["zzzzz0zzzzz0s2ioo10wiGm01DmXg1192TQ017D9c10ZsFE01Xikq113xnk013zfs113xnk016X0i111QSu016X0i1",
     "11QSu016X0i111QSu016X0i111QSu016X0i113xnk013zfs113xnk016X0i111QSu016X0i111QSu016X0i111QSu0",
     "16X0i111QSu016X0i113xnk016X0i111QSu016X0i111QSu00t8JU20DOgO311QSu2195Hc30rH7Y21GgM430rH7Y2",
     "1GgM430rH7Y21JDgu30ojmi21JDgu30rH7Y21GgM430rH7Y21GgM437Eowy21JDgu30rH7Y21GgM430rH7Y21GgM43",
     "0rH7Y21GgM430rH7Y21JDgu30rH7Y21BbgO30toSO21E91E30toSO21E91E30toSO21E91E30toSO21E91E30toSO2",
     "1GgM430toSO21E91E30toSO21E91E30toSO21E91E30toSO21E91E316V8a213zfs313xnk213zfs313xnk213zfs3",
     "13xnk213zfs313xnk213zfs316V8a211SL2316V8a213zfs313xnk213zfs313xnk213zfs313xnk213zfs313xnk2",
     "13zfs316V8a213zfs313xnk213zfs313xnk213zfs313xnk213zfs313xnk213zfs316V8a211SL2316V8a213zfs3",
     "13xnk213zfs313xnk213zfs313xnk213zfs313xnk213zfs316V8a211SL2316V8a213zfs313xnk213zfs313xnk2",
     "13zfs313xnk20wLoC31BZoG20wNfM41E6D220trGa31E79620tqKW31E79620wNfM31BZoG20wNfM31BZoG20wNfM3",
     "1E79620tqKW31E79620tqKW31E79620wNfM31BZoG20wNfM31BZoG20wNfM31BZoG20wNfM31E79620tqKW31E7962",
     "0tqKW31E79620wNfM31BZoG20wNfM31BZoG20wNfM31E79620tqKW31E79620tqKW31E79620mEK031OGUS20jgzA3",
     "1OGUS20jgzA31OGUS20mEK031OGUS20jgzA31OILc2"],
    .saintJohns⟩,
   ⟨["America/St_Kitts"],
    [-15052, -14400],
    ["zzzzz0zzzzz0h9Jgk1"],
    .steady (-14400)⟩,
   ⟨["America/St_Lucia"],
    [-14640, -14400],
    ["zzzzz0zzzzz0gnCVe1"],
    .steady (-14400)⟩,
   ⟨["America/St_Thomas", "America/Virgin"],
    [-15584, -14400],
    ["zzzzz0zzzzz0fiV3y1"],
    .steady (-14400)⟩,
   ⟨["America/St_Vincent"],
    [-14696, -14400],
    ["zzzzz0zzzzz0gnCWY1"],
    .steady (-14400)⟩,
   ⟨["America/Swift_Current"],
    [-25880, -25200, -21600],
    ["zzzzz0zzzzz0TGj5W1QwXo82192TQ1njeme27lmRk11E91E20yt841194LY20toSO11E91E20toSO11E91E20toSO1",
     "GCw2C213xnk13Bx9U213xnk113zfs20toSO11GgM420rH7Y1MdLns2"],
    .steady (-21600)⟩,
   ⟨["America/Tegucigalpa"],
    [-20932, -21600, -18000],
    ["zzzzz0zzzzz0zzzzz00Xq3b1zzzzz1zzzzz1H8e1m20rH7Y11GgM420rH7Y1bc8oq20XKuO1"],
    .steady (-21600)⟩,
   ⟨["America/Thule"],
    [-16508, -14400, -10800],
    ["zzzzz0zzzzz0qYcta1zzzzz1zzzzz1ZTXks213xnk113zfs213xnk116X0i21E79610tqKW21E79610tqKW21E7961",
     "0wNfM21BZoG10wNfM21BZoG10wNfM21BZoG10wNfM21E79610tqKW21E79610tqKW21E79610wNfM21BZoG10wNfM2",
     "1BZoG10wNfM21E79610tqKW21E79610tqKW21E79610mEK02"],
    .halifax⟩,
   ⟨["America/Tortola"],
    [-15508, -14400],
    ["zzzzz0zzzzz0fiV2k1"],
    .steady (-14400)⟩,
   ⟨["America/Vancouver", "Canada/Pacific"],
    [-29548, -28800, -25200],
    ["zzzzz0j04oH1zzzzz1BDD1R2192TQ1njeme27lmRk11E91E20toSO11E91E20toSO11E91E20toSO11E91E20toSO1",
     "1GgM420rH7Y11GgM420toSO11E91E20toSO11E91E20toSO11E91E20toSO11E91E20toSO11GgM420toSO11E91E2",
     "0toSO11E91E20toSO11E91E20toSO11E91E20toSO11GgM420rH7Y11GgM4213xnk113zfs213xnk113zfs213xnk1",
     "13zfs216V8a111SL2216V8a113zfs213xnk113zfs213xnk113zfs213xnk113zfs213xnk113zfs216V8a113zfs2",
     "13xnk113zfs213xnk113zfs213xnk113zfs213xnk113zfs216V8a111SL2216V8a113zfs213xnk113zfs213xnk1",
     "13zfs213xnk113zfs213xnk113zfs216V8a111SL2216V8a113zfs213xnk113zfs213xnk113zfs213xnk10wNfM2",
     "1BZoG10wNfM21E79610tqKW21E79610tqKW21E79610wNfM21BZoG10wNfM21BZoG10wNfM21E79610tqKW21E7961",
     "0tqKW21E79610wNfM21BZoG10wNfM21BZoG10wNfM21BZoG10wNfM21E79610tqKW21E79610tqKW21E79610wNfM2",
     "1BZoG10wNfM21BZoG10wNfM21E79610tqKW21E79610tqKW21E79610mEK02"],
    .losAngeles⟩,
   ⟨["America/Whitehorse", "Canada/Yukon"],
    [-32412, -32400, -28800, -25200],
    ["zzzzz0zzzzz0IWQow1bgrwq2192TQ11E91E20vxRY1lZYJs27lmRk1fmxEG316W4e10h8iG2UFMJs313xnk213zfs3",
     "13xnk213zfs316V8a211SL2316V8a213zfs313xnk213zfs313xnk213zfs313xnk20wNfM31BZoG20wNfM31E7962",
     "0tqKW31E79620tqKW31E79620wNfM31BZoG20wNfM31BZoG20wNfM31E79620tqKW31E79620tqKW31E79620wNfM3",
     "1BZoG20wNfM31BZoG20wNfM31BZoG20wNfM31E79620tqKW31E79620tqKW31E79620wNfM31BZoG20wNfM31BZoG2",
     "0wNfM31E79620tqKW31E79620tqKW31E79620mEK031OGUS20jgzA31OGUS20jgzA31OGUS20mEK031OGUS20jgzA3",
     "1OGUS20jgzA31OGUS20jgzA31OGUS20jgzA31OGUS20jgzA31OGUS20mEK031OGUS20jgzA31OGUS20jgzA31OGUS2",
     "0jgzA31OGUS20jgzA3"],
    .steady (-25200)⟩,
   ⟨["America/Yakutat"],
    [52865, -33535, -32400, -28800],
    ["zzzzz0AOXAY1zzzzz1885BH2zzzzz2QZNg237lmRk2oLMLg313xnk213zfs313xnk213zfs316V8a213zfs313xnk2",
     "13zfs313xnk20POIS31iZBA20h9eK31QnpI213zfs316V8a211SL2316V8a213zfs313xnk213zfs313xnk213zfs3",
     "13xnk213zfs313xnk213zfs316V8a211SL2316V8a213zfs313xnk213zfs313xnk213zfs313xnk20wNfM31BZoG2",
     "0wNfM31E79620tqKW31E79620tqKW31E79620wNfM31BZoG20wNfM31BZoG20wNfM31E79620tqKW31E79620tqKW3",
     "1E79620wNfM31BZoG20wNfM31BZoG20wNfM31BZoG20wNfM31E79620tqKW31E79620tqKW31E79620wNfM31BZoG2",
     "0wNfM31BZoG20wNfM31E79620tqKW31E79620tqKW31E79620mEK03"],
    .anchorage⟩]

end ChatFlow.Calendar
