import ChatFlow.Calendar.Clock

/-!
# Zones of Australia

Each zone with its names, the offsets that it has had, the changes between them,
and the rule that has been in force since.
-/

namespace ChatFlow.Calendar

/-- The zones of Australia. -/
def australiaZones : List ZoneHistory :=
  [⟨["Australia/ACT", "Australia/Canberra", "Australia/NSW", "Australia/Sydney"],
    [36292, 36000, 39600],
    ["zzzzz0zzzzz06ffNm1kngY820U5YW1qu89o20VXSi113yjo213yjo116W4e211ROy1wwFzk20h8iG11QolM20jg361",
     "1OHQW20jg3611OHQW20jg3611OHQW20mDNw11OHQW20jg3611OHQW20jg3611OHQW20jg3611OHQW20jg3611OHQW2",
     "0jg3611OHQW20wMjI11E85A20jg3611OHQW20jg3611OHQW20jg3611OHQW20okim11GfQ020rI3c11JCkq20rI3c1",
     "1JCkq20okim11JCkq20jg3611OHQW20jg3611OHQW20jg3611OHQW20mDNw11OHQW20jg3611OHQW20jg3611OHQW2",
     "0tpOS11E85A20tpOS11E85A20tpOS11E85A20tpOS11GfQ020rI3c10tpOS21E85A11GfQ020tpOS11E85A20tpOS1",
     "1E85A20tpOS11GfQ020rI3c11GfQ020tpOS11E85A20rI3c11GfQ02"],
    .sydney⟩,
   ⟨["Australia/Adelaide", "Australia/South"],
    [33260, 32400, 34200, 37800],
    ["zzzzz0zzzzz06fgAg193uvs2bjlIO30U5YW2qu89o30VXSi213yjo313yjo216W4e311ROy2wwFzk30h8iG21QolM3",
     "0jg3621OHQW30jg3621OHQW30jg3621OHQW30mDNw21OHQW30jg3621OHQW30jg3621OHQW30jg3621OHQW30jg362",
     "1OHQW30jg3621OHQW30mDNw21OHQW30jg3621OHQW30jg3621OHQW30jg3621OHQW30okim21GfQ030rI3c21JCkq3",
     "0rI3c21JCkq30okim21JCkq30okim21JCkq30jg3621OHQW30rI3c21GfQ030mDNw21OHQW30okim21JCkq30rI3c2",
     "1GfQ030tpOS21E85A30tpOS21E85A30tpOS21E85A30tpOS21GfQ030rI3c21GfQ030rI3c21GfQ030tpOS21E85A3",
     "0tpOS21E85A30tpOS21GfQ030rI3c21GfQ030tpOS21E85A30rI3c21GfQ03"],
    .adelaide⟩,
   ⟨["Australia/Brisbane", "Australia/Queensland"],
    [36728, 36000, 39600],
    ["zzzzz0zzzzz06UQUk1kyvRA20U5YW1qu89o20VXSi113yjo213yjo116W4e211ROy1wwFzk20h8iG1bjjtI20jg361",
     "1OHQW20jg3611OHQW20jg361"],
    .steady 36000⟩,
   ⟨["Australia/Broken_Hill", "Australia/Yancowinna"],
    [33948, 36000, 32400, 34200, 37800],
    ["zzzzz0zzzzz06ffza13KGdw25jeT23bjlIO40U5YW3qu89o40VXSi313yjo413yjo316W4e411ROy3wwFzk40h8iG3",
     "1QolM40jg3631OHQW40jg3631OHQW40jg3631OHQW40mDNw31OHQW40jg3631OHQW40jg3631OHQW40jg3631OHQW4",
     "0jg3631OHQW40jg3631OHQW40wMjI31E85A40jg3631OHQW40jg3631OHQW40jg3631OHQW40okim31GfQ040rI3c3",
     "1JCkq40rI3c31JCkq40okim31JCkq40jg3631OHQW40jg3631OHQW40jg3631OHQW40mDNw31OHQW40jg3631OHQW4",
     "0jg3631OHQW40tpOS31E85A40tpOS31E85A40tpOS31E85A40tpOS31GfQ040rI3c31GfQ040rI3c31GfQ040tpOS3",
     "1E85A40tpOS31E85A40tpOS31GfQ040rI3c31GfQ040tpOS31E85A40rI3c31GfQ04"],
    .adelaide⟩,
   ⟨["Australia/Currie", "Australia/Hobart", "Australia/Tasmania"],
    [35356, 36000, 39600],
    ["zzzzz0zzzzz07uWf81j1TQK211ROy11GfQ020jg3611OHQW20jg361mlpD620VXSi113yjo213yjo116W4e211ROy1",
     "oDjP6213yjo11E85A20mDNw11Lk5g20mDNw11Lk5g20okim11Lk5g20h8iG11QolM20jg3611OHQW20jg3611OHQW2",
     "0jg3611OHQW20mDNw11OHQW20jg3611OHQW20jg3611OHQW20jg3611OHQW20jg3611OHQW20jg3611OHQW20tpOS1",
     "1GfQ020rI3c11GfQ020jg3611OHQW20jg3611OHQW20jg3611Lk5g20rI3c11JCkq20rI3c11JCkq20okim11JCkq2",
     "0okim11JCkq20tpOS116W4e211ROy116W4e211ROy116W4e211ROy116W4e211ROy116W4e213yjo116W4e211ROy1",
     "16W4e211ROy116W4e211ROy116W4e211ROy10tpOS21E85A1193PU211ROy116W4e211ROy116W4e211ROy116W4e2",
     "11ROy116W4e213yjo113yjo211ROy1193PU2"],
    .sydney⟩,
   ⟨["Australia/Darwin", "Australia/North"],
    [31400, 32400, 34200, 37800],
    ["zzzzz0zzzzz06fgeg193uRs2bjlIO30U5YW2qu89o30VXSi213yjo313yjo216W4e311ROy2"],
    .steady 34200⟩,
   ⟨["Australia/Eucla"],
    [30928, 31500, 35100],
    ["zzzzz0zzzzz08RXBS1j1pv220U5YW1qu89o20VXSi113yjo213yjo1zzzzz15S5uD20jg361IV1v620jg361GS97A2",
     "0c42a1VW0no20ebNQ11GfQ020tpOS11E85A20tpOS1"],
    .steady 31500⟩,
   ⟨["Australia/LHI", "Australia/Lord_Howe"],
    [38180, 36000, 37800, 41400, 39600],
    ["zzzzz0zzzzz06fetK1zzzzz1zzzzz1xpRyw21OIpc30mCRs21OIMa30jf7221OIMa30jf7221OIMa30jf7221OIMa4",
     "0okFk21Gft240rHaa21JDDs40rHaa21JDDs40okFk21JDDs40jfa421OHtY40jfa421OHtY40jfa421OHtY40mCuu2",
     "1OHtY40jfa421OHtY40jfa421OHtY40tovQ21E8YC40tovQ21E8YC40tovQ21E8YC40tovQ21Gft240rHaa20tprU4",
     "1E7c821Gft240tovQ21E8YC40tovQ21E8YC40tovQ21Gft240rHaa21Gft240tovQ21E8YC40rHaa21Gft24"],
    .lordHowe⟩,
   ⟨["Australia/Lindeman"],
    [35756, 36000, 39600],
    ["zzzzz0zzzzz06UQkQ1kyvBU20U5YW1qu89o20VXSi113yjo213yjo116W4e211ROy1wwFzk20h8iG1bjjtI20jg361",
     "1OHQW20jg3611OHQW20jg3611OHQW20mDNw11OHQW20jg361"],
    .steady 36000⟩,
   ⟨["Australia/Melbourne", "Australia/Victoria"],
    [34792, 36000, 39600],
    ["zzzzz0zzzzz06ffly1kng9w20U5YW1qu89o20VXSi113yjo213yjo116W4e211ROy1wwFzk20h8iG11QolM20jg361",
     "1OHQW20jg3611OHQW20jg3611OHQW20mDNw11OHQW20jg3611OHQW20jg3611OHQW20jg3611OHQW20jg3611OHQW2",
     "0jg3611OHQW20mDNw11OHQW20jg3611OHQW20jg3611OHQW20jg3611OHQW20okim11GfQ020rI3c11GfQ020tpOS1",
     "1JCkq20okim11JCkq20okim11JCkq20jg3611OHQW20jg3611OHQW20mDNw11OHQW20jg3611OHQW20rI3c11GfQ02",
     "0tpOS11E85A20tpOS11E85A20tpOS11E85A20tpOS11GfQ020rI3c10tpOS21E85A11GfQ020tpOS11E85A20tpOS1",
     "1E85A20tpOS11GfQ020rI3c11GfQ020tpOS11E85A20rI3c11GfQ02"],
    .sydney⟩,
   ⟨["Australia/Perth", "Australia/West"],
    [27804, 28800, 32400],
    ["zzzzz0zzzzz08RXzq1j1poC20U5YW1qu89o20VXSi113yjo213yjo1zzzzz15S5uD20jg361IV1v620jg361GS97A2",
     "0c42a1VW0no20ebNQ11GfQ020tpOS11E85A20tpOS1"],
    .steady 28800⟩]

end ChatFlow.Calendar
