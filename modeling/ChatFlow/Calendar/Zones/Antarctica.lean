import ChatFlow.Calendar.Clock

/-!
# Zones of Antarctica

Each zone with its names, the offsets that it has had, the changes between them,
and the rule that has been in force since.
-/

namespace ChatFlow.Calendar

/-- The zones of Antarctica. -/
def antarcticaZones : List ZoneHistory :=
  [⟨["Antarctica/Casey"],
    [0, 28800, 39600],
    ["zzzzz0zzzzz0zzzzz0zzzzz0eWvEy1zzzzz1P7XWb20nyxU13WHiK20gOp619xjAO22x5c011EAtM20wIz211AubQ2",
     "0uVXM11E86820wJu811BdZU20wJu811BdZU20vHHg1"],
    .steady 28800⟩,
   ⟨["Antarctica/Davis"],
    [0, 25200, 18000],
    ["zzzzz0zzzzz0zzzzz0zzzzz0EyK4y1GejEu0956h61zzzzz1OwJgf20qDZ213U36m20gQhE1"],
    .steady 25200⟩,
   ⟨["Antarctica/DumontDUrville"],
    [0, 36000],
    ["zzzzz0zzzzz0zzzzz0tXfO71AkX4q0AFeoy1"],
    .steady 36000⟩,
   ⟨["Antarctica/Macquarie"],
    [0, 36000, 39600],
    ["zzzzz0zzzzz0GoRE21a7YrQ211ROy14J9N20ztqVs1fgK5w213yjo11E85A20mDNw11Lk5g20mDNw11Lk5g20okim1",
     "1Lk5g20h8iG11QolM20jg3611OHQW20jg3611OHQW20jg3611OHQW20mDNw11OHQW20jg3611OHQW20jg3611OHQW2",
     "0jg3611OHQW20jg3611OHQW20jg3611OHQW20tpOS11GfQ020rI3c11GfQ020jg3611OHQW20jg3611OHQW20jg361",
     "1Lk5g20rI3c11JCkq20rI3c11JCkq20okim11JCkq20okim11JCkq20tpOS116W4e211ROy116W4e211ROy116W4e2",
     "11ROy116W4e211ROy116W4e213yjo116W4e211ROy116W4e211ROy116W4e211ROy116W4e211ROy10tpOS21E85A1",
     "193PU211ROy116W4e211ROy116W4e211ROy116W4e211ROy116W4e213yjo113yjo211ROy1193PU213yjo113yjo2",
     "13yjo113yjo23BwDQ1"],
    .sydney⟩,
   ⟨["Antarctica/Mawson"],
    [0, 21600, 18000],
    ["zzzzz0zzzzz0zzzzz0zzzzz08kEVw1zzzzz1uuG7l2"],
    .steady 18000⟩,
   ⟨["Antarctica/McMurdo", "Antarctica/South_Pole"],
    [0, 43200, 46800],
    ["zzzzz0zzzzz0zzzzz0zzzzz0ClHvg1eEO1o20ebNQ11QolM20mDNw11OHQW20jg3611OHQW20jg3611OHQW20jg361",
     "1OHQW20jg3611OHQW20jg3611OHQW20mDNw11OHQW20jg3611OHQW20jg3611OHQW20jg3611OHQW20jg3611OHQW2",
     "0jg3611OHQW20mDNw11OHQW20jg3611GfQ020wMjI11BakK20wMjI11BakK20wMjI11BakK20yu481193PU20yu481",
     "193PU20yu481193PU20yu4811BakK20wMjI11BakK20wMjI11BakK20yu481193PU20yu481193PU20yu4811BakK2",
     "0wMjI11BakK20wMjI11BakK20yu481193PU20yu481193PU20yu481193PU20yu481193PU2"],
    .auckland⟩,
   ⟨["Antarctica/Palmer"],
    [0, -10800, -14400, -7200],
    ["zzzzz0zzzzz0zzzzz0zzzzz0VzGwm10LQvY21Kfb610neM421Kfb610zFbc213zfs116V8a213zfs113xnk213zfs1",
     "9BVmS30ZVlg1H5JWS20wk8u10toSO21E91E10toSO21GgM410rH7Y21GgM410rH7Y21GgM4113xnk213zfs10toSO2",
     "1E91E10toSO21GgM410rH7Y216X0i111QSu21GgM410toSO21E91E10toSO21E91E10toSO21E91E10toSO21GgM41",
     "0rH7Y21GgM410yt842194LY10toSO2194LY116V8a216X0i10toSO21GgM410rH7Y21GgM410rH7Y21GgM410rH7Y2",
     "1GgM410toSO21E91E10toSO21E91E10toSO21GgM410rH7Y21GgM410yt842194LY10toSO21E91E111QSu216X0i1",
     "1E79620c4ye11TLA820jgzA11OGUS20mEK011Lj9c20mEK013bIdk20X0Iy1"],
    .steady (-10800)⟩,
   ⟨["Antarctica/Rothera"],
    [0, -10800],
    ["zzzzz0zzzzz0zzzzz0zzzzz0vQz3M1"],
    .steady (-10800)⟩,
   ⟨["Antarctica/Syowa"],
    [0, 10800],
    ["zzzzz0zzzzz0zzzzz0zzzzz0F47hk1"],
    .steady 10800⟩,
   ⟨["Antarctica/Troll"],
    [0],
    ["zzzzz0zzzzz0zzzzz0zzzzz0zzzzz0teztl0"],
    .troll⟩,
   ⟨["Antarctica/Vostok"],
    [0, 25200, 18000],
    ["zzzzz0zzzzz0zzzzz0zzzzz0GwUgm1zzzzz1F9mU501b4fA1zzzzz10Cpiz2"],
    .steady 18000⟩]

end ChatFlow.Calendar
