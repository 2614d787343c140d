import ChatFlow.Calendar.Clock

/-!
# Zones of Africa

Each zone with its names, the offsets that it has had, the changes between them,
and the rule that has been in force since.
-/

namespace ChatFlow.Calendar

/-- The zones of Africa. -/
def africaZones : List ZoneHistory :=
  [⟨["Africa/Abidjan"],
    [-968, 0],
    ["zzzzz0zzzzz0gn8x81"],
    .steady 0⟩,
   ⟨["Africa/Accra"],
    [-52, 0, 1200, 1800],
    ["zzzzz0zzzzz0oz2Pe18fclQ20Dnfc11QSbA20iDpY11Q67c20iDpY11Q67c20iDpY11Q67c20iDpY11QSbA20iDpY1",
     "1Q67c20iDpY11Q67c20iDpY11Q67c20iDpY11QSbA20iDpY11Q67c20iDpY11Q67c20iDpY11Q67c20iDpY11QSbA2",
     "0iDpY11Q67c20iDpY11Q67c20iDpY11Q67c20iDpY11QSbA20iDpY11Q67c20iDpY11Q67c20iDpY11Q67c20iDpY1",
     "0hryi21QoS010hVVA21QoS010DkY438Lg6419vy3s30iDfs11Q6HI30iDfs11QSkq30iDfs11Q6HI30iDfs11Q6HI3",
     "0iDfs11Q6HI30iDfs1"],
    .steady 0⟩,
   ⟨["Africa/Addis_Ababa"],
    [9288, 9320, 10800],
    ["zzzzz0F6Juz1zzzzz1zzzzz1Hfzgw2"],
    .steady 10800⟩,
   ⟨["Africa/Algiers"],
    [732, 561, 0, 3600, 7200],
    ["zzzzz0yNkph1gg4eR2BF7gX30dVwm2114vQ319Pt220tSuu31EUYi20qva431H1tY20lquO31TM6C20pTfs30ZtBI2",
     "cuyA430OfLM20ZYZs38lPSy4168f2311ooa40yViS32Fvxg2Jsxo83FO9RI2H9eIy30tpOS2BySzA31sjSa413zfs3",
     "2KcHg213zfs316X0i213xnk3"],
    .steady 3600⟩,
   ⟨["Africa/Asmara", "Africa/Asmera"],
    [9332, 9320, 10800],
    ["zzzzz0voZNF1zzzzz1axkEf2"],
    .steady 10800⟩,
   ⟨["Africa/Bamako", "Africa/Timbuktu"],
    [-1920, 0, -3600],
    ["zzzzz0zzzzz0gn9CU1lJY2a2uCFPc1"],
    .steady 0⟩,
   ⟨["Africa/Bangui"],
    [4460, 3600],
    ["zzzzz0zzzzz0gn7Xa1"],
    .steady 3600⟩,
   ⟨["Africa/Banjul"],
    [-3996, -3600, 0],
    ["zzzzz0zzzzz0zzzzz0QAiX11IsEJo2"],
    .steady 0⟩,
   ⟨["Africa/Bissau"],
    [-3740, -3600, 0],
    ["zzzzz0zzzzz0gn9da1zzzzz1zzzzz1AY4jy2"],
    .steady 0⟩,
   ⟨["Africa/Blantyre"],
    [8400, 8470, 8460, 7200],
    ["zzzzz0zzzzz0fqjmk16Gcsk2NUzP83"],
    .steady 7200⟩,
   ⟨["Africa/Brazzaville"],
    [3668, 3600],
    ["zzzzz0zzzzz0gn7kM1"],
    .steady 3600⟩,
   ⟨["Africa/Bujumbura"],
    [7048, 7200],
    ["zzzzz0voZy51"],
    .steady 7200⟩,
   ⟨["Africa/Cairo", "Egypt"],
    [7509, 7200, 10800],
    ["zzzzz0zzzzz0IlUS51zzzzz1MyDqA20SGEi1194LY20toSO119Qp621DkfY10uZHc21FZ3I10t7NQ21FZ3I10yC362",
     "1A7u41ObWPg20qBgu11EryK20tRyq11EsuO20t7NQ11FZ3I20t7NQ11FCZk20t7NQ11FCZk20t7NQ11FCZk20t7NQ1",
     "1FZ3I20t7NQ11FCZk20t7NQ11FCZk20tTqy11Eq6C20tTqy11FCZk20tTqy11Eq6C20tTqy11Eq6C20tTqy11Eq6C2",
     "0tTqy11FCZk20tTqy11Eq6C20tTqy11Eq6C20tTqy11Eq6C20tTqy11FCZk20tTqy11Eq6C20tTqy11Eq6C20tTqy1",
     "1Eq6C20tTqy11FCZk20tTqy11Eq6C20tTqy11jebo20OfLM11ewPg20TNXU11FCZk20tTqy11Eq6C20tTqy11Eq6C2",
     "0tTqy11Eq6C20tTqy11FCZk20tTqy11GeTw20rfTE11Eq6C20tTqy11Eq6C20tTqy11FCZk20tTqy11Eq6C20tTqy1",
     "1Eq6C20tTqy11DjjU20toSO11E91E20toSO11E91E20toSO11E91E20toSO11GgM420toSO11E91E20toSO11E91E2",
     "0toSO11E91E20toSO11E91E20toSO11GgM420toSO11E91E20toSO11E91E20rH7Y11GgM420mCRs11Ll1k20jf721",
     "1OIMa20h7mC11TN2G20bK9Q10AtEW207b4S17jdSa20FD4y10ChcG20KHke1IKtVo2"],
    .cairo⟩,
   ⟨["Africa/Casablanca"],
    [-1820, 0, 3600],
    ["zzzzz0zzzzz0kfrd01tGaE020OdTE10ZXdo2CEkYi19jyvg20ojmi1ZRSlc20hJ0y1EN6O020Ozwm13YQhU20XKuO1",
     "1az2m20sMYC11RCAy20NBZ21BzYPo23pnhg1ls0ki20XKuO11az2m20TLfM11U5zM20ZVlg11OIMa20h7mC11b0uu2",
     "0Tj4y10BEm020ErXU11E85A20PNMO10CKCe20SHAm10tpOS20WctM10CggC20UoVc10tpOS20RuhE10CggC20ZWhk1",
     "0tpOS20PNMO10CggC20ebNQ10rI3c20KIgi10FE1220h8iG10rI3c20HlLs10CggC21sjSa10CggC21qC7k10FE122",
     "1qC7k10CggC21qC7k10FE1221qC7k10CggC21sjSa10CggC21qC7k10FE1221qC7k10CggC21sjSa10CggC21qC7k1",
     "0FE1221qC7k10CggC21qC7k10FE1221qC7k10CggC21sjSa10CggC21qC7k10FE1221qC7k10CggC21qC7k10FE122",
     "1qC7k10FE1221qC7k10CggC21qC7k10FE1221qC7k10CggC21sjSa10CggC21qC7k10FE1221qC7k10CggC21qC7k1",
     "0FE1221qC7k10FE1221qC7k10CggC21qC7k10FE1221qC7k10CggC21sjSa10CggC21qC7k10FE1221qC7k10CggC2",
     "1qC7k10FE1221qC7k10FE1221qC7k10CggC21qC7k10FE1221qC7k10CggC21sjSa10CggC21qC7k10FE1221qC7k1",
     "0CggC21qC7k10FE1221qC7k10FE1221qC7k10CggC21qC7k10FE1221qC7k10CggC21sjSa10CggC21qC7k10FE122",
     "1qC7k10CggC21qC7k10FE1221qC7k10FE1221qC7k10CggC21qC7k10FE1221qC7k10CggC21sjSa10CggC21qC7k1",
     "0FE1221qC7k10CggC21qC7k10FE1221qC7k10FE1221qC7k10CggC21qC7k10FE1221qC7k10CggC21sjSa10CggC2",
     "1qC7k10FE1221qC7k10CggC21qC7k10FE1221qC7k10CggC21sjSa10CggC21qC7k10FE1221qC7k10CggC21sjSa1",
     "0CggC21qC7k10FE122"],
    .steady 3600⟩,
   ⟨["Africa/Ceuta"],
    [-1276, 0, 3600, 7200],
    ["zzzzz0zzzzz0JIsFe1b2aEy20toSO1Bnagi2100Qq13Gzx220yv0C116V8a211SL21193PU211ROy1zzzzz1KYJgv2",
     "0hJ0y1EN6O020Ozwm13YQhU20XKuO11az2m20sMYC11RCAy20NBZ21BzYPo24LjW4313yjo213yjo313yjo213yjo3",
     "13yjo213yjo313yjo213yjo316W4e213yjo313yjo213yjo313yjo213yjo313yjo213yjo313yjo213yjo313yjo2",
     "16W4e3"],
    .paris⟩,
   ⟨["Africa/Conakry"],
    [-3292, 0, -3600],
    ["zzzzz0zzzzz0gn9Yc1lJXgS2tCFuq1"],
    .steady 0⟩,
   ⟨["Africa/Dakar"],
    [-4184, -3600, 0],
    ["zzzzz0zzzzz0gn9n01zzzzz10oyIT2"],
    .steady 0⟩,
   ⟨["Africa/Dar_es_Salaam"],
    [9428, 10800, 9900],
    ["zzzzz0zzzzz0zzzzz0LN1lH1aIulo2RldXo1"],
    .steady 10800⟩,
   ⟨["Africa/Djibouti"],
    [10356, 10800],
    ["zzzzz0zzzzz0fiOJa1"],
    .steady 10800⟩,
   ⟨["Africa/Douala"],
    [2328, 3600],
    ["zzzzz0zzzzz0gn85y1"],
    .steady 3600⟩,
   ⟨["Africa/El_Aaiun"],
    [-3168, -3600, 0, 3600],
    ["zzzzz0zzzzz0zzzzz0RmPNT1zzzzz1SIqWH2069AG30XKuO21az2m30sMYC21RCAy30NBZ22zzzzz21hMsD30XKuO2",
     "1az2m30TLfM21U5zM30ZVlg21OIMa30h7mC21b0uu30Tj4y20BEm030ErXU21E85A30PNMO20CKCe30SHAm20tpOS3",
     "0WctM20CggC30UoVc20tpOS30RuhE20CggC30ZWhk20tpOS30PNMO20CggC30ebNQ20rI3c30KIgi20FE1230h8iG2",
     "0rI3c30HlLs20CggC31sjSa20CggC31qC7k20FE1231qC7k20CggC31qC7k20FE1231qC7k20CggC31sjSa20CggC3",
     "1qC7k20FE1231qC7k20CggC31sjSa20CggC31qC7k20FE1231qC7k20CggC31qC7k20FE1231qC7k20CggC31sjSa2",
     "0CggC31qC7k20FE1231qC7k20CggC31qC7k20FE1231qC7k20FE1231qC7k20CggC31qC7k20FE1231qC7k20CggC3",
     "1sjSa20CggC31qC7k20FE1231qC7k20CggC31qC7k20FE1231qC7k20FE1231qC7k20CggC31qC7k20FE1231qC7k2",
     "0CggC31sjSa20CggC31qC7k20FE1231qC7k20CggC31qC7k20FE1231qC7k20FE1231qC7k20CggC31qC7k20FE123",
     "1qC7k20CggC31sjSa20CggC31qC7k20FE1231qC7k20CggC31qC7k20FE1231qC7k20FE1231qC7k20CggC31qC7k2",
     "0FE1231qC7k20CggC31sjSa20CggC31qC7k20FE1231qC7k20CggC31qC7k20FE1231qC7k20FE1231qC7k20CggC3",
     "1qC7k20FE1231qC7k20CggC31sjSa20CggC31qC7k20FE1231qC7k20CggC31qC7k20FE1231qC7k20FE1231qC7k2",
     "0CggC31qC7k20FE1231qC7k20CggC31sjSa20CggC31qC7k20FE1231qC7k20CggC31qC7k20FE1231qC7k20CggC3",
     "1sjSa20CggC31qC7k20FE1231qC7k20CggC31sjSa20CggC31qC7k20FE123"],
    .steady 3600⟩,
   ⟨["Africa/Freetown"],
    [-3180, -3600, -2400, 0],
    ["zzzzz0zzzzz0jzSDm1fTOXU20hrM010tTEG21Eqiu10tTEG21Eqiu10tTEG21FDCS10tTEG21Eqiu10tTEG21Eqiu1",
     "0tTEG21axnM10XM9o201Raq14oj1E3"],
    .steady 0⟩,
   ⟨["Africa/Gaborone"],
    [6220, 5400, 7200, 10800],
    ["zzzzz0l8bw51cmGw82zzzzz2Obkbp313xnk2"],
    .steady 7200⟩,
   ⟨["Africa/Harare"],
    [7452, 7200],
    ["zzzzz0zzzzz0NusL81"],
    .steady 7200⟩,
   ⟨["Africa/Johannesburg"],
    [6720, 5400, 7200, 10800],
    ["zzzzz0zzzzz00J04Y1Nbsng2zzzzz2MTn8D313xnk213zfs313xnk2"],
    .steady 7200⟩,
   ⟨["Africa/Juba"],
    [7588, 7200, 10800],
    ["zzzzz0zzzzz0zzzzz0LN2Ex1zzzzz1LzgGr20yWeW119Qp620yt84119nIe20yt841194LY20zFbc118hs020zc5A1",
     "18LOS20zyYi117yuu210hVo117Fxo2113zM119Qp620yt841194LY20zFbc118hs020zyYi117yuu210L2G117cRM2",
     "10hVo117Fxo2113zM119Qp620zFbc118hs020zc5A1UR8oC2iwtpA1"],
    .steady 7200⟩,
   ⟨["Africa/Kampala"],
    [7780, 10800, 9000, 9900],
    ["zzzzz0zzzzz0zzzzz0G1gad13D0rM2cRFY83JDyma1"],
    .steady 10800⟩,
   ⟨["Africa/Khartoum"],
    [7808, 7200, 10800],
    ["zzzzz0zzzzz0zzzzz0LN2BP1zzzzz1LzgKP20yWeW119Qp620yt84119nIe20yt841194LY20zFbc118hs020zc5A1",
     "18LOS20zyYi117yuu210hVo117Fxo2113zM119Qp620yt841194LY20zFbc118hs020zyYi117yuu210L2G117cRM2",
     "10hVo117Fxo2113zM119Qp620zFbc118hs020zc5A1UR8oC2c0Ddg1"],
    .steady 7200⟩,
   ⟨["Africa/Kigali"],
    [7216, 7200],
    ["zzzzz0zzzzz0zzzzz0UnQax1"],
    .steady 7200⟩,
   ⟨["Africa/Kinshasa"],
    [3672, 3600],
    ["zzzzz0zzzzz0CagAs1"],
    .steady 3600⟩,
   ⟨["Africa/Lagos"],
    [815, 0, 1800, 3600],
    ["zzzzz0zzzzz0Su8ax16PKYB0Bkfj72C63nj3"],
    .steady 3600⟩,
   ⟨["Africa/Libreville"],
    [2268, 3600],
    ["zzzzz0zzzzz0gn86w1"],
    .steady 3600⟩,
   ⟨["Africa/Lome"],
    [292, 0],
    ["zzzzz0zzzzz02Dw461"],
    .steady 0⟩,
   ⟨["Africa/Luanda"],
    [3176, 3124, 3600],
    ["zzzzz0zzzzz005Ess1ghssa2"],
    .steady 3600⟩,
   ⟨["Africa/Lubumbashi"],
    [6592, 3600, 7200],
    ["zzzzz0zzzzz0CafPm1lxRk82"],
    .steady 7200⟩,
   ⟨["Africa/Lusaka"],
    [6788, 7200],
    ["zzzzz0zzzzz0NusVq1"],
    .steady 7200⟩,
   ⟨["Africa/Malabo"],
    [2108, 0, 3600],
    ["zzzzz0zzzzz0gn89W1zzzzz1mxIGD2"],
    .steady 3600⟩,
   ⟨["Africa/Maputo"],
    [7818, 7200],
    ["zzzzz0zzzzz0aO8nw1"],
    .steady 7200⟩,
   ⟨["Africa/Maseru"],
    [6600, 7200, 10800],
    ["zzzzz0zzzzz0NusYs1zzzzz1ObkvB213xnk1"],
    .steady 7200⟩,
   ⟨["Africa/Mbabane"],
    [7464, 7200],
    ["zzzzz0zzzzz0NusKw1"],
    .steady 7200⟩,
   ⟨["Africa/Mogadishu"],
    [10888, 10800, 9000],
    ["zzzzz0zzzzz0406Bu1zzzzz1HMvDF2tWuc41"],
    .steady 10800⟩,
   ⟨["Africa/Monrovia"],
    [-2588, -2670, 0],
    ["zzzzz0zzzzz0w5W7q1zzzzz1osYWx2"],
    .steady 0⟩,
   ⟨["Africa/Nairobi"],
    [8836, 9000, 10800, 9900],
    ["zzzzz0zzzzz0YxJmA1h4MUm23ET5E1EvXC43Bup362"],
    .steady 10800⟩,
   ⟨["Africa/Ndjamena"],
    [3612, 3600, 7200],
    ["zzzzz0zzzzz0gn7lG1zzzzz1zzzzz1KlPLC20que01"],
    .steady 3600⟩,
   ⟨["Africa/Niamey"],
    [508, -3600, 0, 3600],
    ["zzzzz0zzzzz0gn8ZK1lJZbo2tCE2i3"],
    .steady 3600⟩,
   ⟨["Africa/Nouakchott"],
    [-3828, 0, -3600],
    ["zzzzz0zzzzz0gn9hG1lJXXo2v8c8u1"],
    .steady 0⟩,
   ⟨["Africa/Ouagadougou"],
    [-364, 0],
    ["zzzzz0zzzzz0gn8nO1"],
    .steady 0⟩,
   ⟨["Africa/Porto-Novo"],
    [628, 0, 3600],
    ["zzzzz0zzzzz0gn8XO1lJYhg2"],
    .steady 3600⟩,
   ⟨["Africa/Sao_Tome"],
    [1616, -2205, 0, 3600],
    ["zzzzz0izwhd1xnBzs2zzzzz2zzzzz2zzzzz2eNux1328JxA2"],
    .steady 0⟩,
   ⟨["Africa/Tripoli", "Libya"],
    [3164, 3600, 7200],
    ["zzzzz0zzzzz0xsQSs1zzzzz15saSL20Saq813mbA020UPDs13iwWO20XhNw16PLH62n7Yrw10WdpQ214KHI113zfs2",
     "14KHI114M9Q214KHI115o3c212VtY11556W213xnk113Gim214KHI114M9Q214KHI113zfs214KHI11FxOy2Dgeki1",
     "15Ra42XK30K10oOFE2"],
    .steady 7200⟩,
   ⟨["Africa/Tunis"],
    [2444, 561, 3600, 7200],
    ["zzzzz0dMT3d1zzzzz11hMQW2y0ZU131GfQ020ZtBI33RAES20tqKW31OJIe20rI3c306s7M202ukS30wiGm213zfs3",
     "166mu211qgi30yUmO2zzzzz25Wp2P30rI3c21HON630tSuu2Ke4pM30g3Hc213yjo313yjo21HON630t6RM2V9AmG3",
     "0t7NQ212BI831GfQ020rI3c31GfQ020tpOS31E85A2"],
    .steady 3600⟩,
   ⟨["Africa/Windhoek"],
    [4104, 5400, 7200, 10800, 3600],
    ["zzzzz0zzzzz00J0kk1Nbs7U2zzzzz2MTn8D313xnk2zzzzz2kv6vJ40yaOm21E79640tqKW21GeTw40rIzg21GeTw4",
     "0tqKW21E79640tqKW21E79640tqKW21E79640tqKW21E79640tqKW21GeTw40rIzg21GeTw40tqKW21E79640tqKW2",
     "1E79640tqKW21E79640tqKW21E79640tqKW21GeTw40tqKW21E79640tqKW21E79640tqKW21E79640tqKW21E7964",
     "0tqKW21GeTw40rIzg21GeTw40tqKW21E79640tqKW21E79640tqKW21E79640tqKW2"],
    .steady 7200⟩]

end ChatFlow.Calendar
