import DocumentSchema.Pattern.Property.Row

/-!
# Text boundaries

The values that characters have when clusters, sentences and words are told
apart.
-/
namespace DocumentSchema

namespace Property

def graphemeBreakRows : List PropertyRow :=
  [(["cn", "control"],
    ["09111h,2A1d0OL10RP40y,1021o6R1fPUX10Q7bUBdfADC13PG57FULovA3,3Q7PQ3"]),
    (["cr"],
    ["d0"]),
    (["ex", "extend"],
    ["AoP3T86H8M110111110I2aQ1kg0F36252113D10uqx2aw1890o3181214L12y17K1n1vX1010474036a1t0w101023",
     "8090a1q021Z1041412230u130b1Z10441140k1m510w1011138072a1u0x1010c090I1030X1012521371b1t0w102",
     "020305171b1s1Z1110238090a1t0I2040221080R2026c7C3028b6J21r01010X1d14115a1D190G33151121p142g",
     "3d02160f0,l2St2t1u1u1A2116802a90N1210V31C10W32419062x6120w10161010276920Q1uR13Q161050I18c1",
     "A132112Y10113012w1721Y421c16406031G6,1Mg0D6A1.,22N40A3vKh5J31UOt319A11Q21Q803040p150X41qhd",
     "0G17paO12Q102321H10D252121c080P10T1012215110K1180O702040QZj0BnfgfOb1zi0C70V44GU121153I1240",
     "F51zh3Dc1Q22G2aR13x30W1eJ1021a2R132170z12E1417.10c1U18a320,2220116020z4037l1Z111010m0e634D",
     "672210n0R202510201111L70236111r1V272011K30102510F322314D8811V70a11040Q432140A19I1523809522",
     "O1c11Wc61510S2l261111w3530111610I213010xa1b1U145010zH506ewUd4x16YA10,13R20YFj1BT4N12m.g012",
     "448726u3U42xz1W14R180e0m41eQK161g261114E30A56Xb0z13yf3Av6N36QV24ABDo,2A4P7"]),
    (["l"],
    ["AI4,2AAG1s"]),
    (["lf"],
    ["a0"]),
    (["lv"],
    ["AAL10r0r0r0r0r0r0r0r0r0r0r0r0r0r0r0r0r0r0r0r0r0r0r0r0r0r0r0r0r0r0r0r0r0r0r0r0r0r0r0r0r0r0r",
     "0r0r0r0r0r0r0r0r0r0r0r0r0r0r0r0r0r0r0r0r0r0r0r0r0r0r0r0r0r0r0r0r0r0r0r0r0r0r0r0r0r0r0r0r0r",
     "0r0r0r0r0r0r0r0r0r0r0r0r0r0r0r0r0r0r0r0r0r0r0r0r0r0r0r0r0r0r0r0r0r0r0r0r0r0r0r0r0r0r0r0r0r",
     "0r0r0r0r0r0r0r0r0r0r0r0r0r0r0r0r0r0r0r0r0r0r0r0r0r0r0r0r0r0r0r0r0r0r0r0r0r0r0r0r0r0r0r0r0r",
     "0r0r0r0r0r0r0r0r0r0r0r0r0r0r0r0r0r0r0r0r0r0r0r0r0r0r0r0r0r0r0r0r0r0r0r0r0r0r0r0r0r0r0r0r0r",
     "0r0r0r0r0r0r0r0r0r0r0r0r0r0r0r0r0r0r0r0r0r0r0r0r0r0r0r0r0r0r0r0r0r0r0r0r0r0r0r0r0r0r0r0r0r",
     "0r0r0r0r0r0r0r0r0r0r0r0r0r0r0r0r0r0r0r0r0r0r0r0r0r0r0r0r0r0r0r0r0r0r0r0r0r0r0r0r0r0r0r0r0r",
     "0r0r0r0r0r0r0r0r0r0r0r0r0r0r0r0r0r0r0r0r0r0r0r0r0r0r0r0r0r0r0r0r0r0r0r0r0r0r0r0r0r0r0r0r0r",
     "0r0r0r0r0r0r0r0r0r0r0r0r0r0r0r0r0r0r0r0r0r0r0r0r0r0r0r0r0r0r0r0r0r0r0r0r0r0r0r0r0"]),
    (["lvt"],
    ["BAL1q1q1q1q1q1q1q1q1q1q1q1q1q1q1q1q1q1q1q1q1q1q1q1q1q1q1q1q1q1q1q1q1q1q1q1q1q1q1q1q1q1q1q1",
     "q1q1q1q1q1q1q1q1q1q1q1q1q1q1q1q1q1q1q1q1q1q1q1q1q1q1q1q1q1q1q1q1q1q1q1q1q1q1q1q1q1q1q1q1q1",
     "q1q1q1q1q1q1q1q1q1q1q1q1q1q1q1q1q1q1q1q1q1q1q1q1q1q1q1q1q1q1q1q1q1q1q1q1q1q1q1q1q1q1q1q1q1",
     "q1q1q1q1q1q1q1q1q1q1q1q1q1q1q1q1q1q1q1q1q1q1q1q1q1q1q1q1q1q1q1q1q1q1q1q1q1q1q1q1q1q1q1q1q1",
     "q1q1q1q1q1q1q1q1q1q1q1q1q1q1q1q1q1q1q1q1q1q1q1q1q1q1q1q1q1q1q1q1q1q1q1q1q1q1q1q1q1q1q1q1q1",
     "q1q1q1q1q1q1q1q1q1q1q1q1q1q1q1q1q1q1q1q1q1q1q1q1q1q1q1q1q1q1q1q1q1q1q1q1q1q1q1q1q1q1q1q1q1",
     "q1q1q1q1q1q1q1q1q1q1q1q1q1q1q1q1q1q1q1q1q1q1q1q1q1q1q1q1q1q1q1q1q1q1q1q1q1q1q1q1q1q1q1q1q1",
     "q1q1q1q1q1q1q1q1q1q1q1q1q1q1q1q1q1q1q1q1q1q1q1q1q1q1q1q1q1q1q1q1q1q1q1q1q1q1q1q1q1q1q1q1q1",
     "q1q1q1q1q1q1q1q1q1q1q1q1q1q1q1q1q1q1q1q1q1q1q1q1q1q1q1q1q1q1q1q1q1q1q1q1q1q1q1q1q"]),
    (["pp", "prepend"],
    ["AQ15X60R10Ac1Q20LD10OxA20f0U71xx1010Y70J25yl0xd0"]),
    (["ri", "regionalindicator"],
    ["GPy3p"]),
    (["sm", "spacingmark"],
    ["DI20X10228311S11x116121W10w12C20w128011V11y106121S30113212U12z13z11w1011112111H10e1x115212",
     "V11M2166j1,10,30K41,10R5091p1M10QU10u0B407711wa3224115A71w1010l5R40W101411z10u04120y102210",
     "31Q1781L50l0LZC1120Y21S1fO41P10Q114122O3121o0z402150N71111110TAp010,30N1241T30o1x10Q1291d0",
     "z223110K52v1x10132122k1R628130L3160111020O716320R328110N301160P30F8290Y7411402010O428340U2",
     "0t1.10Xc0e0K307020V644110.a1c0Q118110PAkW1I31ULo060"]),
    (["t"],
    ["IN4X2LOR1Q1"]),
    (["v"],
    ["AL4H2IQR1m"]),
    (["zwj"],
    ["NA80"])]

def sentenceBreakRows : List PropertyRow :=
  [(["at", "aterm"],
    ["O10V,70NRX10x50"]),
    (["cl", "close"],
    ["C1042R1010t010N10f0.T33zw11xL27p1a1W11e1Zj3t1QB157dP21v9Tcl,13A11CA1de129o0i7Ld92712.IT11X",
     "61sf21g5J51R1010t0101111SYz12"]),
    (["cr"],
    ["d0"]),
    (["ex", "extend"],
    ["AoP3T86H8M110111110I2aQ1kg0F36252113D10uqx2aw1890o3181214L12y17K1n1A1W121h16a1t2Y101621229",
     "0a1q022Y1014412230u130b2Y10171212k1m512Y1016212272a1u0x14321390I14X1016121371b1t2Y10161213",
     "71b1f0c3X1116121390a1t2G20451017i1z1026c7C3028b6J21r0101041R1j115a1D190E3jn342122633db10a3",
     ",l2St3s2t1u1A2v90N1210V31C10W3b4bx64Z191s20Q1uR14P1gG18c2ucY1dQ1jY421k406022G6,1Mg1C6A1.,2",
     "2N40A3vKh5J31UOt319A11Q21Q803040n440T21S1hqhd0G17pcM13P1dE10D2dc081N12S1012215110J1451M771",
     "1QZj0BnfgfOb1zi0C70V44GU121153I1240F51zh3Dc1Q22G2aR13w32V1eJ1021a3N1a70z12E1dg1M10c2Q1d831",
     "1y2b6020z4bl3X1116212290a12634A6hn0R2jL7628r1S2gK3cF3eA8eV7511231011N462630s9I1613809aO1fV",
     "c717S2l1dw3530111610C241114xa39110Q1634zH506ewUd4x16YA101W173R20b1LFj1BT4N12m.g4358726u3U4",
     "2xz1W14R180e0m41eQK161g261114E30A56Xb0z13yf3Av6N36VWFo,2A4P7"]),
    (["fo", "format"],
    ["N50SK15m0A60R10Ac1Q20LZ30y,1021q4R1419PUX10Z72BG40f0Cx8fADC13PG57GULo0"]),
    (["le", "oletter"],
    ["xd043Q60E166bq010F40Ef0W3q44M1K1D111C310f171a220g01ttY2b0oA191405l409030no7a5n15hJ1w1V130i",
     "079ff47212l16103330g0d112e1a085412l16111111v310j2g8121l16111430i0f1n0b7212l16111430u112f0h",
     "015321331101131323bm0U17121m1f30q22021u047121m191430v111f1h8121I120g05282o55h3n181026w1P11",
     "1c6w1110141n101911902410l3A10,171D1r4T3K1k0g5433031724cc0B2K12La132610132I1132A1132610132e",
     "1Y1132C2F1fR3Lj2g1p5K23a7hdiehec12fT1D1040D2Y2742B1105F2auR1t24bL14pW1m9U1S20z2O1h7W1td1aL",
     "1qD1J12aD1iK122J13151130wB13H2223Hz2X170gm9616161616161616Q20Ve2p874244V2621Z2135K11z2hvQ1",
     "fAg,N6A2MUlD2N12M83fa1C20g0A1P2H18I3060H303612131mtT1eR1.153011bramps7O1s0g419a41I1n217km3",
     "03R11031242010o22a72c525259616R4C1tDzacm4Q1EI8Nb2J3D20191c141011111L3B1Kbi,12V1I1bU341G4J3",
     "X12u35252522D1b1p1i111e2dC1w3F2U1L8s3Q1P1vdt5F1at2D14714w3N2C3H18T1y4W99la7p1z35201L111302",
     "mam9uB2i11alapG2X161A20f3121sK1s3sD171rrV1alaidhO3I2X5D1yaJ161O2sa08lK1hO1krmcU1Z1120dM1A1",
     "oqD1t0208C130cP1e3l010D1h1oj1,1610131e197O1G17212l16111430i0c4.4U1i3k2uP1k110Y5O1J13E1P1k0",
     "x1K1d0H2qF16Z5L1T672027111nf010.272G1g010s0aH170l0bN1j0iI2H881E1h0R1tQ36111F1l0p5111ve0Hai",
     "f01c1B1y30P2ZsG3O3hD6MS2A3fPB1h5Zz3GiZN8Yh7uhO2htiP1g3vk5iQrK250C2cA2110sX,58VG1K18HX83161",
     "11C9f0t220e38LcEI2K35c3879QT80VfM1a6g0BatiL1EfrUn613111e1E6G40UF131q1110201913101060401010",
     "121110201010101011102316131310191g52141gEK4,WJ1A1ZB46z62BU5eQJ7,A3zgCP1Kw45,C4"]),
    (["lf"],
    ["a0"]),
    (["lo", "lower"],
    ["B3pP10a040E1n17101010101010101010101010101010101010101010101010101010111010101010101011101",
     "010101010101010101010101010101010101010101020101220102031402032202010102011102030102122602",
     "020101010101010101110101010101010101120103010101010101010101010101010101010101010101010101",
     "01010101016202110401010101E21D171u4M40103023i0rC11132101010101010101010101014102021T1P1101",
     "010101010101010101010101010101090101010101010101010101010101010101010101010101010101020101",
     "010101011101010101010101010101010101010101010101010101010101010101010101010101010101010101",
     "010101010101010Q1I1Tx20xn5CE28X3,5B2010101010101010101010101010101010101010101010101010101",
     "010101010101010101010101010101010101010101010101010101010101010101010101010101010101010101",
     "010181010101010101010101010101010101010101010101010101010101010101010101010101010101010101",
     "010101010101885a78785a7878d2787878411603211832187a211Z30d0gcN303130r04040218340B1f40LqpGw1",
     "P11031101010401117301010101010101010101010101010101010101010101010101010101010101010101010",
     "1010101010101010101010101011701040cF11050TIu010101010101010101010101010101010101010101010j",
     "010101010101010101010101012F40101010101012101010101010101010101010101010101010101010101010",
     "1010101010101910102010101010401020121010101010101010101050501010101010101040106010101010o2",
     "1012VpK11d6P2Awj6c4JB1pNG1H1I4D1x4a1e1611De0221J118FI1S1N.2vAMlvwMppq61hqpq310161aqpqpqpqp",
     "qpqpqpqpqrso15qo15qo15qo15qo1510UZ191j65F8z1UF2B1"]),
    (["nu", "numeric"],
    ["Q19GR1911D49G69yc9W39W39W39W39W39W39W39W39W39A39W39G29W89G29Gw19G19M99A49G5969W59W29G4969G",
     "OC19Gl9G19G69m9W29Wc9WYk9GM19GE29Mp9A49y19Q49W89Wa9W39Wb9G39G39Gd9G39Wn9W79G29Gd9GYi9W29G4",
     "9UDrR1AK29Gd9Wf9WC19WU49"]),
    (["sc", "scontinue"],
    ["M11c0CJ10O51Kf0JA4050KA21M,30OQT1110t1t13020a0I51c0J20"]),
    (["se", "sep"],
    ["F40Cz71"]),
    (["sp"],
    ["9011j0,30,O50,L2aE10P10Az30"]),
    (["st", "sterm"],
    ["B10t0JK10T42U50L12W70z101031F91EX11Wo041Fo0G61M6050w91Cb3O5121t1y51B21yt192EP30d0m1Nd0yHt0",
     "O81D7030.b1W21,20Y41T42Q41Z70KTk1J50t0B20UX21zH14M13z51V33,32B4160g1Y2111M30Bd1Vb15eJ31Z72",
     "Fg010x71X21Ed1Ul1K21JZi1F40B21b0Tq0GQj0IP70"]),
    (["up", "upper"],
    ["B2pF3m16B101010101010101010101010101010101010101010101010101010102010101010101010201010101",
     "010101010101010101010101010101010101011101031101112231112311110101110201112101130711111101",
     "010101010101020101010101010101021101210101010101010101010101010101010101010101010101010101",
     "010107111201310101010B90103080601210111g18D10223010101010101010101010105020112S1Q101010101",
     "010101010101010101010101090101010101010101010101010101010101010101010101010101011101010101",
     "010201010101010101010101010101010101010101010101010101010101010101010101010101010101010101",
     "0101010102F1Jw2F11050SmV2KQ201010101010101010101010101010101010101010101010101010101010101",
     "010101010101010101010101010101010101010101010101010101010101010101010101010101010101010901",
     "010101010101010101010101010101010101010101010101010101010101010101010101010101010101010101",
     "010109785a78785b010101087o7878784b4b3c4b4F8040322220346010101323a150qfj0SppQZ1P1Q101220101",
     "013102082101010101010101010101010101010101010101010101010101010101010101010101010101010101",
     "01010101010101010801040NKu010101010101010101010101010101010101010101010j010101010101010101",
     "010101010H4010101010101030101010101010101010101010101010101010101010101010101010101010a010",
     "111010101040102010301010101010101010101414101010101010101310605010s0LZlpFG1H1I4D1y4a1e1611",
     "KX1S1N,2vAMlvANppqpqpq01120212317qpq1132716r113141036rpqpqpqpqpqpuoB1oB1oB1oB1oB10VJ4B1OA2",
     "p6p6p"])]

def wordBreakRows : List PropertyRow :=
  [(["cr"],
    ["d0"]),
    (["dq", "doublequote"],
    ["C10"]),
    (["ex", "extendnumlet"],
    [",20P.70f1j0.OX11o2P70"]),
    (["extend"],
    ["AoP3T86H8M110111110I2aQ1kg0F36252113D10uqx2aw1890o3181214L12y17K1n1A1W121h16a1t2Y101621229",
     "0a1q022Y1014412230u130b2Y10171212k1m512Y1016212272a1u0x14321390I14X1016121371b1t2Y10161213",
     "71b1f0c3X1116121390a1t2G20451017i1z1026c7C3028b6J21r0101041R1j115a1D190E3jn342122633db10a3",
     ",l2St3s2t1u1A2v90N1210V31C10W3b4bx64Z191s20Q1uR14P1gG18c2ucY1dQ1jY421k406022G6,1Mg0D6A1.,2",
     "2N40A3vKh5J31UOt319A11Q21Q803040n440T21S1hqhd0G17pcM13P1dE10D2dc081N12S1012215110J1451M771",
     "1QZj0BnfgfOb1zi0C70V44GU121153I1240F51zh3Dc1Q22G2aR13w32V1eJ1021a3N1a70z12E1dg1M10c2Q1d831",
     "1y2b6020z4bl3X1116212290a12634A6hn0R2jL7628r1S2gK3cF3eA8eV7511231011N462630s9I1613809aO1fV",
     "c717S2l1dw3530111610C241114xa39110Q1634zH506ewUd4x16YA101W173R20b1LFj1BT4N12m.g4358726u3U4",
     "2xz1W14R180e0m41eQK161g261114E30A56Xb0z13yf3Av6N36QV24ABDo,2A4P7"]),
    (["fo", "format"],
    ["N50SK15m0A60R10Ac1Q20LZ30,,11q4R1419PUX10Z72BG40f0Cx8fADC13PG57GULo0"]),
    (["hl", "hebrewletter"],
    ["QO1q43KJz10191c1410111119"]),
    (["ka", "katakana"],
    ["RBc4F313w213Q7fQ6O11X2OAT1X1SCM13161110,82S10e3"]),
    (["le", "aletter"],
    ["B2p6pP10a0405m1u1,e6B1Q341123106012101j1S21K48F51F123101I110I30M1K1D111C310f171a220g01ttY2",
     "b0oA191405l409030no7a5n15hJ1w1V130i079ff47212l16103330g0d112e1a085412l16111111v310j2g8121l",
     "16111430i0f1n0b7212l16111430u112f0h015321331101131323bm0U17121m1f30q22021u047121m191430v11",
     "1f1h8121I120g05282o55h3n181026Z90,171D1r4T8F110502K11Ma132610132I1132A1132610132e1Y1132C2F",
     "1fgV2253Lj2g1p5K23a7hdiehec12P5Y2742B1105F2auB7mO7O1h7W1td1aL1qD1J12aD1287K122J131511305,5",
     "A2V8252F125271010101u2U11610321633254c5216U30d0gcF3040291034601010131a235440hI1NpT1WY1E763",
     "31cF110502X170gm9616161616161616Q20Ve0V11I6K11z2hvASrME1D2N12M83fa1kO1gu2P2oC6511014of1213",
     "1mtT1eR1.153011bramps7O1s0Q1I1n217U4a72c5252596161Z16S3tDzacm4Q1EY86c4Y1B3B1Kbi,12V1I1bU34",
     "1G4E1p6pF2u35252522D1b1p1i111e2dC1w3F2U1L8s3Q1P1vdt5F1at2D14714K1z4iD14D14H18T1ca1e16111a1",
     "e1611D2W99la7o51J118F25201L111302mam9uB2i11alapG2X161A20f3121sK1s3sD171rrV1alaidhO3I2X1S1d",
     "S1dD1yaJ161O2sa08lK1hO1krmcU1Z1120dM1A1oqD1t0208C130cP1e3l010D1h1oj1,1610131e197O1G17212l1",
     "6111430i0c4.4U1i3k2uP1k110Y5O1J13E1P1k0x1K1d0HaL1U3,1v72027111nf010.272G1g010s0aH170l0bN1j",
     "0iI2H881E1h0R1tQ36111F1l0p5111ve0Haif01c1B1y30P2ZsG3O3hD6MS2A3fPB1h5Zz3GiZN8Yh7uhO2htiP1g3",
     "vk5iQl,1A4K250C2cA2110yAjK35c3879Gx5U21G2112021231b10161A21327161r131410361Ta2o1o1u1o1u1o1",
     "u1o1u1o17UZ1u65F8z1S4M1a6g0BatiL1EfrUn613111e1E6x1D270UF131q111020191310106040101012111020",
     "1010101011102316131310191g52141gUjp6p6p"]),
    (["lf"],
    ["a0"]),
    (["mb", "midnumlet"],
    ["O10J,71a0NRX10U5060"]),
    (["ml", "midletter"],
    ["w10y30Pm0Xe0U40SR60LPX10B20E60"]),
    (["mn", "midnum"],
    ["M10e0Cq0Kg0C41.20Lc0LC60LOX1030x1030X50e0"]),
    (["nl", "newline"],
    ["b1Y30Cz71"]),
    (["nu", "numeric"],
    ["Q19GR1910E49G69yc9W39W39W39W39W39W39W39W39W39A39W39G29W89G29Gw19G19M99A49G5969W59W29G4969G",
     "OC19Gl9G19G69m9W29Wc9WYk9GM19GE29Mp9A49y19Q49W89Wa9W39Wb9G39G39Gd9G39Wn9W79G29Gd9GYi9W29G4",
     "9UDrR1AK29Gd9Wf9WC19WU49"]),
    (["ri", "regionalindicator"],
    ["GPy3p"]),
    (["sq", "singlequote"],
    ["H10"]),
    (["wsegspace"],
    ["A10,S50,L2612U20Az30"]),
    (["zwj"],
    ["NA80"])]

end Property

end DocumentSchema
