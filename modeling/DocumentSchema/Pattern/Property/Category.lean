import DocumentSchema.Pattern.Property.Row

/-!
# General categories

The characters of each general category that is not a union of others.
Unassigned characters are those of none of them.
-/
namespace DocumentSchema

namespace Property

def categoryRows : List PropertyRow :=
  [(["cc", "control", "cntrl"],
    ["0v,2A1"]),
    (["cf", "format"],
    ["N50SK15m0A60R10Ac1Q20LZ30y,14q4R1419PUX10Z72BG40f0Cx8fADC13PG57GULo0u,2"]),
    (["co", "privateuse"],
    ["AAY1,H6AYBsz,,12z,,1"]),
    (["ll", "lowercaseletter"],
    ["B3pw10J1n171010101010101010101010101010101010101010101010101010101110101010101010111010101",
     "010101010101010101010101010101010101010201012201020314020322020101020111020301021226020201",
     "010101010101011101010101010101011201030101010101010101010101010101010101010101010101010101",
     "0101016202110401010101E21qB60103032i0rC11132101010101010101010101014102021T1P1101010101010",
     "101010101010101010101090101010101010101010101010101010101010101010101010101020101010101011",
     "101010101010101010101010101010101010101010101010101010101010101010101010101010101010101010",
     "101010Q1I1Hw2K122Yn5CE28X3L1,1c1B1G3010101010101010101010101010101010101010101010101010101",
     "010101010101010101010101010101010101010101010101010101010101010101010101010101010101010101",
     "010181010101010101010101010101010101010101010101010101010101010101010101010101010101010101",
     "010101010101885a78785a7878d2787878411603211832187a211S803130r04040218340V10LV2P11031101010",
     "401115501010101010101010101010101010101010101010101010101010101010101010101010101010101010",
     "1010101010101011701040cF11050TIu010101010101010101010101010101010101010101010j010101010101",
     "010101010101010H40101010101012101010101010101010101010101010101010101010101010101010101010",
     "101710102010101010401020121010101010101010101050501010101010101040106010101010s030VpK1587P",
     "2Awj6c4JB1pNG1H1I4D1x4a1e1611DY1S1N.2vAMlvwMppq61hqpq310161aqpqpqpqpqpqpqpqpqrso15qo15qo15",
     "qo15qo1510UZ191j65XP2B1"]),
    (["lm", "modifierletter"],
    ["Qlh4be47010F4050.e0G70E51N8140v09030A50H50UG10,30Vh0wW10L30Dj0Qe5O5.1d0C1E1Rl0d0gc,.21R70,",
     "50Ve0L1450B31z22WYr0CH15O80S30s1Z38Q20n0J3231Ve0m0J40M30l1H3390GAl0N11A,151J118Fyo3PC1cA21",
     "10MAg31611RBcz1J66Nt0,C10"]),
    (["lo", "otherletter"],
    ["K50f0A8043Q60xpq43N1v19D111C310o1a220g01ttY2b0oA1llK1o7a5n15hI1x1V130i079ge47212l16103330g",
     "0d112e1a085412l16111111v310j2g8121l16111430i0f1n0b7212l16111430u112f0h015321331101131323bm",
     "0U17121m1f30q22021u047121m191430v111f1h8121I120g05282o55h3n181026w1P111c5x1110141n10191190",
     "24n3A10,171D1r4T3K1k0g5433031724cc0R3Ia132610132I1132A1132610132e1Y1132C2F1fR3Lj2g1p5K2677",
     "hdiehec12fT1I10D2C11U1742B1105F2auR1t24bL14pW1m9U1Q5O1h7W1td1aL1qD1J12atR33151130wB13X,2X1",
     "om9616161616161616Hh0V104V2801Z2405K11z2hvQ1fAg,N6A2UQk1WD1D2H18L84fa1C20R1F2J50H303612131",
     "mtT1eR1.153011bramps7O1N1428a41I1n217kf15303R11031242010o13a70e525259616R4C1tDzacm4Q1EI8Nb",
     "2J3D20191c141011111L3B1Kbi,12V1I1bU341G4J391M12u35252522D1b1p1i111e2dC1w3Fcs3Q1P1vdj176F1a",
     "t2D147A4N2C3H18T1y4W99la7Y45201L111302mam9uB2i11alapG2X161A20f3121sK1s3sD171rrV1alaidhO3I2",
     "X5D1yaJ161O2sa08lK1hO1krmcU1Z1120dM1A1oqD1t0208C130cP1e3l010D1h1oj1,1610131e197O1G17212l16",
     "111430i0c4.4U1i3k2uP1k110Y5O1J13E1P1k0x1K1d0H2qF16Z5L1T672027111nf010.272G1g010s0aH170l0bN",
     "1j0iI2H881E1h0R1tQ36111F1l0p5111ve0Haif01c1B1y30P2ZsG7D6MS2A3fPB1h5Zz3GiZN8Yh7uhO2htiP1T1k",
     "5iQrK250P5X,58VG1K18XX8C9f0t220e38LcEI2K35c3879QT80VfM1B10BatiL1EfqVn613111e1E6xJ131q11102",
     "01913101060401010121110201010101011102316131310191g52141gEK4,WJ1A1ZB46z62BU5eQJ7,A3zgCP1Kw",
     "45,C4"]),
    (["lt", "titlecaseletter"],
    ["Fe02020G10VM778787c0f0P10"]),
    (["lu", "uppercaseletter"],
    ["B2pF3m16B101010101010101010101010101010101010101010101010101010102010101010101010201010101",
     "010101010101010101010101010101010101011101031101112231112311110101110201112101130702020201",
     "010101010101020101010101010101020201210101010101010101010101010101010101010101010101010101",
     "010107111201310101010B90103080601210111g18D10223010101010101010101010105020112S1Q101010101",
     "010101010101010101010101090101010101010101010101010101010101010101010101010101011101010101",
     "010201010101010101010101010101010101010101010101010101010101010101010101010101010101010101",
     "0101010102F1Jw2F11050SmV2wE2K122Aa01010101010101010101010101010101010101010101010101010101",
     "010101010101010101010101010101010101010101010101010101010101010101010101010101010101010101",
     "010901010101010101010101010101010101010101010101010101010101010101010101010101010101010101",
     "010101010109785a78785b010101087I23c3c3c4b3G8040322220346010101323a150z10yT2P1Q101220101013",
     "102082101010101010101010101010101010101010101010101010101010101010101010101010101010101010",
     "10101010101010801040NKu010101010101010101010101010101010101010101010j010101010101010101010",
     "101010H4010101010101030101010101010101010101010101010101010101010101010101010101010a010111",
     "010101040102010301010101010101010101414101010101010101310605010s0LZlpFG1H1I4D1y4a1e1611KX1",
     "S1N,2vAMlvANppqpqpq01120212317qpq1132716r113141036rpqpqpqpqpqpuoB1oB1oB1oB1oB10VJ4B1"]),
    (["mc", "spacingmark"],
    ["DI20X10228311S11w126121a0L10w12C20w128011V11w10106121a0G31113212a0J12z13z11w1014211191s0e1",
     "w125212a0K11L2267i1Ka1,10L51406021p1a226l12520a2YT10u0B407711wa3224115A71w1010901185R40Q10",
     "501411z10u04120y10221031Q1781L50l0WZ41T,t120Y21S1fO41P10Q114122O3121o0N1010N302150N7111111",
     "0TAp010,30N1241T30o1x10Q1291d0z223110K52v1w1113212290a1R628130K32601320N726320R328110N3011",
     "60J3140F8290X7511402010O428340U20t1.10Xc0e0K307020V644110.a1c0Q118110PAkW1I31TLo165"]),
    (["me", "enclosingmark"],
    ["IE11UR50.Q1312LMB12"]),
    (["mn", "nonspacingmark"],
    ["AoP3T84J8M110111110I2aQ1kg0F36252113D10uqx2aw1890o3181214L12y17K1n1vX1010474036a1t0w104380",
     "k1q021Z1041412230u130b1Z10441140k1m510w1020138071b1u0z10c0S1030X1012521371b1t0w10206051k1s",
     "1Z114380k1t0I207210w2026c7C3028b6J21r01010X1d14115a1D190G33151121p142g3d02160f0,l2St2t1u1u",
     "1A2116802a90N1210V31C10W32419062x6120w10161010276920Q1d1fR13Q10141050I18c1A132112Y10113012",
     "w1721Y421c16406031G6,1Qmc403b.,22N40A3vKh3L31UOt049A11Q21Q803040p150X41qhd0G17paO12Q102321",
     "H10D252121c080P10T1012215110K1180O702040QZj0BnfgfNu0C70V44GU121153I1240F51zh3Dc1Q22G2aR13x",
     "30W1eJ1021a2R132170z12E1417.10c1U18a320,2220116020z4037l1Z1130F1634D672210n0U25104111O7361",
     "11r1V272011K30102510F322314D8811A811040Q432140A19I1523809522O1c11Wc61510S2l261111w35301116",
     "10I213010xa1b1U145010zH506ewUd4x16YA10,13R20YFj1BT4N12mAh2h726u3U42xz1W14R180e0m41eQK161g2",
     "61114E30A56Xb0z13yf3Av6N36VzFoP7"]),
    (["nd", "decimalnumber", "digit"],
    ["Q19GR19G49G69yc9W39W39W39W39W39W39W39W39W39A39W39G29W89G29Gw19G19M99A49G5969W59W29G4969GOC",
     "19Gl9G19G69m9W29Wc9WYk9GM19GE29Mp9A49y19Q49W89Wa9W39Wb9G39G39Gd9G39Wn9W79G29Gd9GYi9W29G49U",
     "DrR1AK29Gd9Wf9WC19WU49"]),
    (["nl", "letternumber"],
    ["OX52PT2C123.T30p8e2LVt9QSmU1Me080G44KB8O3"]),
    (["no", "othernumber"],
    ["S515022VJ25Yb5Y32F46Z66h8Rd9VB1jTD19Af0VU103569G6fJ10Wmx1O2lWjtJL10UE13K49u71eA19H1eQLt5RG",
     "mM1B23h1VaqE13UJ17p6H18L24m5A512f2N1A28U11u2L24I37o7J16Ka5Abu.49K13Q36G4jxbjFK11Od8HriTqkG",
     "yi6.omJBpjcjM3oOK58Btw11213M2M11eCuc"]),
    (["pc", "connectorpunctuation"],
    [",20,.71j0.OX11o2P70"]),
    (["pd", "dashpunctuation"],
    ["N10yK10T10BS30FA10JA25BQ3020v140s0.d0j0P30QMT11F10a0J50,y30"]),
    (["pe", "closepunctuation"],
    ["J10T10v0zV3010.w10JN20X10f0wj010u0.B10101010101010Q20A1010101010Uc010101010101010101010A20",
     "10B10FB10101010M10101010Md0101010103010101021.IT10Z60t01010101010101030h01010K50T10v02020"]),
    (["pf", "finalpunctuation"],
    ["x50zw7030s0IO30104020f030"]),
    (["pi", "initialpunctuation"],
    ["L50Mx702120p0IO30104020f030"]),
    (["po", "otherpunctuation"],
    ["B1212201011a131r0E2050e170.l080Se5J10W102020M11k111d012K23G30L1dJ72W1ev0F81a0M40Y30Z30Gc0c",
     "0Pb0w20a1I5e10Q30K2441P35L50Ej8Fo0y32H21z4212F1513Z91Y61A4615M56s1z33x14.11A27b0Cq18788232",
     "23a1019wE3311Q30P41422028111021a41923101c22Md2Z10z50CAt1N82D30a0T35yb3W21I1210R11P10B3cg1y",
     "33.31g1Z70ERk620m0k1233213726011V4212201011a131r0E1021wc2yk0Q10.c0Hn0H60v0Q88G10Q36C26Z23Y",
     "t4M13z56N3113.33Q11P2340d012Y25L30Bd4a110I30w7mJ32scM20C42y70I82x40y27T2214z29X94K11Fk1K2c",
     "P50QD14yx21xTe1F40B2480Sq3Ha0yFj0HP74SW31"]),
    (["ps", "openpunctuation"],
    ["I10S10v0.V3010.w10.L2030G10X10f0wj010u0.B10101010101010Q20A1010101010Uc0101010101010101010",
     "10A2010B10FB10101010p0i0101010Md0101010103010101020BJT10X60t01010101010101030h01010K50S10v",
     "03020"]),
    (["sc", "currencysymbol"],
    ["E10z33JH10x30Sf1Sf170V70H80Fi0xM20EG2A1XxB10DOl0M30w40x6131W,73.YQ10QN20"]),
    (["sk", "modifiersymbol"],
    [".2010H20604030Jg3cd56101gV30e1CI10UZ5012b2d2d2d1yE41DTtm91H31Qu0e1GCkgxr010C50XAz14"]),
    (["sm", "mathsymbol"],
    ["L10g2z1010N1040F10v0.n0Pg2xR60d0H12d2L40H1460E245140202070v12010vL8A11w20uoI15Ve090W17P30Q",
     "a42uafA8C4m.14v2B8Q1k25y.T10Yp012E50g2z1010D4063UWV10p0v0p0v0p0v0p0v0p0MZ51"]),
    (["so", "othersymbol"],
    ["G50204010Ru0K81,31O60a0j1X70Dg0Vb0C4510E40P60J10Hc2f01225k01010F47151153F61Qn9Tm0Sm0z4B1Bb",
     "998DM111311a0116510101040b1e01110w1194231111161u21101uM874j262Q21tpH16E2paR2N2mW5181V18O31",
     "X7M1L1A2,7AgP1l16G12v1I3F75Fb1O1p1Y2cV6qb80d1c0l161Qa149A1D1subt80fvaG1f,9AO6,1QUlW1Br3a11",
     "0zh2GWkf,30N12Ef03041d1Z98Z1g221c30P1M1wT11Pi0WD30VE274gKwi350WKk0TV4T3y1V7aG12x152m17t4y1",
     "lB230w5W2JF1,fX13S171d11IW10yw20B40RmL14D3ce2e1e1E1nA5Y1sdL14871e5w4w75Xm4g3c3W34.26b40fb4",
     "X1896H18t21O2Tacd2c387N1168d48787S41W1"]),
    (["zl", "lineseparator"],
    ["IB80"]),
    (["zp", "paragraphseparator"],
    ["JB80"]),
    (["zs", "spaceseparator"],
    ["A10,30,O50,L2aE10P10Az30"])]

end Property

end DocumentSchema
