import DocumentSchema.Pattern.Property.Row

/-!
# Script extensions

The characters used with each script, for the scripts where they differ from
the characters of the script.
-/
namespace DocumentSchema

namespace Property

def scriptExtensionRows : List PropertyRow :=
  [(["adlm", "adlam"],
    [",Q10A10,VY3L24941"]),
    (["arab", "arabic"],
    ["AQ141W61B1Q2P1Q7u116J21sQSy1S3gyd2V170A1fQ341G4DvrEx2u.32AYX131q11102019131010604010101211",
     "10201010101011102316131310191g52141gU11"]),
    (["beng", "bengali"],
    ["RK21h1q317212l1610332821238041142oRW401021108080204022Z,C10"]),
    (["bopo", "bopomofo"],
    ["Kn1VIb2491ca32060D609K1Q3vFET11w84"]),
    (["bugi", "buginese"],
    ["AQ6r21PzD10"]),
    (["buhd", "buhid"],
    ["VZ519j"]),
    (["cakm", "chakma"],
    ["GP29QS19WFA2U11h"]),
    (["copt", "coptic", "qaac"],
    ["CvdQEaT356APV1r"]),
    (["cpmn", "cyprominoan"],
    ["AIA21OUbC3"]),
    (["cprt", "cypriot"],
    ["AIA224M138AW15201L1113020"]),
    (["cyrl", "cyrillic"],
    ["AA1P9Qw58C50M20,30H,3vD20y,t,2Oyl1AQY1z1B10"]),
    (["deva", "devanagari"],
    ["AI2S22K1Qw4G111Wv0,ZB19G5vAQs9"]),
    (["dogr", "dogra"],
    ["EL2bAWH19G.rx1"]),
    (["dupl", "duployan"],
    ["AAP3K35c387927"]),
    (["geor", "georgian"],
    ["AF4F110502P1Qy2K122AC4F11050"]),
    (["glag", "glagolitic"],
    ["EE1020Yx9,2Df0LBu0QMO261g261114"]),
    (["gong", "gunjalagondi"],
    ["EL21w,E25111E1111579"]),
    (["gonm", "masaramgondi"],
    ["EL21wyE26111L130111889"]),
    (["gran", "grantha"],
    ["RK21h1AkdyG4011u231Wv0PQy1317212l1611141921222060562634xC3110"]),
    (["grek", "greek"],
    ["Cq020K13122310401012101j1.1efGJ64S1444U22.9l252F125271010101u2U11e1d251i2218H90.RC10wOlO2h",
     "0,CU1F2"]),
    (["gujr", "gujarati"],
    ["RK21h1x8218121l16111429121220f32b76QJH19"]),
    (["guru", "gurmukhi"],
    ["RK21h1x4215412l16111111201441223073107gZNH19"]),
    (["hang", "hangul"],
    ["AI4,7BQ72491ce260D60V1z2R3uB2uBXtsDkDzacm4Q1JS91w84w1u35252522"]),
    (["hani", "han"],
    ["AUbp1Y2cV6L121c1c1c2068x50U4fA1D1y1H1Y1Q1fbT10Y2oa4A3u1,N6A2,PkAY17YPkNb2J3Lr1w84yDs1c1Oxo",
     "h.W71ON3,WJ1A1ZB46z62BU5eQJ7,A3zgCP1Kw45,C4"]),
    (["hano", "hanunoo"],
    ["AZ5m"]),
    (["hira", "hiragana"],
    ["BAc2491cg510413V227w21IKT11w84a0N11BDM1.8i0t2NFg0"]),
    (["java", "javanese"],
    ["AMK1N21a41"]),
    (["kali", "kayahli"],
    ["AIK1P1"]),
    (["kana", "katakana"],
    ["BAc2491cg51041x233,2Q7fQ6O11X2NXS11w8.1QCM13161110,82S10e3"]),
    (["khoj", "khojki"],
    ["GX29AKH19GOqh1O1"]),
    (["knda", "kannada"],
    ["RK21h1woc121m19142812137161132912y.301070n010xZC15"]),
    (["kthi", "kaithi"],
    ["GL29AWH19GCqC2a0"]),
    (["latn", "latin"],
    ["B2p6pP10f05m1u1AeH14.3cV81KG11Iz10EA3F16Q1535c1F2B2,7P90B20d0gcT20Z1160r0hI1XW2vAUu7qF33,1",
     "511014odO90BgK11813Wyj6wA1p6pFB251J118FwV1u65"]),
    (["limb", "limbu"],
    ["FL20wy3u1b4b403b"]),
    (["lina", "lineara"],
    ["HIA2M1MG1W99la7"]),
    (["linb", "linearb"],
    ["AAA2b1p1i111e2dC1w3524M138"]),
    (["mahj", "mahajani"],
    ["EL2bAWH19WIqG1"]),
    (["mand", "mandaic"],
    ["AS10,fr20"]),
    (["mani", "manichaean"],
    ["AS10,DB2G14b"]),
    (["mlym", "malayalam"],
    ["RK21h1wsc121S112154f2pww30VwC12"]),
    (["modi"],
    ["QBK19GOrE2b9"]),
    (["mong", "mongolian"],
    ["AA6p6Y27K1Ey10QRz1c"]),
    (["mult", "multani"],
    ["GT29QAC2610131e1a"]),
    (["mymr", "myanmar"],
    ["AA4,4OEG10R5uB3v"]),
    (["nand", "nandinagari"],
    ["EL21As9Z,308070VZC15KLs72N12a"]),
    (["nkoo", "nko"],
    ["MQ10e030Adw122.Jz11"]),
    (["orya", "oriya"],
    ["RK21h1xc217212l1611142821227241142hCL40n0"]),
    (["ougr", "olduyghur"],
    ["AS10RFB20zD1p"]),
    (["perm", "oldpermic"],
    ["DE10MW,1K1"]),
    (["phag", "phagspa"],
    ["CA6110wBE1X1"]),
    (["phlp", "psalterpahlavi"],
    ["AS10,JB2h73c6"]),
    (["rohg", "hanifirohingya"],
    ["MQ10e030A10T40LRB2H189"]),
    (["shrd", "sharada"],
    ["RK20Fy40102120,Ez1,2"]),
    (["sind", "khudawadi"],
    ["EL21KWH19WTqw159"]),
    (["sinh", "sinhala"],
    ["EL21xA121h3n181026304510176922M,A2j"]),
    (["sogd", "sogdian"],
    ["AS10PHC2J1"]),
    (["sylo", "sylotinagri"],
    ["EL21A49QQH1M1"]),
    (["syrc", "syriac"],
    ["MQ10e120A10aaq0P4d1x122Q8aNM5010"]),
    (["tagb", "tagbanwa"],
    ["VZ51J1c1211"]),
    (["takr", "takri"],
    ["EL21KWH19GSrZ169"]),
    (["tale", "taile"],
    ["AC49GI2t24"]),
    (["taml", "tamil"],
    ["RK21h1yg115321331101131323b4432132060ek,G40YAD10NQq010X11DE3R1d0"]),
    (["telu", "telugu"],
    ["RK21h1wkc121m1f281213711220232978wC40n0"]),
    (["tglg", "tagalog"],
    ["AY5l90l1"]),
    (["thaa", "thaana"],
    ["MQ10e120A29W8R1ASz10a0"]),
    (["tirh", "tirhuta"],
    ["RK21h1My40zZC19GCrH289"]),
    (["yezi", "yezidi"],
    ["MQ10e030A29WAC2J11221"]),
    (["yiii", "yi"],
    ["BAc15927,60EYrME13W1wUm4"]),
    (["zinh", "inherited", "qaai"],
    ["AoB2111sQP11xK4uTnV11014Mg1C6vQIX1fgdPu0CIT1N12mAh2h726u3SwLoP7"]),
    (["zyyy", "common"],
    ["0A2q5qO11e14n0v0BeG1542jU30906010zj0X60Eg0yK10Vc3SY12SI2b2A11U11a3a1ehA1,1F112251q1gJ124Wk",
     "pal,sA8Tj2v1I3AgC21pScb4030d0d0l0Rgnv0R1ec3B595,2v0AO6,1IImpG32Qu0e1EVk9mk2b1i13T401vq5q5,",
     "3616a4SccT1M1TKT1T3y1V7aG12z13g817t4y1V6jcjcW2r6H4U21G2112021231b10161A21327161r131410361T",
     "a2D92R1RD5D2M2y1CmL14D3ce2e1e1E1aN5Y1p11dL148n5w4Xu4g3c3W34.26b40fb4X1896H18t21O2Tacd2c387",
     "N1168d48787S41W1F19HABo0u,2"])]

end Property

end DocumentSchema
