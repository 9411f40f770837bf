import DocumentSchema.Pattern.Property.Row

/-!
# Scripts

The characters of each script.
-/
namespace DocumentSchema

namespace Property

def scriptRows : List PropertyRow :=
  [(["adlm", "adlam"],
    ["AIw3L24941"]),
    (["aghb", "caucasianalbanian"],
    ["QJB2T1b0"]),
    (["ahom"],
    ["AYF2q2e4m"]),
    (["arab", "arabic"],
    ["AQ14151d121v19bp1L31B1Q2P1Q7u116J21sQSy1S3gKb2P22V170A1fQ341G4Dx3u.32AYX131q11102019131010",
     "60401010121110201010101011102316131310191g52141gU11"]),
    (["armi", "imperialaramaic"],
    ["ACC2l18"]),
    (["armn", "armenian"],
    ["RJ1F12R122DMz14"]),
    (["avst", "avestan"],
    ["AYC2V136"]),
    (["bali", "balinese"],
    ["AY6M23O1"]),
    (["bamu", "bamum"],
    ["AVJ1X2IIQ1Yh"]),
    (["bass", "bassavah"],
    ["QWw2t25"]),
    (["batk", "batak"],
    ["A.6T183"]),
    (["beng", "bengali"],
    ["AM2317212l1610332821238041142o"]),
    (["bhks", "bhaiksuki"],
    ["AAH281M11das"]),
    (["bopo", "bopomofo"],
    ["Kn1ZQbK1Q3v"]),
    (["brah", "brahmi"],
    ["AAE2N24D190"]),
    (["brai", "braille"],
    ["AAa,7"]),
    (["bugi", "buginese"],
    ["AQ6r21"]),
    (["buhd", "buhid"],
    ["Aw5j"]),
    (["cakm", "chakma"],
    ["AIE2U11h"]),
    (["cans", "canadianaboriginal"],
    ["AA5,jQhF2wNA2f"]),
    (["cari", "carian"],
    ["AVA2Q1"]),
    (["cham"],
    ["AQK1W19d2923"]),
    (["cher", "cherokee"],
    ["Az4V225SxF1P2"]),
    (["chrs", "chorasmian"],
    ["QzD2r"]),
    (["copt", "coptic", "qaac"],
    ["CvdQEaT356"]),
    (["cpmn", "cyprominoan"],
    ["QyL2C3"]),
    (["cprt", "cypriot"],
    ["AAC25201L1113020"]),
    (["cyrl", "cyrillic"],
    ["AA1E42I5Qw58C50M20HD4vACu,2Oyl1AQY1z1B10"]),
    (["deva", "devanagari"],
    ["AI2Q24e2pAxH1vAQs9"]),
    (["diak", "divesakuru"],
    ["AIG262027111t112b99"]),
    (["dogr", "dogra"],
    ["AAG2x1"]),
    (["dsrt", "deseret"],
    ["AAB2P2"]),
    (["dupl", "duployan"],
    ["AAP3K35c387923"]),
    (["egyp", "egyptianhieroglyphs"],
    ["AAM2VC1"]),
    (["elba", "elbasan"],
    ["AIB2H1"]),
    (["elym", "elymaic"],
    ["A,D2m"]),
    (["ethi", "ethiopic"],
    ["AQ4I2132610132I1132A1132610132e1Y1132C22v3pGP6m9616161616161616CJv525259616RFP2613111e"]),
    (["geor", "georgian"],
    ["AF4F110502K113Qy2K122AC4F11050"]),
    (["glag", "glagolitic"],
    ["AAb,2AzM361g261114"]),
    (["gong", "gunjalagondi"],
    ["ALH25111E1111579"]),
    (["gonm", "masaramgondi"],
    ["AIH26111L130111889"]),
    (["goth", "gothic"],
    ["QZA2q"]),
    (["gran", "grantha"],
    ["AYE2317212l1611142821222060562634"]),
    (["grek", "greek"],
    ["Qr3122310401012101j1.1efGJ64S1444U20Aal252F125271010101u2U11e1d251i2218H90.RC10wOlO2h0,CU1",
     "F2"]),
    (["gujr", "gujarati"],
    ["BU2218121l16111429121220f32b76"]),
    (["guru", "gurmukhi"],
    ["BQ2215412l16111111201441223073107g"]),
    (["hang", "hangul"],
    ["AI4,7OR71B8z2R3uB2uBXtsDkDzacm4Q1Ez9u35252522"]),
    (["hani", "han"],
    ["AUbp1Y2cV6P1010p8e3Eu,N6A2,PkAImNb2J3IIt1c1OAE1,WJ1A1ZB46z62BU5eQJ7,A3zgCP1Kw45,C4"]),
    (["hano", "hanunoo"],
    ["AZ5k"]),
    (["hatr", "hatran"],
    ["AHC2i1154"]),
    (["hebr", "hebrew"],
    ["RM1W18q45IJz1p1410111119"]),
    (["hira", "hiragana"],
    ["BCcV262Bx,2.8i0t2NFg0"]),
    (["hluw", "anatolianhieroglyphs"],
    ["AAR2Gi"]),
    (["hmng", "pahawhhmong"],
    ["AYw2F2a9161k5i"]),
    (["hmnp", "nyiakengpuachuehmong"],
    ["AIY3M13d2941"]),
    (["hung", "oldhungarian"],
    ["AED2S1dS175"]),
    (["ital", "olditalic"],
    ["AYA2D192"]),
    (["java", "javanese"],
    ["AMK1N22941"]),
    (["kali", "kayahli"],
    ["AIK1N110"]),
    (["kana", "katakana"],
    ["BFcZ222Q7fQ6O11X2OAT191M1SCM13161110,82S10e3"]),
    (["kawi"],
    ["AYH2g1I13r"]),
    (["khar", "kharoshthi"],
    ["AQC231157121s224978"]),
    (["khmr", "khmer"],
    ["Ay5z22969Gfv"]),
    (["khoj", "khojki"],
    ["AQE2h1O1"]),
    (["kits", "khitansmallscript"],
    ["E,x20xY6Ve"]),
    (["knda", "kannada"],
    ["AE3c121m19142812137161132912"]),
    (["kthi", "kaithi"],
    ["AEE2C2a0"]),
    (["lana", "taitham"],
    ["AR6.11s2a696d"]),
    (["laoo", "lao"],
    ["BU3110141n101m2410161923"]),
    (["latn", "latin"],
    ["B2p6pP10f05m1u1AeH14xQ6F16Q1535c1F2B2,7Rb0d0gcN4160r0hI1XW2vCVuF33,1511014odQpK11813Wyj6wA",
     "1p6pFB251J118FwV1u65"]),
    (["lepc", "lepcha"],
    ["AA7X13e32"]),
    (["limb", "limbu"],
    ["AI6u1b4b403b"]),
    (["lina", "lineara"],
    ["AQB2W99la7"]),
    (["linb", "linearb"],
    ["AAA2b1p1i111e2dC1w3"]),
    (["lisu"],
    ["QGJ1P1QVu0"]),
    (["lyci", "lycian"],
    ["AUA2s"]),
    (["lydi", "lydian"],
    ["AJC2p50"]),
    (["mahj", "mahajani"],
    ["QKE2G1"]),
    (["maka", "makasar"],
    ["AXH2o"]),
    (["mand", "mandaic"],
    ["AC2r20"]),
    (["mani", "manichaean"],
    ["AWC2G14b"]),
    (["marc", "marchen"],
    ["QDH2v2l1d"]),
    (["medf", "medefaidrin"],
    ["ASx2w2"]),
    (["mend", "mendekikakui"],
    ["AAw3E62f"]),
    (["merc", "meroiticcursive"],
    ["ANC2n4j2N1"]),
    (["mero", "meroitichieroglyphs"],
    ["AMC2v"]),
    (["mlym", "malayalam"],
    ["AI3c121S112154f2p"]),
    (["modi"],
    ["AQF2E2b9"]),
    (["mong", "mongolian"],
    ["AA61201j6Y27K1VN,1c"]),
    (["mroo", "mro"],
    ["ASw2u1941"]),
    (["mtei", "meeteimayek"],
    ["AXK1mJ6N129"]),
    (["mult", "multani"],
    ["AUE2610131e1a"]),
    (["mymr", "myanmar"],
    ["AA4,4AKG1uB3v"]),
    (["nagm", "nagmundari"],
    ["QGZ3J1"]),
    (["nand", "nandinagari"],
    ["ANG272N12a"]),
    (["narb", "oldnortharabian"],
    ["AUC2v"]),
    (["nbat", "nabataean"],
    ["AEC2u88"]),
    (["newa"],
    ["AAF2x214"]),
    (["nkoo", "nko"],
    ["A.1w122"]),
    (["nshu", "nushu"],
    ["B,x20OMgLc"]),
    (["ogam", "ogham"],
    ["AU5s"]),
    (["olck", "olchiki"],
    ["QC7P1"]),
    (["orkh", "oldturkic"],
    ["AAD2I2"]),
    (["orya", "oriya"],
    ["BY2217212l1611142821227241142h"]),
    (["osge", "osage"],
    ["QFB2D14D1"]),
    (["osma", "osmanya"],
    ["AEB2t29"]),
    (["ougr", "olduyghur"],
    ["QxD2p"]),
    (["palm", "palmyrene"],
    ["ADC2v"]),
    (["pauc", "paucinhau"],
    ["AWG2Y1"]),
    (["perm", "oldpermic"],
    ["QwA2K1"]),
    (["phag", "phagspa"],
    ["ACK1X1"]),
    (["phli", "inscriptionalpahlavi"],
    ["AxC2i57"]),
    (["phlp", "psalterpahlavi"],
    ["AyC2h73c6"]),
    (["phnx", "phoenician"],
    ["AIC2r30"]),
    (["plrd", "miao"],
    ["AYx2K24Y17g"]),
    (["prti", "inscriptionalparthian"],
    ["AwC2l27"]),
    (["rjng", "rejang"],
    ["QJK1D1b0"]),
    (["rohg", "hanifirohingya"],
    ["AID2H189"]),
    (["runr", "runic"],
    ["AV5K23a"]),
    (["samr", "samaritan"],
    ["AA2N12e"]),
    (["sarb", "oldsoutharabian"],
    ["ATC2v"]),
    (["saur", "saurashtra"],
    ["AEK1F28b"]),
    (["sgnw", "signwriting"],
    ["AAW3Lkf41e"]),
    (["shaw", "shavian"],
    ["QCB2P1"]),
    (["shrd", "sharada"],
    ["AME2,2"]),
    (["sidd", "siddham"],
    ["AMF2V12F1"]),
    (["sind", "khudawadi"],
    ["QVE2w159"]),
    (["sinh", "sinhala"],
    ["BM321h3n181026304510176922M,A2j"]),
    (["sogd", "sogdian"],
    ["QZD2J1"]),
    (["sogo", "oldsogdian"],
    ["AYD2H1"]),
    (["sora", "sorasompeng"],
    ["QGE2o79"]),
    (["soyo", "soyombo"],
    ["QSG2S2"]),
    (["sund", "sundanese"],
    ["Ay6,1A87"]),
    (["sylo", "sylotinagri"],
    ["AAK1M1"]),
    (["syrc", "syriac"],
    ["AY1d1x122Q8a"]),
    (["tagb", "tagbanwa"],
    ["Ax5c1211"]),
    (["takr", "takri"],
    ["AUF2Z169"]),
    (["tale", "taile"],
    ["QK6t24"]),
    (["talu", "newtailue"],
    ["AM6L14p6a31"]),
    (["taml", "tamil"],
    ["Cy2115321331101131323b4432132060ekF.E2R1d0"]),
    (["tang", "tangut"],
    ["A,x20vX,58,nAg8"]),
    (["tavt", "taiviet"],
    ["AUK1C2o4"]),
    (["telu", "telugu"],
    ["AA3c121m1f281213711220232978"]),
    (["tfng", "tifinagh"],
    ["QJbX171e0"]),
    (["tglg", "tagalog"],
    ["AY5l90"]),
    (["thaa", "thaana"],
    ["Ay1R1"]),
    (["thai"],
    ["BQ3Z15r"]),
    (["tibt", "tibetan"],
    ["AY3H21D14G11D11e1641"]),
    (["tirh", "tirhuta"],
    ["AEF2H289"]),
    (["tnsa", "tangsa"],
    ["QTw2O219"]),
    (["toto"],
    ["QUY3u"]),
    (["ugar", "ugaritic"],
    ["AyA2t10"]),
    (["vaii", "vai"],
    ["AIJ1L9"]),
    (["vith", "vithkuqi"],
    ["QLB2a1e16111a1e1611"]),
    (["wara", "warangciti"],
    ["AFG2S2c0"]),
    (["wcho", "wancho"],
    ["AWY3Z150"]),
    (["xpeo", "oldpersian"],
    ["AzA2D14d"]),
    (["xsux", "cuneiform"],
    ["AAI2ZsG3O314bD6"]),
    (["yezi", "yezidi"],
    ["AUD2J11221"]),
    (["yiii", "yi"],
    ["AAI1ME13W1"]),
    (["zanb", "zanabazarsquare"],
    ["AQG2H2"]),
    (["zinh", "inherited", "qaai"],
    ["AoP3V81Eeaq0An3xK4uBg21c16406031G6,1Mg1C6A1ZZ33L31FLT1fgdPu0C70wC40E.O1N12mAh2h726u3SwLoP7"]),
    (["zyyy", "common"],
    ["0A2q5qO11e14n0v0BeG1542jU30906010zj060e030A10y40Eg0B41ZG10Vc3C90PP12H21L6110NG10d073151220",
     "Fob2W21a3a1ehA1,1F112251q1gJ124Wkpal,sA8Tj2v1I3Agz2Scb44101of743x2130w21T4fA1D1y1,1vQ2P10Y",
     "2H5AO6,1AImB1G32F59U70A50Lc0e1SOk1Q69mC11i13T401vq5qaa0N11A2616a4C824M138Q2cT1M1E7qENO13MV",
     "4T3y1V7aG12z13g817t4y1V6jcjcW29oH4U21G2112021231b10161A21327161r131410361Ta2D92R1RD5D2M2y1",
     "CmL14D3ce2e1e1E1aN5Y1p11dL14871e5w4Xu4g3c3W34.26b40fb4X1896H18t21O2Tacd2c387N1168d48787S41",
     "W1F19HABo0u,2"])]

end Property

end DocumentSchema
