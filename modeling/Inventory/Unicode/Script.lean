import Inventory.Unicode.Table
/-!
# Scripts

Every assigned code point belongs to one script of Unicode 17.0 (`Latin`, `Greek`, `Han`,
`Common` for characters shared by many scripts, `Inherited` for marks that take the script of
the character they follow, and so on); unassigned code points belong to none. Scripts are named
by their long names with underscores (`Old_Italic`).
-/

set_option autoImplicit false

namespace Inventory.Unicode

/-- The scripts, in the order the table numbers them from one; zero is no script. -/
def scriptNames : List String :=
  ["Adlam", "Ahom", "Anatolian_Hieroglyphs", "Arabic", "Armenian", "Avestan", "Balinese",
    "Bamum", "Bassa_Vah", "Batak", "Bengali", "Beria_Erfe", "Bhaiksuki", "Bopomofo", "Brahmi",
    "Braille", "Buginese", "Buhid", "Canadian_Aboriginal", "Carian", "Caucasian_Albanian",
    "Chakma", "Cham", "Cherokee", "Chorasmian", "Common", "Coptic", "Cuneiform", "Cypriot",
    "Cypro_Minoan", "Cyrillic", "Deseret", "Devanagari", "Dives_Akuru", "Dogra", "Duployan",
    "Egyptian_Hieroglyphs", "Elbasan", "Elymaic", "Ethiopic", "Garay", "Georgian", "Glagolitic",
    "Gothic", "Grantha", "Greek", "Gujarati", "Gunjala_Gondi", "Gurmukhi", "Gurung_Khema", "Han",
    "Hangul", "Hanifi_Rohingya", "Hanunoo", "Hatran", "Hebrew", "Hiragana", "Imperial_Aramaic",
    "Inherited", "Inscriptional_Pahlavi", "Inscriptional_Parthian", "Javanese", "Kaithi",
    "Kannada", "Katakana", "Kawi", "Kayah_Li", "Kharoshthi", "Khitan_Small_Script", "Khmer",
    "Khojki", "Khudawadi", "Kirat_Rai", "Lao", "Latin", "Lepcha", "Limbu", "Linear_A",
    "Linear_B", "Lisu", "Lycian", "Lydian", "Mahajani", "Makasar", "Malayalam", "Mandaic",
    "Manichaean", "Marchen", "Masaram_Gondi", "Medefaidrin", "Meetei_Mayek", "Mende_Kikakui",
    "Meroitic_Cursive", "Meroitic_Hieroglyphs", "Miao", "Modi", "Mongolian", "Mro", "Multani",
    "Myanmar", "Nabataean", "Nag_Mundari", "Nandinagari", "New_Tai_Lue", "Newa", "Nko", "Nushu",
    "Nyiakeng_Puachue_Hmong", "Ogham", "Ol_Chiki", "Ol_Onal", "Old_Hungarian", "Old_Italic",
    "Old_North_Arabian", "Old_Permic", "Old_Persian", "Old_Sogdian", "Old_South_Arabian",
    "Old_Turkic", "Old_Uyghur", "Oriya", "Osage", "Osmanya", "Pahawh_Hmong", "Palmyrene",
    "Pau_Cin_Hau", "Phags_Pa", "Phoenician", "Psalter_Pahlavi", "Rejang", "Runic", "Samaritan",
    "Saurashtra", "Sharada", "Shavian", "Siddham", "Sidetic", "SignWriting", "Sinhala",
    "Sogdian", "Sora_Sompeng", "Soyombo", "Sundanese", "Sunuwar", "Syloti_Nagri", "Syriac",
    "Tagalog", "Tagbanwa", "Tai_Le", "Tai_Tham", "Tai_Viet", "Tai_Yo", "Takri", "Tamil",
    "Tangsa", "Tangut", "Telugu", "Thaana", "Thai", "Tibetan", "Tifinagh", "Tirhuta", "Todhri",
    "Tolong_Siki", "Toto", "Tulu_Tigalari", "Ugaritic", "Vai", "Vithkuqi", "Wancho",
    "Warang_Citi", "Yezidi", "Yi", "Zanabazar_Square"]
/-- The script of every code point, as a run table with two letters per value. -/
def scriptText : String := String.join [
  "gM0hV41gM1ahV6gM1ahV2fgM1hVfgM1hV5gM17hV1gM1fhV1gM1c1hV27gM5gu5gM2hz14hm70gM4hm1gg3hm2gM4hm1gg1h",
  "m4gM1hm1gM1hm1gg3hm1gg1hm1gg14hm1gN3fhmegR10hz85gR2gga9gl1gg26gl2gg32gl2gg3hw1gg37hw8gg1bhw4gg6g",
  "kbgM5gk1gM6gk1gMegk1gM3gk1gM20gk1hzagkbhz1agk1gM6cgk1jM22ggejM1gg3cjM2gk3jY30gg32iMegg3biM2js3gg",
  "2ejs2ggfim1gg1cim2gg1jM1ggbgk5gg22gk5gM4bgk1gT1dhz51gT4gMfgT2gr1agg4gr1gg8gr2gg2gr2gg16gr1gg7gr1",
  "gg1gr3gg4gr2gg9gr2gg2gr2gg4gr8gg1gr4gg2gr1gg5gr2gg19hp2gg3hp1gg6hp4gg2hp2gg16hp1gg7hp1gg2hp1gg2h",
  "p1gg2hp2gg1hp1gg5hp4gg2hp2gg3hp3gg1hp7gg4hp1gg1hp7gg11hnagg3hn1gg9hn1gg3hn1gg16hn1gg7hn1gg2hn1gg",
  "5hn2ggahn1gg3hn1gg3hn2gg1hnfgg4hn2ggchn7gg7jh1gg3jh1gg8jh2gg2jh2gg16jh1gg7jh1gg2jh1gg5jh2gg9jh2g",
  "g2jh2gg3jh7gg3jh4gg2jh1gg5jh2gg12jUagg2jU1gg6jU3gg3jU1gg4jU3gg2jU1gg1jU1gg2jU3gg2jU3gg3jU3ggcjU4",
  "gg5jU3gg3jU1gg4jU2gg1jU6gg1jUegg15jX5ggdjX1gg3jX1gg17jX1gg10jX2gg9jX1gg3jX1gg4jX7gg2jX1gg3jX1gg2",
  "jX2gg4jX2ggajX7hK9ggdhK1gg3hK1gg17hK1ggahK1gg5hK2gg9hK1gg3hK1gg4hK7gg2hK5gg3hK1gg4hK2ggahK1gg3il",
  "cggdil1gg3il1gg33il1gg3il1gg6il4gg10il2gg1ajz1gg3jz1gg12jz3gg18jz1gg9jz1gg1jz2gg7jz3gg1jz4gg6jz1",
  "gg1jz1gg8jz6ggajz2gg3jZcgg3agM4jZ1gg1chU25gg2hU1gg1hU1gg5hU1gg18hU1gg1hU1gg17hU2gg5hU1gg1hU1gg7h",
  "U1ggahU2gg4kg20gg48kg1gg24kg4gg27kg1gg24kg1ggfkg1gM7kg4gg2iG25hia0gg26hi1gg1hi5gg1hi2gM2bhi1hs4h",
  "g100gg49hg1gg4hg2gg7hg1gg1hg1gg4hg2gg29hg1gg4hg2gg21hg1gg4hg2gg7hg1gg1hg1gg4hg2ggfhg1gg39hg1gg4h",
  "g2gg43hg2gg20hg3gg1agK6gg56gK2gg6gz2iP280gg1djr3gM4bjr3ggbjN7gg16jN9hu1gM15gg2gy9gg14jOcggdjO1gg",
  "3jO1gg2hQcgg5ehQ2ggahQ6ggaix6gM2ix2gM1ix1gg14ix6gg59ix7gg2bgz5gg46hXagg1fhX1ggchX4ggchX4gg1hX3jP",
  "cgg1ejP2gg5iKbgg2ciK4gg1aiK6ggbiK3hQ2gx20gg1cgx2jQ2gg3fjQ1gg1djQ2ggbjQ6ggajQ6ggehz2gg2ehz2ggcgn1",
  "4gg4dgn1jJ32gq40gg34gq8hW4gg38hW3ggfhW3iQ3gR30ggbhi5gg2bhi2jJ3gg8hz8gM3hz1gMdhz1gM7hz4gM1hz6gM1h",
  "z3gM2gg1hV5hm26gR5hV1hm31hV5hm4hV5gRdhV1hm46hz1hV40hm100gg16hm2gg6hm2gg26hm2gg6hm2gg8hm1gg1hm1gg",
  "1hm1gg1hm1gg1fhm2gg35hm1ggfhm1ggehm2gg6hm1gg13hm2gg3hm1gg9gM1hzcgM2gg57gM1hVbgg1gM2hVbgM1ggfhV1g",
  "gdgM3gg22hzegg21gMfhm26gM1hV3gM2hV6gM1hV1bgM1hV11gM29gg3gM4gg29agM16ggbgM15gw3a0gM100gg274gM2hj8",
  "ahV60gN20gg74gN5hi7gg26hi1gg1hi5gg1kh2gg38kh7gg2khehg1gg17hg9gg7hg1gg7hg1gg7hg1gg7hg1gg7hg1gg7hg",
  "1gg7hg1gg7gR1gM20gg5ehr22gg1ahr1gg59hrcggd6gM1ahr15gM1hr1gM1hr19hz9hs4gM2hr8gM4gg4hx1gg56hz2gM2h",
  "x2gM3hL1gM5ahL2gg3gu5gg2bhs1gg5egM1gu10gM20gg26gM9hL1hs10gg1fgM1hs40gM1fhL51gM2fhL1gM58hra8gM19c",
  "0hr40kt5200gg48dkt3gg37ig9ko30gg12cgR14go60gg58gM8hV22gM66hV3gg52hV14jLfgg2dgM3ggajn6gg38jt8gg46",
  "jt8ggcgT6hN20gM2ehN1jq1gg24jqbhs1gg1dhI3gg4egM1hI1ggahI4iG2gg1fgJ1gg37gJ9ggegJ2ggagJ2iG4jR20gg43",
  "jR18ir5gg17hgagg6hg2gg6hg2gg6hg9gg7hg1gg7hV1gM2bhV1hm9hV1gM4gg2gK4ir50gg2eir2ggahs6gg2ba4hscgg17",
  "hs4gg31hr2104gg16ehr2gg6ahV26gg7glcgg5hw5gg1ahw1gg5hw1gg1hw1gg2hw1gg2hw1gkagM1eegk2gg90gk20hz10g",
  "M10ggahz6gRegM2gg23gM1gg13gM1gg4gk4gg5gk1gg87gM2gg1gM1hV20gM1ahV6gM1ahLbgMahL1gM2dhs2gg1fhs3gg6h",
  "s2gg6hs2gg6hs2gg3gM3gg7gM1gg7gMagg5hZ2ggchZ1gg1ahZ1gg13hZ1gg2hZ1ggfhZ2ggehZ22gg7bgM5gg3gM4gg2dgM",
  "3hm9gg4fgM1ggdhm3gg1gM2fhz2dgg1ih82gg1dgG3gg31hzfgM1gg1biT4gg24iT9hk3gg1biV5gg2bkn5gg1ekn1iW1gg2",
  "4iW4ggegS2ajv50jj30gg1ejj2ggaji6gg24ji4gg24gY4gg28gH8gg34gHbkp1ggbkp1ggfkp1gg7kp1gg2kp1ggbkp1ggf",
  "kp1gg7kp1gg2kj3gg34hYcgg137hY9gg16hYagg8hV18gg6hV1gg2ahV1gg9gP45gg6gP2gg1gP1gg2cgP1gg2gP3gg1gP2h",
  "y1gg16hy1jl9iH20gg1fiH8gg9hv30gg13hv1gg2hv5jo5gg1cjo3ii1gg1aii5jx1gg1aiu26it20gg18it4gg14it2hO2e",
  "gg4hO1gg2hO5gg8hO1gg3hO1gg1dhO2gg3hO4ggahO7gg9iY7iU20gg20in20gg27in4ggcgm9gg36gm3hH7gg16hH2hG8gg",
  "13hG5jp8gg12jp7gg4jpcgg7iZ50gg49iS37gg33iSdgg33iS7ht6gg28ht8ggahh6gg26hh3gg1dhh8gg2gkd0gg1fks1gg",
  "2aks1gg3ks2gg2gk10gg6gk8gg9gk21iX6gg28jG8gg2ajg16gg1agL26gg1cgZ14gg17gv9gg4egv4gg24gv9hJ1gg43hJa",
  "gg1jH2gg19jH7ggagI6gg35gI1gg12ij8gg27ju9gg60jz1gg14hRbgg12hR1gg2fiz3egg7iz1gg1iz1gg4iz1ggfiz1ggb",
  "hS6gg3bhS5ggahl6gg4hl1gg8hl2gg2hl2gg16hl1gg7hl1gg2hl1gg5hz1hl1gg9hl2gg2hl2gg3hl2gg1hl6gg1hl5gg7h",
  "l2gg7hl3gg5kmbggakm1gg1km2gg1km1gg26km1ggakm1gg1km2gg1km1gg4km1ggakm1gg2km8gg2iL1dgg5ciL1gg5ki1e",
  "gg48ki8ggajwa6gg36jw2gg26iw22gg45iwbggaix6ggdjT13gg3ajT6ggaiG6gg14gi1cgg1bgi2ggfgi4gg17gVb9gg3ck",
  "r64gg53krcgU1gg7gU2gg1gU2gg8gU1gg2gU1gg1egU1gg2gU2ggcgU9ggaiJ46gg8iJ2gg2eiJ2ggbku1bgg48jI8gg53gz",
  "djm10gg39gT7ggaju56gg8jK58gg22jKeggagt6gg9gt1gg2dgt1ggegtagg1dio3gg20io2gg16io1ggeip49gg7ip1gg2i",
  "p1gg2cip3gg1ip1gg2ip1gg9ip8ggaho6gg6ho1gg2ho1gg25ho1gg2ho1gg6ho7ggakk6gg2ckk4ggaikf6gg19hM7gg11h",
  "M1gg29hM3gg1dig55gg1jUfgg32jUdgO1gg39agO66gg6fgO1gg5gObggc4gQa4cgg63gXdgg456gXaggf9bgj5gg247hq1a",
  "b9gg3ago6c6gg239iy7gg1fiy1ggaiy4jV2gg4fjV1ggagp6gg1egp2gg6jkagg46jkaggajk1gg7jk1gg15jk5gg13hT1b0",
  "gg3aiqc6gg5bgs5gg19gs2gg19iv2cgg4biv4gg39iv7gg11jW40iN1hr1hP2gg1hrbgg7jW9hP1b00gg1d6hP29jW1gg1fj",
  "W61gg73hL21fdgg4hL1gg7hL1gg2hL1hx1hL11fgg3hxfgg1hx1dgg3hL2gg1hLegg4iN8gg18cgW904gg6bgW5ggdgW3gg9",
  "gW7ggagW2gM4gg4gMf5cggfdgM3gg1b4gM6gg17gMfgg11hzfgg2ehz2gg17gM9gg74gM3cggf6gMagg27gM2hz3egM3hz11",
  "gM8hz2gM7hz1egM4gg3dhm15gg46gM7agg14gMcgg14gMcgg57gM9gg19gM87gg55gM1gg47gM1gg2gM2gg1gM2gg2gM2gg4",
  "gM1ggcgM1gg1gM1gg7gM1gg41gM1gg4gM2gg8gM1gg7gM1gg1cgM1gg4gM1gg5gM1gg1gM3gg7gM1gg154gM2gg124gM2jy3",
  "2gg28cjyfgg5jy1ggfhV450gg1fhV6gg6hjd5gg7hj1gg11hj2gg7hj1gg2hj1gg5gR5gg3egR21gg1iO70gg2diO3ggeiO2",
  "ggaiO4gg2kl140gg1fkq11gg3akq5gg1iI1d0gg2aiRd6gg2biR4gg1jSc0gg1fjS1gg16jS8gg2hge0gg7hg1gg4hg1gg2h",
  "g1ggfis1ggc5is2gg10gh29gg4cgh4ggagh4gg2gM311gg44gM4cgg3dgkc2gg4gk1gg1bgk1gg2gk1gg1gk2gg1gk1ggagk",
  "1gg4gk1gg1gk1gg1gk6gg1gk4gg1gk1gg1gk1gg1gk1gg3gk1gg2gk1gg1gk2gg1gk1gg1gk1gg1gk1gg1gk1gg1gk1gg2gk",
  "1gg1gk2gg4gk1gg7gk1gg4gk1gg4gk1gg1gk1ggagk1gg11gk5gg3gk1gg5gk1gg11gk34gg2gM10egg2cgM4gg64gMcggfg",
  "M2ggfgM1ggfgM1gg25gMaggaegM38hx1agM1gg2gMdgg2cgM4gg9gM7gg2gMegg6gM9agg3d9gM3gg11gM3ggdgM3ggdagM6",
  "ggcgM4gg1gMfggcgM4gg38gM8ggagM6gg28gM8gg1egM2ggcgM4gg2gMegg9gM27gg158gM8ggegM2ggdgM3ggbgM3gg39gM",
  "1gg1gM4gg10gM2ggcgM4ggagM7gg93gM1gg67hr405gga6e0hr20gg111ehr2gg168ehr2gg1d31hrfgg26ehr9a2gg21ehr",
  "5e2gg134bhr5gg212agMacb87gg1gM1egg60hz80ggf0"]
/-- The script runs. -/
def scriptRuns : Array (Nat × Nat) := readRuns scriptText

/-- **The script** of a code point, if it is assigned. -/
def script? (cp : Nat) : Option String :=
  match valueAt scriptRuns cp with
  | 0 => none
  | i => scriptNames[i - 1]?

/-- The code points of a script, if the name is one. -/
def scriptRanges? (name : String) : Option Ranges :=
  match scriptNames.idxOf? name with
  | some i => some (rangesWhere scriptRuns (· == i + 1))
  | none => none

end Inventory.Unicode
