/-!
# Tables of character sets

The character sets in which every byte is a character and the bytes below 128 are ASCII: the names they go by, and the
characters of the bytes from 128 on.
-/

namespace WarehouseMigration.Text.Charset

/-- A character set with one byte for every character.  `upper` has the code points of the bytes from 128 on, with
zero where there is none. -/
structure Table where
  names : List String
  upper : List Nat

/-- What a row spells: a blank stands for no character, `_` for the one that is there already, and `~` for all those
between its neighbours. -/
def spelt : List Char → List (Option Nat)
  | [] => []
  | c :: '~' :: d :: rest => (List.range' c.toNat (d.toNat - c.toNat)).map some ++ spelt (d :: rest)
  | ' ' :: rest => some 0 :: spelt rest
  | '_' :: rest => none :: spelt rest
  | c :: rest => some c.toNat :: spelt rest

/-- The code points `base` with rows written over them, each from its place on. -/
def revised (base : List Nat) (rows : List (Nat × String)) : List Nat :=
  rows.foldl (fun base (place, row) =>
    let new := List.zipWith (fun code old => code.getD old) (spelt row.toList) (base.drop place)
    base.take place ++ new ++ base.drop (place + new.length)) base

def western : List Nat := List.range' 128 128

def iso (n : Nat) (others : List String) : List Nat → Table := .mk (s!"iso8859_{n}" :: s!"iso_8859_{n}" :: others)

def codePage (n : Nat) (others : List String) : List Nat → Table := .mk (toString n :: s!"cp{n}" :: others)

def iso8859x2 : Table := iso 2 ["csisolatin2", "iso_8859_2_1987", "iso_ir_101", "l2", "latin2"] (revised western
  [(33, "Ą˘Ł_ĽŚ__ŠŞŤŹ_ŽŻ_ą˛ł_ľśˇ_šşťź˝žżŔ__Ă_ĹĆ_Č_Ę_Ě__ĎĐŃŇ__Ő__ŘŮ_Ű__Ţ_ŕ__ă_ĺć_č_ę_ě__ďđńň__ő__řů_ű__ţ˙")])

def iso8859x3 : Table := iso 3 ["csisolatin3", "iso_8859_3_1988", "iso_ir_109", "l3", "latin3"] (revised western
  [(33, "Ħ˘__ Ĥ__İŞĞĴ_ Ż_ħ____ĥ__ışğĵ_ ż___ _ĊĈ"), (80, " ____Ġ__Ĝ____ŬŜ____ _ċĉ"), (112, " ____ġ__ĝ____ŭŝ˙")])

def iso8859x4 : Table := iso 4 ["csisolatin4", "iso_8859_4_1988", "iso_ir_110", "l4", "latin4"] (revised western
  [(33, "ĄĸŖ_ĨĻ__ŠĒĢŦ_Ž__ą˛ŗ_ĩļˇ_šēģŧŊžŋĀ______ĮČ_Ę_Ė__ĪĐŅŌĶ_____Ų___ŨŪ_ā______įč_ę_ė__īđņōķ_____ų___ũū˙")])

def iso8859x5 : Table := iso 5 ["csisolatincyrillic", "cyrillic", "iso_8859_5_1988", "iso_ir_144"] (revised western
  [(33, "Ё~Ќ_Ў~я№ё~ќ§ўџ")])

def iso8859x6 : Table := iso 6 ["arabic", "asmo_708", "csisolatinarabic", "ecma_114", "iso_8859_6_1987", "iso_ir_127"]
  (revised western [(33, "   _       ،_             \u061b   \u061f \u0621~\u063a     \u0640~\u0652             ")])

def iso8859x7 : Table := iso 7 ["csisolatingreek", "ecma_118", "elot_928", "greek", "greek8", "iso_8859_7_1987",
  "iso_ir_126"] (revised western [(33, "‘’_€₯____ͺ___ ―____΄~Ά_Έ~Ί_Ό_Ύ~Ρ Σ~ώ ")])

def iso8859x8 : Table := iso 8 ["csisolatinhebrew", "hebrew", "iso_8859_8_1988", "iso_ir_138"] (revised western
  [(33, " ¢~©×"), (58, "÷____                                ‗\u05d0~\u05ea  \u200e\u200f ")])

def iso8859x9 : Table := iso 9 ["csisolatin5", "iso_8859_9_1989", "iso_ir_148", "l5", "latin5"] (revised western
  [(80, "Ğ"), (93, "İŞ"), (112, "ğ"), (125, "ış")])

def iso8859x10 : Table := iso 10 ["csisolatin6", "iso_8859_10_1992", "iso_ir_157", "l6", "latin6"]
  (revised iso8859x4.upper [(34, "ĒĢĪ_Ķ_ĻĐŠŦŽ_ŪŊ__ēģī_ķ·ļđšŧž―ū"), (79, "ÏÐ__Ó___Ũ_____ÝÞ"), (111, "ïð__ó___ũ_____ýþĸ")])

def iso8859x11 : Table := iso 11 ["iso_8859_11_2001", "thai"] (revised western [(33, "ก~\u0e3a    ฿~๛    ")])

def iso8859x13 : Table := iso 13 ["l7", "latin7"] (revised western
  [(33, "”___„__Ø_Ŗ____Æ____“___ø_ŗ____æĄĮĀĆ__ĘĒČ_ŹĖĢĶĪĻŠŃŅ_Ō___ŲŁŚŪ_ŻŽ_ąįāć__ęēč_źėģķīļšńņ_ō___ųłśū_żž’")])

def iso8859x14 : Table := iso 14 ["iso_8859_14_1998", "iso_celtic", "iso_ir_199", "l8", "latin8"] (revised western
  [(33, "Ḃḃ_ĊċḊ_Ẁ_ẂḋỲ__ŸḞḟĠġṀṁ_ṖẁṗẃṠỳẄẅṡ"), (80, "ŴÑ~ÖṪØ~ÝŶ"), (112, "ŵñ~öṫø~ýŷ")])

def iso8859x15 : Table := iso 15 ["l9", "latin9"] (revised western [(36, "€_Š_š"), (52, "Ž___ž___ŒœŸ")])

def iso8859x16 : Table := iso 16 ["iso_8859_16_2001", "iso_ir_226", "l10", "latin10"] (revised iso8859x2.upper
  [(34, "ą_€„Š_š©Ș«__ź__±Č_Ž”¶·žčș»ŒœŸ_À____ĆÆ~Ï__Ò____ŚŰÙ~ÜĘȚ_à____ćæ~ï__ò____śűù~üęțÿ")])

def cp1250 : Table := codePage 1250 ["windows_1250"] (revised iso8859x2.upper
  [(0, "€ ‚ „…†‡ ‰Š‹ŚŤŽŹ ‘’“”•–— ™š›śťžź_ˇ___Ą¦__©_«~®__±__´~¸ą_»Ľ_ľ")])

def cp1251 : Table := codePage 1251 ["windows_1251"] (revised cp1250.upper [(0, "ЂЃ_ѓ____€_Љ_ЊЌЋЏђ"),
  (26, "љ_њќћџ_ЎўЈ_Ґ__Ё_Є____Ї__Ііґ___ё№є_јЅѕїА~я")])

def cp1252 : Table := codePage 1252 ["windows_1252"] (revised cp1251.upper
  [(0, "€ _ƒ____ˆ_Š_Œ Ž  _______˜_š_œ žŸ_¡~¬__¯_±~ÿ")])

def cp1253 : Table := codePage 1253 ["windows_1253"] (revised cp1252.upper [(8, " _ _ _ "),
  (24, " _ _ _  _΅Ά_______ ____―____΄___Έ~Ί_Ό_Ύ~Ρ Σ~ώ ")])

def cp1254 : Table := codePage 1254 ["windows_1254"] (revised cp1252.upper [(14, " "), (30, " "), (80, "Ğ"), (93, "İŞ"),
  (112, "ğ"), (125, "ış")])

def cp1255 : Table := codePage 1255 ["windows_1255"] (revised cp1254.upper [(10, " _ "), (26, " _ __ ____₪_____×"),
  (58, "÷_____\u05b0~\u05b9 \u05bb~\u05c3\u05f0~\u05f4       \u05d0~\u05ea  \u200e\u200f ")])

def cp1256 : Table := codePage 1256 ["windows_1256"] (revised cp1250.upper
  [(1, "\u067e_ƒ____ˆ_\u0679_Œ\u0686\u0698\u0688\u06af_______\u06a9_\u0691_œ\u200c\u200d\u06ba_،¢~©\u06be____¯_±~¹\u061b»~¾\u061f\u06c1"),
  (65, "\u0621~\u0636_\u0637~\u063a\u0640~\u0643à\u0644_\u0645~\u0648_è~ë\u0649\u064a_ï\u064b~\u064e_\u064f\u0650_\u0651ù\u0652û_\u200e\u200f\u06d2")])

def cp1257 : Table := codePage 1257 ["windows_1257"] (revised iso8859x13.upper
  [(0, "€ ‚ „…†‡ ‰ ‹ ¨ˇ¸ ‘’“”•–— ™ › ¯˛ _ ___ "), (52, "´"), (127, "˙")])

def cp1258 : Table := codePage 1258 ["windows_1258"] (revised cp1254.upper [(10, " "), (26, " "),
  (67, "Ă________\u0300___Đ_\u0309__Ơ_______Ư\u0303____ă________\u0301___đ_\u0323__ơ_______ư₫")])

def koi8r : Table := .mk ["cskoi8r", "koi8_r"] (revised western
  [(0, "─│┌┐└┘├┤┬┴┼▀▄█▌▐~▓⌠■∙√≈≤≥\u00a0⌡°²·÷═~╒ё╓~╡Ё╢~╬©юабцдефгхи~пяр~ужвьызшэщчъЮАБЦДЕФГХИ~ПЯР~УЖВЬЫЗШЭЩЧЪ")])

def koi8u : Table := .mk ["koi8_u"] (revised koi8r.upper [(36, "є_ії_____ґ______Є_ІЇ_____Ґ")])

def cp437 : Table := codePage 437 ["cspc8codepage437", "ibm437"] (revised western
  [(0, "ÇüéâäàåçêëèïîìÄÅÉæÆôöòûùÿÖÜ¢£¥₧ƒáíóúñÑªº¿⌐¬½¼¡«»░~▓│┤╡╢╖╕╣║╗╝╜╛┐"),
  (64, "└┴┬├─┼╞╟╚╔╩╦╠═╬╧╨╤╥╙╘╒╓╫╪┘┌█▄▌▐▀αßΓπΣσµτΦΘΩδ∞φε∩≡±≥≤⌠⌡÷≈°∙·√ⁿ²■\u00a0")])

def cp850 : Table := codePage 850 ["cspc850multilingual", "ibm850"] (revised cp437.upper [(27, "ø_Ø×"), (41, "®"),
  (53, "ÁÂÀ©____¢¥_______ãÃ_______¤ðÐÊËÈıÍ~Ï____¦Ì_Ó_ÔÒõÕ_þÞÚÛÙýÝ¯´\u00ad_‗¾¶§_¸_¨_¹³")])

def cp852 : Table := codePage 852 ["cspcp852", "ibm852"] (revised cp850.upper
  [(5, "ůć_ł_Őő_Ź_Ć_Ĺĺ__ĽľŚś__ŤťŁ_č____ĄąŽžĘę_źČş"),
  (55, "ĚŞ____Żż_______Ăă________đĐĎ_ďŇ__ě____ŢŮ____ŃńňŠšŔ_ŕŰ__ţ__˝˛ˇ˘_____˙űŘř")])

def cp866 : Table := codePage 866 ["csibm866", "ibm866"] (revised cp437.upper [(0, "А~п"), (96, "р~яЁёЄєЇїЎў____№¤")])

def macroman : Table := .mk ["mac_roman", "macintosh", "macroman"] (revised western
  [(0, "ÄÅÇÉÑÖÜáàâäãåçéèêëíìîïñóòôöõúùûü†°__§•¶ß®_™´¨≠ÆØ∞_≤≥¥_∂∑∏π∫ªºΩæø"),
  (64, "¿¡¬√ƒ≈∆«»…\u00a0ÀÃÕŒœ–—“”‘’÷◊ÿŸ⁄€‹›ﬁﬂ‡·‚„‰ÂÊÁËÈÍ~ÏÌÓÔ\uf8ffÒÚÛÙıˆ˜¯˘~˚¸˝˛ˇ")])

def tables : List Table := [iso8859x2, iso8859x3, iso8859x4, iso8859x5, iso8859x6, iso8859x7, iso8859x8, iso8859x9,
  iso8859x10, iso8859x11, iso8859x13, iso8859x14, iso8859x15, iso8859x16, cp1250, cp1251, cp1252, cp1253, cp1254,
  cp1255, cp1256, cp1257, cp1258, koi8r, koi8u, cp437, cp850, cp852, cp866, macroman]

end WarehouseMigration.Text.Charset
