import WarehouseMigration.Text.Charset.Table
import WarehouseMigration.Text.LetterCase
import WarehouseMigration.Text.Utf8

/-!
# Character sets

Which texts bytes spell in a character set that is known by its name.
-/

namespace WarehouseMigration.Text

/-- A character set that is given from outside. -/
structure Codec where
  decode? : List Nat → Option (List Char)
  /-- the characters that bytes spell, with the bytes among them that spell none; these cannot always be kept -/
  keep? : List Nat → Option (List (Char ⊕ Nat))

/-- The given character sets, by their names. -/
abbrev Codecs := String → Option Codec

inductive Charset where
  | ascii
  | latin
  /-- UTF-8; with `isSigned` a mark of the byte order in front does not count -/
  | utf8 (isSigned : Bool)
  | table (upper : List Nat)
  | given (codec : Codec)

namespace Charset

def names : List (Charset × List String) :=
  [(.utf8 false, ["cp65001", "u8", "utf", "utf8", "utf8_ucs2", "utf8_ucs4", "utf_8"]),
   (.utf8 true, ["utf_8_sig"]),
   (.ascii, ["646", "ansi_x3.4_1968", "ansi_x3.4_1986", "ansi_x3_4_1968", "ascii", "cp367", "csascii", "ibm367",
     "iso646_us", "iso_646.irv_1991", "iso_ir_6", "us", "us_ascii"]),
   (.latin, ["8859", "cp819", "csisolatin1", "ibm819", "iso8859", "iso8859_1", "iso_8859_1", "iso_8859_1_1987",
     "iso_ir_100", "l1", "latin", "latin1", "latin_1"])]

/-- The names of character sets with several bytes for each character. -/
def unitNames : List String :=
  ["u16", "utf16", "utf_16", "unicodelittleunmarked", "utf_16_le", "utf_16le", "unicodebigunmarked", "utf_16_be",
   "utf_16be", "u32", "utf32", "utf_32", "utf_32_le", "utf_32le", "utf_32_be", "utf_32be"]

/-- The names of character sets with several bytes for a character outside of ASCII. -/
def wideNames : List String :=
  ["big5", "big5_tw", "csbig5", "x_mac_trad_chinese", "big5_hkscs", "big5hkscs", "hkscs", "932", "cp932",
   "ms932", "ms_kanji", "mskanji", "949", "cp949", "ms949", "uhc", "950", "cp950", "ms950", "euc_jp", "eucjp",
   "u_jis", "ujis", "euc_jis2004", "euc_jis_2004", "eucjis2004", "jisx0213", "euc_jisx0213", "eucjisx0213",
   "euc_kr", "euckr", "korean", "ks_c_5601", "ks_c_5601_1987", "ks_x_1001", "ksc5601", "ksx1001", "x_mac_korean",
   "gb18030", "gb18030_2000", "chinese", "csiso58gb231280", "euc_cn", "euccn", "eucgb2312_cn", "gb2312",
   "gb2312_1980", "gb2312_80", "iso_ir_58", "x_mac_simp_chinese", "936", "cp936", "gbk", "ms936", "csiso2022jp",
   "iso2022_jp", "iso2022jp", "iso_2022_jp", "csiso2022kr", "iso2022_kr", "iso2022kr", "iso_2022_kr", "cp1361",
   "johab", "ms1361", "csshiftjis", "s_jis", "shift_jis", "shiftjis", "sjis", "x_mac_japanese", "s_jis_2004",
   "shift_jis_2004", "shiftjis2004", "sjis_2004", "s_jisx0213", "shift_jisx0213", "shiftjisx0213",
   "sjisx0213"]

def otherNames : List String :=
  ["base64", "base64_codec", "base_64", "bz2", "bz2_codec", "hex", "hex_codec", "quopri", "quopri_codec",
   "quoted_printable", "quotedprintable", "rot13", "rot_13", "uu", "uu_codec", "zip", "zlib", "zlib_codec"]

def plainName (s : String) : String :=
  let isSign := fun (c : Char) => !(c.isAlphanum || c = '.')
  "_".intercalate ((splitSigns isSign [] (Text.lower s).toList).filter (!·.isEmpty) |>.map String.ofList)
where
  /-- Splits at every sign; `word` is what was read since the last one, last first. -/
  splitSigns (isSign : Char → Bool) (word : List Char) : List Char → List (List Char)
    | [] => [word.reverse]
    | c :: rest => if isSign c then word.reverse :: splitSigns isSign [] rest else splitSigns isSign (c :: word) rest

def ofName? (codecs : Codecs) (name : String) : Option Charset :=
  let known := plainName name
  ((names.find? fun (_, names) => names.contains known).map (·.1)).or
    (((tables.find? fun t => t.names.contains known).map fun t => .table t.upper).or ((codecs name).map .given))

def charOf? (upper : List Nat) (b : Nat) : Option Char :=
  if b < 128 then some (Char.ofNat b)
  else (upper[b - 128]?).bind fun n => if n = 0 then none else some (Char.ofNat n)

def decode? : Charset → List Nat → Option (List Char)
  | ascii, bytes => if bytes.all (· < 128) then some (bytes.map Char.ofNat) else none
  | latin, bytes => some (bytes.map Char.ofNat)
  | utf8 isSigned, bytes =>
    fromUtf8 (if isSigned && [0xEF, 0xBB, 0xBF].isPrefixOf bytes then bytes.drop 3 else bytes)
  | table upper, bytes => bytes.mapM (charOf? upper)
  | given codec, bytes => codec.decode? bytes

/-! ### Stray bytes

A byte that spells no character is kept in a text as a mark and a character that stands for it.  A mark that is meant as
a character is written twice.
-/

def mark : Char := Char.ofNat 0x10FF00

def marked : Char ⊕ Nat → List Char
  | .inl c => if c = mark then [mark, mark] else [c]
  | .inr b => [mark, Char.ofNat (mark.toNat + b)]

/-- A text as the characters and the stray bytes that it is made of. -/
def unmarked : List Char → List (Char ⊕ Nat)
  | [] => []
  | [c] => [.inl c]
  | c :: d :: rest =>
    if c != mark then .inl c :: unmarked (d :: rest)
    else (if d = mark then .inl mark else .inr (d.toNat - mark.toNat)) :: unmarked rest

def decodeKeeping (charset : Option Charset) (bytes : List Nat) : Option (List Char) :=
  let plain := fun (upper : List Nat) => bytes.map fun b => ((charOf? upper b).map Sum.inl).getD (.inr b)
  let pieces : Option (List (Char ⊕ Nat)) :=
    if bytes.isEmpty then some []
    else match charset.bind (decode? · bytes), charset with
      | some cs, _ => some (cs.map .inl)
      | none, some (table upper) => some (plain upper)
      | none, some (given codec) => codec.keep? bytes
      | none, _ => some (plain [])
  pieces.map (·.flatMap marked)

/-- A text whose stray bytes are read as UTF-8, together with what is around them. -/
def mended (cs : List Char) : String :=
  let pieces := unmarked cs
  if pieces.any Sum.isRight then Text.lossy (pieces.flatMap (Sum.elim utf8Char ([·])))
  else String.ofList (pieces.filterMap Sum.getLeft?)

end Charset

end WarehouseMigration.Text
