import WarehouseMigration.Text.Search

/-!
# ASCII forms

Many characters are, up to marks and presentation, ASCII characters: an accented letter is its letter, a ligature its
letters, a wide digit its digit.  The tables give the ASCII characters of the compatibility decomposition of each
character that has any; stretches of characters next to each other share an entry.
-/

namespace WarehouseMigration.Text

/-- The characters of a stretch, in which an ellipsis stands for those between its neighbours, and a dot
for a character without a form. -/
def stretch : List Char → List Char
  | [] => []
  | a :: '…' :: b :: rest => (List.range' a.toNat (b.toNat - a.toNat)).map Char.ofNat ++ stretch (b :: rest)
  | c :: rest => c :: stretch rest

/-- The first character of each stretch, and the ASCII characters for its characters in order. -/
def asciiLetters : List (Nat × String) :=
  [(0xA0, " "),
   (0xA8, " ·a···· ··23 ··· 1o·····AAAAAA·CEEEEIIII·NOOOOO··UUUUY··aaaaaa·ceeeeiiii·nooooo··uuuuy·yAaAaAa"),
   (0x106, "CcCcCcCcDd··EeEeEeEeEeGgGgGgGgHh··IiIiIiIiI···JjKk·LlLlLlLl··NnNnNnn··OoOoOo··RrRrRrSsSsSsSsTt"),
   (0x164, "Tt··UuUuUuUuUuUuWwYyYZzZzZzs"), (0x1A0, "Oo"), (0x1AF, "Uu"),
   (0x1CD, "AaIiOoUuUuUuUuUu·AaAa····GgKkOoOo··j···Gg··NnAa····AaAaEeEeIiIiOoOoRrRrUuUuSsTt··Hh······AaEeO"),
   (0x22B, "oOoOoOoYy"), (0x2B0, "h·jr···wy"), (0x2D8, "      ···lsx"), (0x37A, " ···;·····  "),
   (0x1D2C, "A·B·DE·G…N·O·PRTUWa···bde···g·km·o···ptu··v······iruv"), (0x1D9C, "c···f"), (0x1DBB, "z"),
   (0x1E00, "AaBbBbBbCcDdDdDdDdDdEeEeEeEeEeFfGgHhHhHhHhHhIiIiKkKkKkLlLlLlLlMmMmMmNnNnNnNnOoOoOoOoPpPpRrRrRr"),
   (0x1E5E, "RrSsSsSsSsSsTtTtTtTtUuUuUuUuUuVvVvWwWwWwWwWwXxXxYyZzZzZzhtwyas····AaAaAaAaAaAaAaAaAaAaAaAaEeEe"),
   (0x1EBC, "EeEeEeEeEeEeIiIiOoOoOoOoOoOoOoOoOoOoOoOoUuUuUuUuUuUuUuYyYyYyYy"), (0x1FBD, " ·   "), (0x1FCD, "   "),
   (0x1FDD, "   "), (0x1FED, "  \x60"), (0x1FFD, "  ·           "), (0x2017, " "), (0x2024, "."), (0x202F, " "),
   (0x203E, " "), (0x205F, " "), (0x2070, "0i··4…9+·=()n0…9+·=()·aeox·hklmnpst"),
   (0x2102, "CC·····FgHHHh·IILl·N···PQRRR······Z···Z·KABC·eEF·Mo····i"), (0x2145, "Ddeij"),
   (0x215F, "1I···V····X··LCDMi···v····x··lcdm"), (0x2260, "="), (0x226E, "<>"), (0x24B6, "A…Za…z0"), (0x2C7C, "jV"),
   (0x3000, " "), (0x309B, "  "), (0x3382, "A"), (0x338C, "Fg"), (0x3395, "l·····m"), (0x33B2, "s···V·····W···kM"),
   (0xA7F2, "CFQ"), (0xFB29, "+"), (0xFC5E, "      "), (0xFDFB, " "), (0xFE10, ",··:;!?"), (0xFE33, "__()\x7b\x7d"),
   (0xFE47, "[]    ___,·.·;:?!·()\x7b\x7d··#&*+-<>=·\\$%@···· · · · · · · · "), (0xFF01, "!…~"), (0xFFE3, " "),
   (0x107A5, "q"),
   (0x1D400, "A…Za…zA…Za…g·i…zA…Za…zA·CD··G··JK··NOPQ·S…Zabcd·f·h…n·p…zA…Za…zAB·DEFG··J…Q·S…Y·a…zAB·DEFG·IJK"),
   (0x1D543, "LM·O···S…Y·a…zA…Za…zA…Za…zA…Za…zA…Za…zA…Za…zA…Za…z"), (0x1D7CE, "0…90…90…90…90…9"),
   (0x1F12A, "SCR···A…Z"), (0x1FBF0, "0…9")]

/-- The same for characters that stand for several ASCII characters, whose forms are divided by strokes. -/
def asciiForms : List (Nat × String) :=
  [(0xBC, "14|12|34"), (0x132, "IJ|ij"), (0x1C4, "DZ|Dz|dz|LJ|Lj|lj|NJ|Nj|nj"), (0x1F1, "DZ|Dz|dz"),
   (0x2025, "..|..."), (0x203C, "!!|||||||||||??|?!|!?"), (0x20A8, "Rs"), (0x2100, "a/c|a/s||||c/o|c/u"),
   (0x2116, "No||||||||||SM|TEL|TM"), (0x213B, "FAX"),
   (0x2150, "17|19|110|13|23|15|25|35|45|16|56|18|38|58|78|||II|III|IV||VI|VII|VIII|IX||XI|XII||||||ii|iii|iv"),
   (0x2175, "vi|vii|viii|ix||xi|xii"), (0x2189, "03"), (0x2A74, "::=|==|==="), (0x3250, "PTE"),
   (0x32CC, "Hg|erg|eV|LTD"),
   (0x3371, "hPa|da|AU|bar|oV|pc|dm|dm2|dm3|IU||||||pA|nA||mA|kA|KB|MB|GB|cal|kcal|pF|nF|||mg|kg|Hz|kHz|MHz"),
   (0x3393, "GHz|THz||ml|dl|kl|fm|nm||mm|cm|km|mm2|cm2|m2|km2|mm3|cm3|m3|km3|ms|ms2|Pa|kPa|MPa|GPa|rad|rads"),
   (0x33AF, "rads2|ps|ns||ms|pV|nV||mV|kV|MV|pW|nW||mW|kW|MW|||a.m.|Bq|cc|cd|Ckg|Co.|dB|Gy|ha|HP|in|KK|KM|kt"),
   (0x33D0, "lm|ln|log|lx|mb|mil|mol|PH|p.m.|PPM|PR|sr|Sv|Wb|Vm|Am"), (0x33FF, "gal"),
   (0xFB00, "ff|fi|fl|ffi|ffl|st|st"), (0xFDFA, "   "), (0xFE19, "..."), (0xFE30, ".."), (0x1F100, "0."),
   (0x1F12D, "CD|WZ"), (0x1F14A, "HV|MV|SD|SS|PPV|WC"), (0x1F16A, "MC|MD|MR"), (0x1F190, "DJ")]

/-- The same for numbers and letters that are counted through. -/
def asciiSeries : List (Nat × List String) :=
  let count := fun first n => (List.range' first n).map toString
  let within := List.map fun s => s!"({s})"
  let letters := fun (s : String) => (stretch s.toList).map String.singleton
  [(0x2460, count 1 20), (0x2474, within (count 1 20)), (0x2488, (count 1 20).map (· ++ ".")),
   (0x249C, within (letters "a…z")), (0x3200, .replicate 31 "()"), (0x3220, .replicate 36 "()"), (0x3251, count 21 15),
   (0x32B1, count 36 15), (0x32C0, count 1 12), (0x3358, count 0 25), (0x33E0, count 1 31),
   (0x1F101, (count 0 10).map (· ++ ",")), (0x1F110, within (letters "A…Z"))]

def entry (code first : Nat) (forms : List α) : Option α := if first ≤ code then forms[code - first]? else none

def asciiForm (code : Nat) : List Char :=
  let letter := asciiLetters.findSome? fun (first, letters) =>
    (entry code first (stretch letters.toList)).bind fun c => if c = '·' then none else some [c]
  let forms := asciiSeries ++ asciiForms.map fun (first, forms) => (first, split forms "|")
  letter.getD ((forms.findSome? fun (first, forms) => entry code first forms).getD "").toList

def toAscii (s : String) : List Char := s.toList.flatMap fun c => if c.toNat < 128 then [c] else asciiForm c.toNat

end WarehouseMigration.Text
