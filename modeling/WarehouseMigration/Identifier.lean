import WarehouseMigration.Text.Blank
import WarehouseMigration.Text.LetterCase
import WarehouseMigration.Text.Search
import WarehouseMigration.Value.Basic

/-!
# Identifiers

Column and table names as databases write them.  A name may stand between delimiters, in which the closing
delimiter is doubled inside the name.  A normalised identifier has two spellings: the ANSI one, between backticks,
by which names of different databases are compared, and the one of the database it belongs to.
-/

namespace WarehouseMigration

/-- The marks around a delimited identifier. -/
structure Delimiters where
  opening : List Char
  closing : List Char
deriving DecidableEq

/-- The two spellings of a normalised identifier. -/
structure Identifier where
  ansi : String
  source : String
deriving DecidableEq

namespace Delimiters

def both (mark : Char) : Delimiters := ⟨[mark], [mark]⟩

def ansi : Delimiters := both '\x60'

variable (d : Delimiters)

def surround (name : List Char) : Bool :=
  d.opening.isPrefixOf name && d.closing.isSuffixOf name

def wrap (name : List Char) : List Char := d.opening ++ name ++ d.closing

def unwrap (name : List Char) : List Char := Text.dropTail d.closing (Text.dropStart d.opening name)

/-- Halves every doubled closing mark. -/
def unescape (name : List Char) : List Char :=
  Text.replaceChars (d.closing ++ d.closing) d.closing name

def escape (name : List Char) : List Char :=
  if name.isEmpty then name
  else d.wrap (Text.replaceChars d.closing (d.closing ++ d.closing) (Text.inner name))

/-- A name that may stand between the marks `d`, put between the marks `wanted`; nothing is doubled or halved. -/
def exchange (d wanted : Delimiters) (name : List Char) : List Char :=
  if name.isEmpty then []
  else if wanted.surround name then name
  else if d.surround name then wanted.wrap (d.unwrap name)
  else wanted.wrap name

end Delimiters

namespace Identifier

open Delimiters (ansi)

/-- The ANSI spelling of a trimmed, lower-case name in a database with delimiters `d`. -/
def ansiChars (d : Delimiters) (name : List Char) : List Char :=
  let quoted := d.exchange .ansi name
  if quoted = name then quoted
  else
    let escaped := Delimiters.ansi.escape (d.unescape quoted)
    if d.closing = Delimiters.ansi.closing then escaped else d.unescape escaped

/-- The spelling of a trimmed, lower-case name in a database with delimiters `d`. -/
def sourceChars (d : Delimiters) (name : List Char) : List Char :=
  let quoted := d.exchange .ansi name
  if quoted = name then
    let own := Delimiters.ansi.exchange d name
    if own = quoted then own else d.escape (Delimiters.ansi.unescape own)
  else
    let own := d.exchange d name
    if own = name then own else d.escape own

def normalize (d : Delimiters) (name : String) : Identifier :=
  let trimmed := Text.lowerChars (Text.trim name.toList)
  ⟨String.ofList (ansiChars d trimmed), String.ofList (sourceChars d trimmed)⟩

def ansiOf (name : String) : String := (normalize .ansi name).ansi

def bare (name : String) : String :=
  String.ofList (Delimiters.ansi.unescape (Text.inner (ansiOf name).toList))

instance : ToValue Identifier :=
  ⟨fun i => .map [("ansi_normalized", i.ansi), ("source_normalized", i.source)]⟩

end Identifier

end WarehouseMigration
