import WarehouseMigration.Session.Files
import WarehouseMigration.Text.Charset
import WarehouseMigration.Transpile.Config
import WarehouseMigration.Transpile.Problem

/-!
# Engines

An engine transpiles one text at a time.
-/

namespace WarehouseMigration.Transpile

structure Engine where
  name : Value
  start : Config → Flow Unit := fun _ => pure ()
  stop : Flow Unit := pure ()
  /-- transpiles the text of a file from one dialect to another -/
  transpile : (source target text : String) → Path → Flow Transpiled
  supports : Path → Bool
  /-- the character sets, besides the known ones, in which its results may be spelt -/
  codecs : Text.Codecs := fun _ => none

end WarehouseMigration.Transpile
