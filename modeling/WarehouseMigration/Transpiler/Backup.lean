import WarehouseMigration.Session.Files

/-!
# Backups

A folder that is about to be replaced is put aside under another name, and comes back if the replacement fails.
-/

namespace WarehouseMigration.Transpiler

structure Backup where
  target : Path
  /-- where the folder is while it is put aside -/
  saved : Option Path := none
  finished : Bool := false

namespace Backup

def savedPath (target : Path) : Path := target.withName (target.name ++ "-saved")

def removeFolder (folder : Path) : Flow Unit := do
  if ← Flow.isFile folder then throw (.file .notADirectory folder.toString)
  Flow.removeTree folder

def start (b : Backup) : Flow Backup := do
  let aside := savedPath b.target
  if ← Flow.pathExists aside then removeFolder aside
  if ← Flow.pathExists b.target then
    Flow.rename b.target aside
    return { b with saved := some aside }
  return { b with saved := none }

def rollback (b : Backup) : Flow Backup := do
  if b.finished then throw (.broken "Can only rollback/commit once.")
  removeFolder b.target
  if let some aside := b.saved then Flow.rename aside b.target
  return { b with saved := none, finished := true }

/-- Keeps what was made and drops the folder that was put aside. -/
def commit (b : Backup) : Flow Backup := do
  if b.finished then throw (.broken "Can only rollback/commit once.")
  if let some aside := b.saved then removeFolder aside
  return { b with saved := none, finished := true }

/-- Runs a task that replaces a folder.  The task tells whether the new folder is to be kept; if not, or if anything
fails, the old one comes back. -/
def guard (target : Path) (task : Flow (α × Bool)) : Flow α := do
  let b ← start { target }
  match ← Flow.attempt (do
    let (a, keep) ← task
    let _ ← if keep then b.commit else b.rollback
    return a) with
  | .ok a => return a
  | .error failure =>
    let _ ← b.rollback
    throw failure

end Backup

end WarehouseMigration.Transpiler
