import WarehouseMigration.Session.Script
import WarehouseMigration.Workspace

/-!
# Scripted workspaces

A workspace can be rehearsed: the settings of its client, what its installation keeps and what was deployed to it are
then written down beforehand.
-/

namespace WarehouseMigration.Workspace

def keptReply (stored : Value) (kept : Value) : Reply :=
  match stored.get? kept.shown with
  | some v => if kept == .text Kept.tables.name then .value .null else
      match Reply.read v with
      | .failure f => .failure f
      | .value _ => .value v
  | none => .failure (.remote "NotFound" s!"{kept.shown} not found")

def scripted (v : Value) (call : Call) : Option Reply :=
  match call.name, call.parts with
  | "installation.load", kept :: _ => some (keptReply (v.getD "stored") kept)
  | "installation.folder", _ => some (.value "folder")
  | "installation.product", _ => some (.value "remorph test")
  | "installation.link", [file] => some (.value ("link/" ++ file.shown))
  | "current_user.me", _ => some (.value (.object [("user_name", "tester")]))
  | "product.name", _ => some (.value (v.getOr "product" productName))
  | "product.version", _ => some (.value "1.2.3+4")
  | "wheels.upload", _ => some (.value "/wheels/lakebridge-1.whl")
  | _, _ => none

def session (v : Value) (s : Session) : Session := { s with
  client := (v.getD "config").pairs.foldl (fun client (name, value) => Sequence.put name value client)
    [("host", "https://host"), ("warehouse_id", .null), ("_product_info", .list ["other", "1"])]
  jobs := (v.getD "jobs").pairs
  dashboards := (v.getD "dashboards").pairs
  reaction := fun call => scripted v call <|> s.reaction call }

def grants (v : Value) (call : Call) : Option Reply :=
  if call.name != "grants.get_effective" then none else
    (v.get? (Text.join "/" ((call.parts ++ call.named.map (·.2)).map Value.shown))).map fun lists =>
      .value (.object [("privilege_assignments", if lists.isNull then .null else .list (lists.parts.map fun privileges =>
        .object [("privileges", if privileges.isNull then .null else
          .list (privileges.parts.map fun privilege => .object [("privilege", privilege)]))]))])

def state (s : Session) : Value := .map [("jobs", .map s.jobs), ("dashboards", .map s.dashboards)]

end WarehouseMigration.Workspace
