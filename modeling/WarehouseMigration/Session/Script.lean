import WarehouseMigration.Session

/-!
# Scripts

A session can be rehearsed: the answers of the operator and of the services, and the files, are then written down
beforehand.
-/

namespace WarehouseMigration

def remoteKinds : List String :=
  ["NotFound", "PermissionDenied", "ResourceDoesNotExist", "ResourceAlreadyExists", "DatabricksError", "ParseError",
   "TokenError", "UnsupportedError", "SerdeError", "InvalidParameterValue", "InternalError", "DeadlineExceeded",
   "PySparkException", "OperationalError"]

mutual

def Value.scripted : Value → Value
  | .list items => .list (scriptedItems items)
  | .map [("object", .map fields)] => .object (scriptedFields fields)
  | .map [("constant", .text name)] => .constant name
  | v => v

def scriptedItems : List Value → List Value
  | [] => []
  | v :: rest => Value.scripted v :: scriptedItems rest

def scriptedFields : List (String × Value) → List (String × Value)
  | [] => []
  | (key, v) :: rest => (key, Value.scripted v) :: scriptedFields rest

end

def Reply.read (v : Value) : Reply :=
  match v.get? "raise" with
  | some kind =>
    let message := (v.getOr "message" "").shown
    .failure (if remoteKinds.contains kind.shown then .remote kind.shown message else .invalid message)
  | none => .value v.scripted

def Reply.readAll (v : Value) : List Reply := v.parts.map Reply.read

/-- Files given as a map from paths: a text is the content, null stands for a folder, and anything else under `json`
is written in that format. -/
def FileTree.ofValue (v : Value) : FileTree :=
  v.pairs.foldl (fun tree (path, content) =>
    let place := (Path.ofString path).parts
    match content with
    | .null => (tree.withParents place).put place .directory
    | .text s => tree.addFile place (.text s)
    | v => tree.addFile place (.text (Json.render (v.getD "json")))) .empty

def Session.scripted (v : Value) : Session where
  answers := Reply.readAll (v.getD "answers")
  replies := (v.getD "replies").pairs.map fun (service, replies) => (service, Reply.readAll replies)
  files := FileTree.ofValue (v.getD "files")

end WarehouseMigration
