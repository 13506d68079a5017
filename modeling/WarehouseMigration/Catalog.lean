import WarehouseMigration.Workspace

/-!
# Catalogs

The catalogs, schemas and volumes of a workspace, and who may use them.  A user may use what they own, and what they
were granted all privileges of at least one required set for.
-/

namespace WarehouseMigration

/-- Something in a workspace that can be granted. -/
inductive Securable where
  | catalog (name : String)
  | schema (catalog name : String)
  | volume (catalog schema name : String)

namespace Securable

def kind : Securable → String
  | catalog _ => "catalog"
  | schema .. => "schema"
  | volume .. => "volume"

/-- The names of all that it is part of, and its own. -/
def path : Securable → List String
  | catalog name => [name]
  | schema parent name => [parent, name]
  | volume parent place name => [parent, place, name]

def fullName (s : Securable) : String := Text.join "." s.path

def ofPath : List String → Securable
  | [parent, name] => schema parent name
  | [parent, place, name] => volume parent place name
  | names => catalog (names.headD "")

def type (s : Securable) : Value := .constant ("SecurableType." ++ Text.upper s.kind)

def service (s : Securable) : String := s.kind ++ "s"

end Securable

/-- The operations on securables: to look one up, null if there is none, and to create one.  `listed` has the members
of a set in the order in which they are shown, which is any. -/
structure Catalogs where
  find : Securable → Flow Value
  create : Securable → Flow Value
  listed : List Value → List Value

namespace Catalogs

def ofWorkspace (listed : List Value → List Value) : Catalogs where
  find s := Flow.recover (Flow.call (s.service ++ if s.kind == "volume" then ".read" else ".get") [s.fullName])
    fun e => if Installation.isAbsent e then some (pure .null) else none
  create s := Flow.call (s.service ++ ".create") (match s with
    | .catalog name => [name]
    | .schema catalog name => [name, catalog]
    | .volume catalog schema name => [catalog, schema, name, .constant "VolumeType.MANAGED"])
  listed := listed

end Catalogs

namespace Catalog

def privilegesOf (answer : Value) : Outcome (List Value) := do
  if !answer.isSet then return []
  let assignments ← answer.member "privilege_assignments"
  if !assignments.isSet then return []
  let lists ← (← assignments.asItems).mapM fun assignment => do
    let privileges ← assignment.member "privileges"
    if privileges.isSet then (← privileges.asItems).mapM (·.member "privilege") else pure []
  return lists.flatten.filter Value.isSet

def privileges (user type name : Value) : Flow (List Value) := do
  let key := Text.join "/" ["grants", type.shown, name.shown, user.shown]
  let granted ← Flow.once key do
    return .list (← Flow.ofOutcome (privilegesOf
      (← Flow.call "grants.get_effective" [type, name] [("principal", user)])))
  return granted.parts

def grants (granted wanted : List Value) : Bool := wanted.all fun privilege => granted.any (· == privilege)

def hasPrivileges (user type name : Value) (wanted : List Value) : Flow Bool := do
  unless user.isSet do throw (.broken "User must be provided")
  unless name.isSet do throw (.broken "Full name must be provided")
  return grants (← privileges user type name) wanted

def hasAny (user type name : Value) : List (List Value) → Flow Bool
  | [] => return false
  | wanted :: rest => do
    if ← hasPrivileges user type name wanted then return true else hasAny user type name rest

def grantedName (s : Securable) (found : Value) : Outcome Value :=
  found.member (if s.kind == "catalog" then "name" else "full_name")

def hasAccess (s : Securable) (found user : Value) (sets : List (List Value)) : Flow Bool := do
  if user == (← Flow.ofOutcome (found.member "owner")) then return true
  if sets.isEmpty then return false
  hasAny user s.type (← Flow.ofOutcome (grantedName s found)) sets

end Catalog

end WarehouseMigration
