import WarehouseMigration.Reconcile.Table
import WarehouseMigration.Session

/-!
# Data sources

Where schemas and rows come from.  A source that holds its schemas and frames in memory stands in for a database.
-/

namespace WarehouseMigration.Reconcile

/-- A source of schemas and rows. -/
structure DataSource where
  normalize : String → Identifier
  /-- the columns of a table of a catalog and schema; the flag asks for normalised names -/
  columns : Option String → String → String → Bool → Flow (List Column)
  /-- the rows that a query on a table gives -/
  read : Option String → String → String → String → Option ReaderOptions → Flow Value

def fetchFailure (what subject reason : String) : Failure :=
  .dataSource s!"Runtime exception occurred while fetching {what} using {subject} : {reason}"

def rowField (row : Value) (name : String) : Outcome Value :=
  match row.get? name with
  | some v => pure v
  | none => throw (.noMember name)

namespace DataSource

def memoryKey (catalog : Option String) (schema name : String) : List String := [catalog.getD "", schema, name]

def memoryPlace (catalog : Option String) (schema name : String) : String :=
  let catalog := catalog.getD "None"
  s!"({catalog}, {schema}, {name})"

def memoryColumns (tables : List (List String × List Column)) (reason : String) (catalog : Option String)
    (schema table : String) : Outcome (List Column) :=
  match tables.lookup (memoryKey catalog schema table) with
  | some (c :: rest) => pure (c :: rest)
  | _ => throw (fetchFailure "schema" (memoryPlace catalog schema table) reason)

def memoryFrame (frames : List (List String × Value)) (reason : String) (catalog : Option String)
    (schema query : String) : Outcome Value :=
  match frames.lookup (memoryKey catalog schema query) with
  | some frame =>
    if frame.isSet then pure frame else throw (fetchFailure "data" (memoryPlace catalog schema query) reason)
  | none => throw (fetchFailure "data" (memoryPlace catalog schema query) reason)

def memory (tables : List (List String × List Column)) (frames : List (List String × Value))
    (reason : String := "Mock Exception") : DataSource where
  normalize := Connector.memory.normalize
  columns := fun catalog schema table _ => Flow.ofOutcome (memoryColumns tables reason catalog schema table)
  read := fun catalog schema _ query _ => Flow.ofOutcome (memoryFrame frames reason catalog schema query)

end DataSource

end WarehouseMigration.Reconcile
