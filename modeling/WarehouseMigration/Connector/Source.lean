import WarehouseMigration.Connector.Secret
import WarehouseMigration.Reconcile.DataSource
import WarehouseMigration.Reconcile.Volume

/-!
# Reading from databases

How each connector asks for the columns and the rows of a table.
-/

namespace WarehouseMigration.Connector

open Reconcile

def oneLine (query : String) : String := String.ofList (go false query.toList)
where
  go (inBlank : Bool) : List Char → List Char
    | [] => []
    | c :: rest =>
      if Text.isBlank c then if inBlank then go true rest else ' ' :: go true rest
      else c :: go false rest

variable (connector : Connector)

def columnsQuery (catalog : Option String) (schema table : String) : String :=
  let named := catalog.getD "None"
  match connector with
  | databricks | memory =>
    let catalog := match catalog with
      | some c => if c = "" then "hive_metastore" else c
      | none => "hive_metastore"
    if schema = "global_temp" then s!"describe table global_temp.{table}"
    else if catalog = "hive_metastore" then s!"describe table {catalog}.{schema}.{table}"
    else oneLine ("select lower(column_name) as column_name, full_data_type as data_type "
      ++ s!"from {catalog}.information_schema.columns where lower(table_catalog)='{catalog}' "
      ++ s!"and lower(table_schema)='{schema}' and lower(table_name) ='{table}' order by column_name")
  | oracle => oneLine ("select column_name, case when (data_precision is not null and data_scale <> 0) "
      ++ "then data_type || '(' || data_precision || ',' || data_scale || ')' "
      ++ "when (data_precision is not null and data_scale = 0) then data_type || '(' || data_precision || ')' "
      ++ "when data_precision is null and (lower(data_type) in ('date') or lower(data_type) like 'timestamp%') "
      ++ "then data_type when CHAR_LENGTH = 0 then data_type else data_type || '(' || CHAR_LENGTH || ')' end data_type "
      ++ s!"FROM ALL_TAB_COLUMNS WHERE lower(TABLE_NAME) = '{table}' and lower(owner) = '{schema}'")
  | tsql => oneLine ("SELECT COLUMN_NAME AS 'column_name', CASE WHEN DATA_TYPE IN ('int', 'bigint') THEN DATA_TYPE "
      ++ "WHEN DATA_TYPE IN ('smallint', 'tinyint') THEN 'smallint' WHEN DATA_TYPE IN ('decimal' ,'numeric') "
      ++ "THEN 'decimal(' + CAST(NUMERIC_PRECISION AS VARCHAR) + ',' + CAST(NUMERIC_SCALE AS VARCHAR) + ')' "
      ++ "WHEN DATA_TYPE IN ('float', 'real') THEN 'double' WHEN CHARACTER_MAXIMUM_LENGTH IS NOT NULL "
      ++ "AND DATA_TYPE IN ('varchar','char','text','nchar','nvarchar','ntext') THEN DATA_TYPE "
      ++ "WHEN DATA_TYPE IN ('date','time','datetime', 'datetime2','smalldatetime','datetimeoffset') THEN DATA_TYPE "
      ++ "WHEN DATA_TYPE IN ('bit') THEN 'boolean' WHEN DATA_TYPE IN ('binary','varbinary') THEN 'binary' "
      ++ "ELSE DATA_TYPE END AS 'data_type' FROM INFORMATION_SCHEMA.COLUMNS "
      ++ s!"WHERE LOWER(TABLE_NAME) = LOWER('{table}') AND LOWER(TABLE_SCHEMA) = LOWER('{schema}') "
      ++ s!"AND LOWER(TABLE_CATALOG) = LOWER('{named}') ")
  | snowflake =>
    let schema := Text.upper schema
    oneLine ("select column_name, case when numeric_precision is not null and numeric_scale is not null "
      ++ "then concat(data_type, '(', numeric_precision, ',' , numeric_scale, ')') when lower(data_type) = 'text' "
      ++ "then concat('varchar', '(', CHARACTER_MAXIMUM_LENGTH, ')') else data_type end as data_type "
      ++ s!"from {named}.INFORMATION_SCHEMA.COLUMNS where lower(table_name)='{table}' and table_schema = '{schema}' "
      ++ "order by ordinal_position")

/-! ### Addresses -/

def address (connector : Connector) (scope : String) : Flow String := do
  let secret := Secret.fetch scope
  match connector with
  | oracle =>
    let user ← secret "user"
    let password ← secret "password"
    let host ← secret "host"
    let port ← secret "port"
    let database ← secret "database"
    return s!"jdbc:oracle:thin:{user}/{password}@//{host}:{port}/{database}"
  | tsql =>
    let host ← secret "host"
    let port ← secret "port"
    let database ← secret "database"
    let user ← secret "user"
    let password ← secret "password"
    let encrypt ← secret "encrypt"
    let trust ← secret "trustServerCertificate"
    return s!"jdbc:sqlserver://{host}:{port};databaseName={database};user={user};password={password};" ++
      s!"encrypt={encrypt};trustServerCertificate={trust};"
  | snowflake =>
    let password ← match ← (secret "sfPassword").attempt with
      | .ok p => pure p
      | .error e =>
        if Secret.isAbsence e then
          throw (.remote "NotFound" "sfPassword is mandatory for jdbc connectivity with Snowflake.")
        else throw e
    let account ← secret "sfAccount"
    let user ← secret "sfUser"
    let database ← secret "sfDatabase"
    let schema ← secret "sfSchema"
    let warehouse ← secret "sfWarehouse"
    let role ← secret "sfRole"
    return s!"jdbc:snowflake://{account}.snowflakecomputing.com/?user={user}&password={password}" ++
      s!"&db={database}&schema={schema}&warehouse={warehouse}&role={role}"
  | _ => throw (.noMember "no address")

def driver : Connector → String
  | oracle => "oracle.jdbc.driver.OracleDriver"
  | snowflake => "net.snowflake.client.jdbc.SnowflakeDriver"
  | _ => "com.microsoft.sqlserver.jdbc.SQLServerDriver"

def driverReader (scope query : String) (prepare : Option String) : Flow Value := do
  let url ← connector.address scope
  let reader ← Spark.make (Spark.member Spark.session "read") "format" ["jdbc"]
  let reader ← Spark.make reader "option" ["url", url]
  let reader ← Spark.make reader "option" ["driver", connector.driver]
  let reader ← Spark.make reader "option" ["dbtable", s!"({query}) tmp"]
  match prepare with
  | some text => Spark.make reader "option" ["prepareQuery", text]
  | none => return reader

def snowflakeAccess (scope : String) : Flow (List (String × Value)) := do
  let key : Flow String := do
    let pem ← Secret.fetch scope "pem_private_key"
    let password ← Secret.fetch? scope "pem_private_key_password"
    Flow.ofOutcome (PrivateKey.ofPem pem password)
  match ← key.attempt with
  | .ok key => return [("pem_private_key", key)]
  | .error e =>
    if !Secret.isAbsence e then throw e
    match ← (Secret.fetch scope "sfPassword").attempt with
    | .ok password => return [("sfPassword", password)]
    | .error e =>
      if Secret.isAbsence e then throw (.remote "NotFound"
        "sfPassword and pem_private_key not found. Either one is required for snowflake auth.")
      else throw e

def snowflakeReader (scope query : String) : Flow Value := do
  let options ← ["sfUrl", "sfUser", "sfDatabase", "sfSchema", "sfWarehouse", "sfRole"].mapM fun key => do
    return (key, Value.text (← Secret.fetch scope key))
  let access ← snowflakeAccess scope
  let reader ← Spark.make (Spark.member Spark.session "read") "format" ["snowflake"]
  let reader ← Spark.make reader "option" ["dbtable", s!"({query}) as tmp"]
  Spark.make reader "options" [] (options ++ access)

def reader (scope query : String) (prepare : String) : Flow Value :=
  match connector with
  | snowflake => snowflakeReader scope query
  | tsql => driverReader tsql scope query (some prepare)
  | other => driverReader other scope query none

/-! ### Reading -/

def isReadFailure : Failure → Bool
  | .runtime _ => true
  | e => Volume.isSparkFailure e

/-- Puts failures of reading into words. -/
def fetching (what query : String) (flow : Flow α) : Flow α := do
  match ← flow.attempt with
  | .ok a => return a
  | .error e => throw (if isReadFailure e then fetchFailure what query e.message else e)

def lowerColumns (frame : Value) : Flow Value := do
  let columns := (← Spark.columns frame).map fun c => Spark.applied (Spark.column c) "alias" [Text.lower c]
  Spark.make frame "select" [.list columns]

def columnOf (normalize : Bool) (row : Value) : Outcome Column := do
  let name := Text.lower (← (← rowField row "column_name").asText)
  let type := Text.lower (Text.strip (← (← rowField row "data_type").asText))
  if normalize then
    let spelt := connector.normalize name
    return ⟨spelt.ansi, type, spelt.ansi, spelt.source⟩
  return ⟨name, type, name, name⟩

def columns (scope : String) (catalog : Option String) (schema table : String)
    (normalize : Bool) : Flow (List Column) := do
  let query := connector.columnsQuery catalog schema table
  fetching "schema" query do
    let rows ← match connector with
      | databricks | memory => do
        let frame ← Spark.make (← Spark.sql query) "where" ["column_name not like '#%'"]
        Spark.collect (← Spark.make frame "distinct")
      | _ => do
        let frame ← Spark.make (← connector.reader scope query "") "load"
        Spark.collect (← lowerColumns frame)
    rows.mapM fun row => Flow.ofOutcome (connector.columnOf normalize row)

def tablePlace (catalog : Option String) (schema table : String) : String :=
  let named := catalog.getD "None"
  match connector with
  | databricks | memory =>
    if schema = "global_temp" then s!"global_temp.{table}"
    else
      let catalog := if named = "" || catalog.isNone then "hive_metastore" else named
      s!"{catalog}.{schema}.{table}"
  | oracle => s!"{schema}.{table}"
  | tsql =>
    let spelt := (tsql.normalize table).source
    s!"{named}.{schema}.{spelt}"
  | snowflake => s!"{named}.{schema}.{table}"

def isLetter (letter c : Char) : Bool :=
  c.toLower = letter || (letter = 's' && c = 'ſ') || (letter = 'i' && (c = 'ı' || c = 'İ'))

def beginsWith : List Char → List Char → Bool
  | [], _ => true
  | _, [] => false
  | k :: keyword, c :: rest => isLetter k c && beginsWith keyword rest

def expressionEnd : List Char → Option (List Char)
  | [] => none
  | c :: rest =>
    let blanks := rest.takeWhile Text.isBlank
    if c = ')' && beginsWith "select".toList (rest.dropWhile Text.isBlank) then some (c :: blanks)
    else (c :: ·) <$> expressionEnd rest

def commonExpression? : List Char → Option (List Char)
  | [] => none
  | c :: rest =>
    if beginsWith "with".toList (c :: rest) && (rest.drop 3).head?.any Text.isBlank then
      match expressionEnd (rest.drop 4) with
      | some tail => some (c :: rest.take 4 ++ tail)
      | none => commonExpression? rest
    else commonExpression? rest

def splitExpression (query : String) : String × String :=
  match commonExpression? query.toList with
  | some expression => (Text.replace query (String.ofList expression) "", String.ofList expression)
  | none => (query, "")

def oracleTimes : List (String × Value) :=
  [("oracle.jdbc.mapDateToTimestamp", "False"),
   ("sessionInitStatement", "BEGIN dbms_session.set_nls('nls_date_format', '''YYYY-MM-DD''');" ++
      "dbms_session.set_nls('nls_timestamp_format', '''YYYY-MM-DD HH24:MI:SS''');END;")]

/-- The rows that a query on a table gives; `:tbl` stands for the table. -/
def read (scope : String) (catalog : Option String) (schema table query : String)
    (options : Option ReaderOptions) : Flow Value := do
  let query := Text.replace query ":tbl" (connector.tablePlace catalog schema table)
  fetching "data" query do
    match connector, options with
    | databricks, _ | memory, _ => lowerColumns (← Spark.sql query)
    | oracle, none => Spark.make (← Spark.make (← oracle.reader scope query "") "options" [] oracleTimes) "load"
    | oracle, some o =>
      let reader ← Spark.make (← oracle.reader scope query "") "options" [] (o.forReader ++ oracleTimes)
      lowerColumns (← Spark.make reader "load")
    | tsql, none =>
      let (query, prepare) := splitExpression query
      lowerColumns (← Spark.make (← tsql.reader scope query prepare) "load")
    | other, none => lowerColumns (← Spark.make (← other.reader scope query "") "load")
    | other, some o =>
      let reader ← Spark.make (← other.driverReader scope query none) "options" [] o.forReader
      lowerColumns (← Spark.make reader "load")

def dataSource (scope : String) : DataSource where
  normalize := connector.normalize
  columns := connector.columns scope
  read := connector.read scope

end WarehouseMigration.Connector
