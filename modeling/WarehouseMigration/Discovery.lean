import WarehouseMigration.Database

/-!
# Table discovery

The tables of a server are found by one query.  In its result the columns of a table are one text: the columns are
separated by `‡`, the parts of a column by `§`, and the names of the key by colons.
-/

namespace WarehouseMigration.Discovery

structure TableName where
  catalog : Value
  schema : Value
  name : Value

def TableName.shown (n : TableName) : String :=
  if n.catalog.isSet then s!"{n.catalog.shown}.{n.schema.shown}.{n.name.shown}" else s!"{n.schema.shown}.{n.name.shown}"

structure Column where
  name : String
  kind : String
  nullable : String
  comment : String
deriving DecidableEq

structure TableDefinition where
  name : TableName
  location : Value
  format : Value
  view : Value
  columns : List Column
  key : Option (List String)
  size : Value
  comment : Value

instance : ToValue TableName := ⟨fun n => .map [("catalog", n.catalog), ("schema", n.schema), ("name", n.name)]⟩

instance : ToValue Column := ⟨fun c =>
  .map [("name", c.name), ("data_type", c.kind), ("nullable", c.nullable), ("metadata", .null), ("comment", c.comment)]⟩

instance : ToValue TableDefinition := ⟨fun t =>
  .map [("fqn", t.name), ("location", t.location), ("table_format", t.format), ("view_text", t.view),
    ("columns", t.columns), ("primary_keys", t.key), ("size_gb", t.size), ("comment", t.comment)]⟩

def queryLines (catalog : String) : List String :=
  ["",
   "        WITH column_info AS (",
   "            SELECT",
   "                TABLE_CATALOG,",
   "                TABLE_SCHEMA,",
   "                TABLE_NAME,",
   "                STRING_AGG(",
   "                    CONCAT(",
   "                        column_name,",
   "                        '§',",
   "                        CASE",
   "                            WHEN numeric_precision IS NOT NULL AND numeric_scale IS NOT NULL THEN CONCAT(data_type, '(', numeric_precision, ',', numeric_scale, ')')",
   "                            WHEN LOWER(data_type) = 'text' THEN CONCAT('varchar', '(', CHARACTER_MAXIMUM_LENGTH, ')')",
   "                            ELSE data_type",
   "                        END,",
   "                        '§',",
   "                        CASE",
   "                            WHEN cis.IS_NULLABLE = 'YES' THEN 'true'",
   "                            ELSE 'false'",
   "                        END,",
   "                        '§',",
   "                        ISNULL(CAST(ep_col.value AS NVARCHAR(MAX)), '')",
   "                    ),",
   "                    '‡'",
   "                ) WITHIN GROUP (ORDER BY ordinal_position) AS DERIVED_SCHEMA",
   "            FROM",
   s!"                {catalog}.sys.tables t",
   s!"                INNER JOIN {catalog}.sys.columns c ON t.object_id = c.object_id",
   s!"                INNER JOIN {catalog}.INFORMATION_SCHEMA.COLUMNS cis ON t.name = cis.TABLE_NAME AND c.name = cis.COLUMN_NAME",
   "                OUTER APPLY (",
   "                    SELECT TOP 1 value",
   s!"                    FROM {catalog}.sys.extended_properties",
   "                    WHERE major_id = t.object_id AND minor_id = 0",
   "                    ORDER BY name DESC",
   "                ) ep_tbl",
   "                OUTER APPLY (",
   "                    SELECT TOP 1 value",
   s!"                    FROM {catalog}.sys.extended_properties",
   "                    WHERE major_id = c.object_id AND minor_id = c.column_id",
   "                    ORDER BY name DESC",
   "                ) ep_col",
   "            GROUP BY",
   "                TABLE_CATALOG,",
   "                TABLE_SCHEMA,",
   "                TABLE_NAME",
   "        ),",
   "        table_file_info AS (",
   "            SELECT",
   "                s.name AS TABLE_SCHEMA,",
   "                t.name AS TABLE_NAME,",
   "                f.physical_name AS location,",
   "                f.type_desc AS TABLE_FORMAT,",
   "                CAST(ROUND(SUM(a.used_pages) * 8.0 / 1024, 2) AS DECIMAL(18, 2)) AS SIZE_GB",
   "            FROM",
   s!"                {catalog}.sys.tables t",
   s!"                INNER JOIN {catalog}.sys.indexes i ON t.object_id = i.object_id",
   s!"                INNER JOIN {catalog}.sys.partitions p ON i.object_id = p.object_id AND i.index_id = p.index_id",
   s!"                INNER JOIN {catalog}.sys.allocation_units a ON p.partition_id = a.container_id",
   s!"                INNER JOIN {catalog}.sys.schemas s ON t.schema_id = s.schema_id",
   s!"                INNER JOIN {catalog}.sys.database_files f ON a.data_space_id = f.data_space_id",
   s!"                LEFT JOIN {catalog}.sys.extended_properties ep ON ep.major_id = t.object_id AND ep.minor_id = 0",
   "            GROUP BY",
   "                s.name,",
   "                t.name,",
   "                f.name,",
   "                f.physical_name,",
   "                f.type_desc",
   "        ),",
   "        table_comment_info AS (",
   "            SELECT",
   "                s.name AS TABLE_SCHEMA,",
   "                t.name AS TABLE_NAME,",
   "                CAST(ep.value AS NVARCHAR(MAX)) AS TABLE_COMMENT",
   "            FROM",
   s!"                {catalog}.sys.tables t",
   s!"                INNER JOIN {catalog}.sys.schemas s ON t.schema_id = s.schema_id",
   "                OUTER APPLY (",
   "                    SELECT TOP 1 value",
   s!"                    FROM {catalog}.sys.extended_properties",
   "                    WHERE major_id = t.object_id AND minor_id = 0",
   "                    ORDER BY name DESC",
   "                ) ep",
   "        ),",
   "        table_pk_info AS (",
   "            SELECT",
   "                TC.TABLE_CATALOG,",
   "                TC.TABLE_SCHEMA,",
   "                TC.TABLE_NAME,",
   "                STRING_AGG(KU.COLUMN_NAME,':') as PK_COLUMN_NAME",
   s!"                FROM {catalog}.INFORMATION_SCHEMA.TABLE_CONSTRAINTS AS TC",
   s!"                JOIN {catalog}.INFORMATION_SCHEMA.KEY_COLUMN_USAGE AS KU",
   "                ON TC.CONSTRAINT_NAME = KU.CONSTRAINT_NAME",
   "                AND TC.TABLE_NAME = KU.TABLE_NAME",
   "                WHERE TC.CONSTRAINT_TYPE = 'PRIMARY KEY' group by TC.TABLE_CATALOG, TC.TABLE_SCHEMA, TC.TABLE_NAME)",
   "        SELECT",
   "            sft.TABLE_CATALOG,",
   "            sft.TABLE_SCHEMA,",
   "            sft.TABLE_NAME,",
   "            tfi.location,",
   "            tfi.TABLE_FORMAT,",
   "            '' as view_definition,",
   "            column_info.DERIVED_SCHEMA,",
   "            tfi.SIZE_GB,",
   "            tci.TABLE_COMMENT,",
   "            tpK.PK_COLUMN_NAME",
   "        FROM",
   "            column_info",
   s!"            JOIN {catalog}.INFORMATION_SCHEMA.TABLES sft ON column_info.TABLE_CATALOG = sft.TABLE_CATALOG AND column_info.TABLE_SCHEMA = sft.TABLE_SCHEMA AND column_info.TABLE_NAME = sft.TABLE_NAME",
   "            LEFT JOIN table_file_info tfi ON column_info.TABLE_SCHEMA = tfi.TABLE_SCHEMA AND column_info.TABLE_NAME = tfi.TABLE_NAME",
   "            LEFT JOIN table_comment_info tci ON column_info.TABLE_SCHEMA = tci.TABLE_SCHEMA AND column_info.TABLE_NAME = tci.TABLE_NAME",
   "            LEFT JOIN table_pk_info tpK ON column_info.TABLE_SCHEMA = tpK.TABLE_SCHEMA AND column_info.TABLE_NAME = tpK.TABLE_NAME",
   "",
   "        UNION ALL",
   "        SELECT",
   "            sfv.TABLE_CATALOG,",
   "            sfv.TABLE_SCHEMA,",
   "            sfv.TABLE_NAME,",
   "            '' location,",
   "            '' TABLE_FORMAT,",
   "            sfv.view_definition,",
   "            '' DERIVED_SCHEMA,",
   "            0 SIZE_GB,",
   "            '' TABLE_COMMENT,",
   "            '' PK_COLUMN_NAME",
   s!"        FROM {catalog}.INFORMATION_SCHEMA.VIEWS sfv",
   "        "]

def tablesQuery (catalog : String) : String := "\n".intercalate (queryLines catalog)

def catalogsQuery : String := "select name from sys.databases"

def Column.parse (text : String) : Outcome Column :=
  match Text.split text "§" with
  | name :: kind :: nullable :: comment :: _ => pure ⟨name, kind, nullable, comment⟩
  | _ => throw (.noIndex "list index out of range")

def pieces (v : Value) (separator : String) : Outcome (Option (List String)) := do
  if v.isSet then return some (Text.split (← v.asText) separator) else return none

def columnsOf (v : Value) : Outcome (List Column) := do
  match ← pieces v "‡" with
  | none => return []
  | some texts => texts.mapM Column.parse

def TableDefinition.ofRow (columns : List String) (row : List Value) : Outcome TableDefinition := do
  let entries := Value.map (Sequence.lastOf (columns.zip row))
  let catalog ← Database.need entries "TABLE_CATALOG"
  let schema ← Database.need entries "TABLE_SCHEMA"
  let name ← Database.need entries "TABLE_NAME"
  let fields ← columnsOf (← Database.need entries "DERIVED_SCHEMA")
  let key ← pieces (← Database.need entries "PK_COLUMN_NAME") ":"
  let location ← Database.need entries "location"
  let format ← Database.need entries "TABLE_FORMAT"
  let view ← Database.need entries "view_definition"
  let size ← Database.need entries "SIZE_GB"
  return ⟨⟨catalog, schema, name⟩, location, format, view, fields, key, size, ← Database.need entries "TABLE_COMMENT"⟩

def definitions (columns : List String) (rows : List (List Value)) : Outcome (List TableDefinition) :=
  rows.mapM (TableDefinition.ofRow columns)

def tables (catalog : String) : Flow (List TableDefinition) := do
  let result ← Flow.call "query" [tablesQuery catalog]
  Flow.ofOutcome (definitions ((result.getD "keys").parts.map Value.shown) ((result.getD "rows").parts.map Value.parts))

def firstOf : Value → Outcome Value
  | .list (v :: _) => pure v
  | .list [] => throw (.noIndex "tuple index out of range")
  | _ => throw (.wrongKind "not a row")

def catalogs : Flow (List Value) := do
  let result ← Flow.call "query" [catalogsQuery]
  let names ← Flow.ofOutcome ((result.getD "rows").parts.mapM firstOf)
  Flow.printLine (Value.list names).shown
  return names

end WarehouseMigration.Discovery
