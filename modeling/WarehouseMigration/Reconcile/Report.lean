import WarehouseMigration.Reconcile.Capture
import WarehouseMigration.Reconcile.DataSource

/-!
# Reports on a run

The report on a run is read from the tables with its results, and a run is a success only if no table of it failed.
-/

namespace WarehouseMigration.Reconcile

def reportQuery (place runId : String) : String :=
  "\n".intercalate [
    "",
    "    SELECT",
    "    CASE",
    "        WHEN COALESCE(MAIN.SOURCE_TABLE.CATALOG, '') <> '' THEN CONCAT(MAIN.SOURCE_TABLE.CATALOG, '.', MAIN.SOURCE_TABLE.SCHEMA, '.', MAIN.SOURCE_TABLE.TABLE_NAME)",
    "        ELSE CONCAT(MAIN.SOURCE_TABLE.SCHEMA, '.', MAIN.SOURCE_TABLE.TABLE_NAME)",
    "    END AS SOURCE_TABLE,",
    "    CONCAT(MAIN.TARGET_TABLE.CATALOG, '.', MAIN.TARGET_TABLE.SCHEMA, '.', MAIN.TARGET_TABLE.TABLE_NAME) AS TARGET_TABLE,",
    "    CASE WHEN lower(MAIN.report_type) in ('all', 'row', 'data') THEN",
    "    CASE",
    "        WHEN METRICS.recon_metrics.row_comparison.missing_in_source = 0 AND METRICS.recon_metrics.row_comparison.missing_in_target = 0 THEN TRUE",
    "        ELSE FALSE",
    "    END",
    "    ELSE NULL END AS ROW,",
    "    CASE WHEN lower(MAIN.report_type) in ('all', 'data') THEN",
    "    CASE",
    "        WHEN (METRICS.run_metrics.status = true) or",
    "         (METRICS.recon_metrics.column_comparison.absolute_mismatch = 0 AND METRICS.recon_metrics.column_comparison.threshold_mismatch = 0 AND METRICS.recon_metrics.column_comparison.mismatch_columns = '') THEN TRUE",
    "        ELSE FALSE",
    "    END",
    "    ELSE NULL END AS COLUMN,",
    "    CASE WHEN lower(MAIN.report_type) in ('all', 'schema') THEN",
    "    CASE",
    "        WHEN METRICS.recon_metrics.schema_comparison = true THEN TRUE",
    "        ELSE FALSE",
    "    END",
    "    ELSE NULL END AS SCHEMA,",
    "    METRICS.run_metrics.exception_message AS EXCEPTION_MESSAGE",
    "    FROM",
    s!"        {place}.{mainTable} MAIN",
    "    INNER JOIN",
    s!"        {place}.{metricsTable} METRICS",
    "    ON",
    "        (MAIN.recon_table_id = METRICS.recon_table_id)",
    "    WHERE",
    s!"        MAIN.recon_id = '{runId}'",
    "    "]

def aggregateReportQuery (place runId : String) : String :=
  "\n".intercalate [
    "",
    "        SELECT source_table,",
    "         target_table,",
    "          EVERY(status) AS status,",
    "           ARRAY_JOIN(COLLECT_SET(exception_message), '",
    "') AS exception_message",
    "        FROM",
    "        (SELECT",
    "            IF(ISNULL(main.source_table.catalog)",
    "                , CONCAT_WS('.', main.source_table.schema, main.source_table.table_name)",
    "                , CONCAT_WS('.', main.source_table.catalog, main.source_table.schema, main.source_table.table_name)) AS source_table,",
    "            CONCAT_WS('.', main.target_table.catalog, main.target_table.schema, main.target_table.table_name) AS target_table,",
    "            IF(metrics.run_metrics.status='true', TRUE , FALSE) AS status,",
    "            metrics.run_metrics.exception_message AS exception_message",
    "            FROM",
    s!"                {place}.{mainTable} main",
    "            INNER JOIN",
    s!"                {place}.{aggregateMetricsTable} metrics",
    "            ON",
    "                (MAIN.recon_table_id = METRICS.recon_table_id",
    "                AND MAIN.operation_name = 'aggregates-reconcile')",
    "            WHERE",
    s!"                MAIN.recon_id = '{runId}'",
    "        )",
    "        GROUP BY source_table, target_table;",
    "    "]

def TableReport.ofRow (row : Value) (exception target source : String) (status : Outcome Status) :
    Outcome TableReport := do
  let failure ← rowField row exception
  if !failure.isNull && failure != .text "" then
    return ⟨← rowField row target, ← rowField row source, {}, failure⟩
  let target ← rowField row target
  let source ← rowField row source
  return ⟨target, source, ← status, failure⟩

def report (place runId : String) : Flow Report := do
  let rows ← Spark.collect (← Spark.sql (reportQuery place runId))
  let tables ← rows.mapM fun row => Flow.ofOutcome
    (TableReport.ofRow row "EXCEPTION_MESSAGE" "TARGET_TABLE" "SOURCE_TABLE" do
      return { row := ← rowField row "ROW", column := ← rowField row "COLUMN", schema := ← rowField row "SCHEMA" })
  return ⟨runId, tables⟩

def aggregateReport (place runId : String) : Flow Report := do
  let rows ← Spark.collect (← Spark.sql (aggregateReportQuery place runId))
  let tables ← rows.mapM fun row => Flow.ofOutcome
    (TableReport.ofRow row "exception_message" "target_table" "source_table" do
      return { aggregate := ← rowField row "status" })
  return ⟨runId, tables⟩

def isRefusal : Value → Bool
  | .bool b => !b
  | _ => false

def TableReport.isFailed (r : TableReport) : Bool :=
  r.exception.isSet || isRefusal r.status.column || isRefusal r.status.row || isRefusal r.status.schema ||
    isRefusal r.status.aggregate

def Report.verify (r : Report) (operation : String) : Outcome Report :=
  if r.tables.any TableReport.isFailed then
    throw (.reconciliation
      (" Reconciliation failed for one or more tables. Please check the recon metrics for more details." ++
        s!" **{operation}** failed.") (toValue r).shown)
  else pure r

end WarehouseMigration.Reconcile
