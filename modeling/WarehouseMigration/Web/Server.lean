import WarehouseMigration.Sql.Engine
import WarehouseMigration.Web.Package
import WarehouseMigration.Web.Request

/-!
# The web server

The server answers one request after the other.  What it keeps between requests are the files in its folder of uploads.
-/

namespace WarehouseMigration.Web

/-! ### The designer

The designer's page shows agents and their tasks.
-/

structure Agent where
  id : Nat
  name : String
  description : String
  kind : String
  status : String
  icon : String
  colorStart : String
  colorEnd : String
  taskCount : Nat
  lastRun : String

instance : ToValue Agent := ⟨fun a => .map [("id", a.id), ("name", a.name), ("description", a.description),
  ("type", a.kind), ("status", a.status), ("icon", a.icon), ("color_start", a.colorStart), ("color_end", a.colorEnd),
  ("task_count", a.taskCount), ("last_run", a.lastRun)]⟩

structure Task where
  id : Nat
  name : String
  agent : String
  agentColor : String
  kind : String
  status : String
  statusIcon : String
  statusColor : String
  progress : Nat

instance : ToValue Task := ⟨fun t => .map [("id", t.id), ("name", t.name), ("agent_name", t.agent),
  ("agent_color", t.agentColor), ("type", t.kind), ("status", t.status), ("status_icon", t.statusIcon),
  ("status_color", t.statusColor), ("progress", t.progress)]⟩

def agents : List Agent :=
  [⟨1, "SQL Transpiler Agent", "Automatically converts SQL queries from various dialects to Databricks SQL",
     "Transpilation", "Active", "fa-exchange-alt", "#2563eb", "#1d4ed8", 12, "2 hours ago"⟩,
   ⟨2, "Schema Migration Agent", "Migrates database schemas and table definitions to Databricks",
     "Schema", "Active", "fa-database", "#3d8fcf", "#2563eb", 8, "1 day ago"⟩,
   ⟨3, "ETL Workflow Agent", "Converts ETL workflows and orchestration jobs to Databricks workflows",
     "Workflow", "Active", "fa-project-diagram", "#1a4d7a", "#0f2a4a", 15, "3 hours ago"⟩,
   ⟨4, "Data Quality Agent", "Validates data quality and ensures migration accuracy",
     "Quality", "Idle", "fa-check-circle", "#60a5fa", "#3d8fcf", 5, "5 days ago"⟩,
   ⟨5, "Performance Optimizer", "Analyzes and optimizes query performance for Databricks",
     "Optimization", "Active", "fa-tachometer-alt", "#0a1929", "#1a4d7a", 7, "6 hours ago"⟩,
   ⟨6, "Reconciliation Agent", "Compares source and target data to ensure migration completeness",
     "Validation", "Active", "fa-balance-scale", "#2563eb", "#60a5fa", 10, "30 minutes ago"⟩]

def tasks : List Task :=
  [⟨1, "Transpile Snowflake Views", "SQL Transpiler Agent", "#2563eb", "SQL Transpilation", "Completed",
     "fa-check-circle", "#10b981", 100⟩,
   ⟨2, "Migrate Customer Schema", "Schema Migration Agent", "#3d8fcf", "Schema Migration", "In Progress",
     "fa-spinner", "#f59e0b", 65⟩,
   ⟨3, "Convert SSIS Package - Daily Load", "ETL Workflow Agent", "#1a4d7a", "Workflow Conversion", "In Progress",
     "fa-spinner", "#f59e0b", 45⟩,
   ⟨4, "Validate Sales Data", "Data Quality Agent", "#60a5fa", "Data Validation", "Pending",
     "fa-clock", "#6b7280", 0⟩,
   ⟨5, "Optimize Report Queries", "Performance Optimizer", "#0a1929", "Performance Tuning", "Completed",
     "fa-check-circle", "#10b981", 100⟩,
   ⟨6, "Reconcile Inventory Tables", "Reconciliation Agent", "#2563eb", "Data Reconciliation", "In Progress",
     "fa-spinner", "#f59e0b", 80⟩,
   ⟨7, "Transpile Oracle Procedures", "SQL Transpiler Agent", "#2563eb", "SQL Transpilation", "Pending",
     "fa-clock", "#6b7280", 0⟩,
   ⟨8, "Migrate Analytics Workflows", "ETL Workflow Agent", "#1a4d7a", "Workflow Conversion", "Completed",
     "fa-check-circle", "#10b981", 100⟩]

/-! ### Answering requests -/

structure Server where
  uploads : Path

namespace Server

def systems : List String :=
  ["snowflake", "teradata", "oracle", "sqlserver", "postgresql", "mysql", "redshift", "bigquery", "synapse", "hive"]

def withSystems : Value := .map [("supported_systems", systems)]

def receive (r : Request) (field kinds : String) : Except String Upload :=
  match (r.files.lookup field).bind List.head? with
  | none => throw "No file selected"
  | some upload =>
    if upload.name == "" then throw "No file selected"
    else if isAllowed upload.name then pure upload
    else throw s!"Invalid file type. Please upload {kinds} files."

variable (server : Server)

def store (upload : Upload) : Flow Path := do
  let path := server.uploads.child (storedName upload.name)
  Flow.change path fun t place => t.write place upload.content
  return path

def answering (what : String) (task : Flow Answer) : Flow Answer := do
  match ← task.attempt with
  | .ok answer => return answer
  | .error e => return .failure what e

/-! ### What can be asked for -/

/-- Takes a file that is to be transpiled.  There is no configuration for it, so that the request fails once the file is
stored. -/
def transpile (r : Request) : Flow Answer :=
  match receive r "sql_file" ".sql, .txt, or .zip" with
  | .error message => return .back r message
  | .ok upload => answering "Server" do
    let _ ← server.store upload
    throw (.wrongKind "TranspileConfig.__init__() got an unexpected keyword argument 'input_path'")

def analyse (r : Request) : Flow Answer :=
  if ((r.files.lookup "project_files").getD []).all (·.name == "") then return .back r "No files selected"
  else answering "Analysis" do
    throw (.wrongKind "AnalyzerPrompts.__init__() missing 1 required positional argument: 'prompts'")

def migrationDocument (r : Request) (o : MigrationOptions) (m : Migration) : Value :=
  .map [("success", .bool true), ("message", "SSIS package migration completed successfully"),
    ("package_type", r.form.lookup "package_type"), ("tasks_converted", m.tasks),
    ("notebooks_generated", m.notebooks), ("workflows_created", m.workflows),
    ("output_path", (r.form.lookup "target_path").getD "/Workspace/Shared/migrations"), ("artifacts", m.artifacts),
    ("options_applied", o)]

def migratePackage (r : Request) : Flow Answer :=
  match receive r "ssis_file" ".dtsx, .ispac, or .zip" with
  | .error message => return .back r message
  | .ok upload => answering "Server" do
    let options := MigrationOptions.ofForm r.form
    let package ← server.store upload
    Flow.ensure (answering "Migration" do
        return .ofDocument (migrationDocument r options (← migrate options server.uploads package)))
      (do if ← Flow.pathExists package then Flow.removeFile package)

def installed : Value :=
  .map [("success", .bool true), ("message", "Lakebridge components installed successfully"),
    ("details", "All transpilers and dependencies are ready to use")]

def health : Value :=
  .map [("status", "healthy"), ("supported_dialects", Sql.dialects), ("supported_systems", systems),
    ("version", "0.10.9")]

/-! ### Routes -/

def pictures : List String :=
  ["lakebridge-lockup.png", "lakebridge-webapp-analyze.png", "lakebridge-webapp-homepage.png",
   "lakebridge-webapp-transpile.png"]

/-- What stands at an address: something to look at, and possibly something to send to. -/
structure Route where
  look : Answer
  send : Option (Flow Answer) := none

def route? (r : Request) : Option Route :=
  match r.path with
  | "/" => some { look := .page "index.html" withSystems }
  | "/designer" => some { look := .page "designer.html" (.map [("agents", agents), ("tasks", tasks)]) }
  | "/transpile" => some { look := .page "transpile.html" withSystems, send := some (server.transpile r) }
  | "/analyze" => some { look := .page "analyze.html" withSystems, send := some (analyse r) }
  | "/install" => some { look := .page "install.html", send := some (pure (.ofDocument installed)) }
  | "/ssis_migrate" => some { look := .page "ssis_migrate.html", send := some (server.migratePackage r) }
  | "/api/status" => some { look := .ofDocument health }
  | path =>
    if pictures.any fun name => "/static/" ++ name == path then some { look := {} }
    else if Text.startsWith path "/static/" && path != "/static/" then some { look := .bare 404 }
    else none

def handle (r : Request) : Flow Answer :=
  match server.route? r with
  | none => return .bare 404
  | some route =>
    match r.method with
    | "GET" => return route.look
    | "HEAD" => do return { ← route.send.getD (pure route.look) with document := none }
    | "OPTIONS" => return {}
    | "POST" => route.send.getD (pure (.bare 405))
    | _ => return .bare 405

end Server

/-! ### Starting the server -/

def welcome : List String :=
  ["🚀 Starting Lakebridge Web Application...",
   "📋 Available features:",
   "   • SQL Transpilation - Convert SQL between different dialects",
   "   • Project Analysis - Analyze existing workloads",
   "   • Component Installation - Set up Lakebridge components",
   "",
   "🌐 Open your browser and navigate to: http://localhost:8080",
   "⏹️  Press Ctrl+C to stop the server",
   ""]

def launch : Flow Unit := do
  for line in welcome do Flow.printLine line
  Flow.note "run" [] [("debug", .bool false), ("host", "0.0.0.0"), ("port", .int 8080)]

end WarehouseMigration.Web
