import WarehouseMigration.Connector.Setup
import WarehouseMigration.Deployment.Product
import WarehouseMigration.Transpiler.Installer

/-!
# Configuring the product

A dialogue with the operator that ends with saved configurations.  What is already configured is kept unless the
operator wants it replaced.
-/

namespace WarehouseMigration.Deployment

structure Resources where
  catalog : Flow Value
  schema : (catalog proposal : Value) → Flow Value
  volume : (catalog schema proposal : Value) → Flow Value
  access : (catalog schema volume : Value) → Flow Unit
  warehouse : (title : String) → Flow Value

structure Dialogue where
  resources : Resources
  transpilers : Transpiler.Installed
  interactive : Bool

namespace Dialogue

def later : Value := "Set it later"

def decided (answer : Value) : Value := if answer == later then .null else answer

def save (config : Value) (file : String) : Flow Unit := do
  Installation.save config
  let address ← Installation.link file
  if ← Flow.confirm s!"Open config file {address} in the browser?" then Flow.browse address

variable (d : Dialogue)

def transpilerFor (dialect : String) : Flow Value := do
  let names := (← d.transpilers.withDialect dialect).mergeSort
  match names with
  | [] => throw (.nothingFound "")
  | [name] => return name
  | names => return decided (← Flow.choiceInOrder "Select the transpiler:" (later :: names.map Value.text))

def transpilerOptions (transpiler dialect : String) : Flow Value := do
  let settings ← d.transpilers.settings transpiler dialect
  if settings.isEmpty then return .null
  let chosen ← settings.mapM fun s => do return (s.flag.shown, ← s.obtain)
  return .map (chosen.foldl (fun table (flag, v) => Sequence.put flag v table) [])

def place (prompt proposal : String) : Flow Value := do
  let answer ← Flow.question prompt (some proposal)
  let home := Path.ofString (← get).home
  return if answer == .text proposal then home.child proposal else answer

def askTranspile : Flow Transpile.Config := do
  let dialects := (← d.transpilers.dialects).mergeSort
  let dialect := decided (← Flow.choiceInOrder "Select the source dialect:" (later :: dialects.map Value.text))
  let transpiler ← if dialect.isSet then d.transpilerFor dialect.shown else pure .null
  let manifest ← if transpiler.isSet then some <$> d.transpilers.manifestPath transpiler.shown else pure none
  let options ← if manifest.isSome then d.transpilerOptions transpiler.shown dialect.shown else pure .null
  let input := decided (← Flow.question "Enter input SQL path (directory/file)" (some later))
  let output ← place "Enter output directory" "transpiled"
  let errors ← place "Enter error file path" "errors.log"
  let validate ← Flow.confirm "Would you like to validate the syntax and semantics of the transpiled queries?"
  return {
    transpiler := manifest.map Path.toString
    sourceDialect := dialect.shown?
    inputSource := input.shown?
    outputFolder := output.shown?
    errorFile := errors.shown?
    skipValidation := .bool !validate
    options := options }

/-- Makes a new configuration of transpilations.  A catalog, a schema and a warehouse are needed for validations
only. -/
def newTranspile : Flow Transpile.Config := do
  let config ← d.askTranspile
  let config ← if config.skipValidation.isSet then pure config else do
    let catalog ← d.resources.catalog
    let schema ← d.resources.schema catalog "transpile"
    d.resources.access catalog schema .null
    let warehouse ← d.resources.warehouse "Lakebridge Transpiler Validation"
    pure { config with catalog := catalog, schema := schema, client := .map [("warehouse_id", warehouse)] }
  save config "config.yml"
  return config

def existing (load : Flow α) : Flow (Option α) :=
  Flow.recover (some <$> load) fun e =>
    if Installation.isAbsent e || Installation.isCorrupted e then some (pure none) else none

def wantsOverride : Flow Bool := Flow.confirm "Do you want to override the existing installation?"

def configureTranspile : Flow (Option Transpile.Config) := do
  let known ← existing Installation.transpileConfig
  if !d.interactive then return known
  if known.isSome then
    unless ← wantsOverride do return known
  some <$> d.newTranspile

def askDatabases (source : String) : Flow Reconcile.Database := do
  let title := Text.capitalize source
  let catalog ← if source == "snowflake" then Flow.question s!"Enter source catalog name for \x60{title}\x60"
    else pure .null
  let level := if source == "oracle" then "database" else "schema"
  let schema ← Flow.question s!"Enter source {level} name for \x60{title}\x60"
  let targetCatalog ← Flow.question "Enter target catalog name for Databricks"
  let targetSchema ← Flow.question "Enter target schema name for Databricks"
  return ⟨schema.shown, targetCatalog.shown, targetSchema.shown, catalog.shown?⟩

def askMetadata : Flow Reconcile.Metadata := do
  let catalog ← d.resources.catalog
  let schema ← d.resources.schema catalog "reconcile"
  let volume ← d.resources.volume catalog schema "reconcile_volume"
  d.resources.access catalog schema volume
  return ⟨catalog.shown, schema.shown, volume.shown⟩

def newReconcile : Flow Reconcile.Settings := do
  let source ← Flow.choice "Select the Data Source:" (Connector.sourceTypes.map Value.text)
  let reportType ← Flow.choice "Select the report type:" (["data", "schema", "row", "all"].map Value.text)
  let source ← Flow.ofOutcome source.asText
  let title := Text.capitalize source
  let scope ← Flow.question
    s!"Enter Secret scope name to store \x60{title}\x60 connection details / secrets"
    (some s!"remorph_{source}")
  let databases ← askDatabases source
  let metadata ← d.askMetadata
  let config : Reconcile.Settings := ⟨source, reportType.shown, scope.shown, some databases, some metadata, .null, none⟩
  save config "reconcile.yml"
  return config

def configureReconcile : Flow Reconcile.Settings := do
  if (← existing Installation.reconcileConfig).isSome then
    unless ← wantsOverride do
      throw (.exit "Lakebridge \x60reconcile\x60 is already installed and no override has been requested. Exiting...")
  d.newReconcile

def configure (module : String) : Flow Configuration := do
  match module with
  | "transpile" => return ⟨← d.configureTranspile, none⟩
  | "reconcile" => return ⟨none, some (← d.configureReconcile)⟩
  | "all" =>
    let transpile ← d.configureTranspile
    return ⟨transpile, some (← d.configureReconcile)⟩
  | _ => throw (.invalid s!"Invalid input: {module}")

end Dialogue

def refuseRuntime (environment : List (String × Value)) : Outcome Unit :=
  if (environment.lookup "DATABRICKS_RUNTIME_VERSION").isSome then
    throw (.exit "WorkspaceInstaller is not supposed to be executed in Databricks Runtime")
  else pure ()

structure Installer where
  dialogue : Dialogue
  deploy : Configuration → Flow Unit

namespace Installer

def products : List Transpiler.Product := [.bladebridge, .morpheus]

def deployed (i : Installer) (c : Configuration) : Flow Unit := do
  if (← Flow.distribution) == .text productName then i.deploy c

def installArtifact (i : Installer) (artifact : String) : Flow Unit := do
  let path := Path.ofString artifact
  if ← Flow.pathExists path then
    if let some product := products.find? (·.accepts path) then
      let _ ← product.install i.dialogue.transpilers (some path)

def run (i : Installer) (module : String) (given : Option Configuration) (artifact : Option String) :
    Flow Configuration := do
  match module, artifact.filter (· != "") with
  | "transpile", some artifact => i.installArtifact artifact
  | "transpile", none | "all", _ => for product in products do let _ ← product.install i.dialogue.transpilers none
  | _, _ => pure ()
  let config ← match given with
    | some config => pure config
    | none => i.dialogue.configure module
  i.deployed config
  return config

/-- Upgrades the transpilers that are installed; if there was anything to upgrade, transpilations are configured
anew. -/
def upgrade (i : Installer) : Flow Bool := do
  let names ← i.dialogue.transpilers.names
  let upgraded ← (products.filter fun p => names.contains p.name).mapM fun p => p.install i.dialogue.transpilers none
  if upgraded.any id then i.deployed (← i.dialogue.configure "transpile")
  return upgraded.any id

end Installer

end WarehouseMigration.Deployment
