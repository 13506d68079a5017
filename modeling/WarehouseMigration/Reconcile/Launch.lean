import WarehouseMigration.Workspace
import WarehouseMigration.Text.Integer

/-!
# Starting the job

A comparison runs as a job of the workspace.  Before the job is started, the configurations that it is going to read
are loaded once to see that they are there and can be used.
-/

namespace WarehouseMigration.Reconcile

def jobName : String := "Reconciliation Runner"

def Settings.tablesFile (s : Settings) : Outcome String := do
  let d ← s.databases
  let place := (d.sourceCatalog.filter (· != "")).getD d.sourceSchema
  return s!"recon_config_{s.dataSource}_{place}_{s.reportType}.json"

def verifiedSettings : Flow Settings := do
  let s ← Flow.recover Installation.reconcileConfig fun e =>
    if Installation.isAbsent e then
      some (throw (.exit "Cannot find existing \x60reconcile\x60 installation. Please try reinstalling."))
    else if Installation.isCorrupted e then some do
      let folder ← Installation.folder
      throw (.exit s!"Existing \x60reconcile\x60 installation at {folder} is corrupted. Please try reinstalling.")
    else none
  let file ← Flow.ofOutcome s.tablesFile
  let _ ← Flow.recover (Installation.load .tables (some file)) fun e =>
    if Installation.isAbsent e then
      some (throw (.exit ("Cannot find recon table configuration in existing \x60reconcile\x60 installation. " ++
        s!"Please provide the configuration file {file} in the workspace.")))
    else if Installation.isCorrupted e then some do
      let folder ← Installation.folder
      throw (.exit
        s!"Cannot load corrupted recon table configuration from {folder}/{file}. Please validate the file.")
    else none
  return s

def wholeNumber : Value → Outcome Int
  | .text s => Text.toInt s
  | v => v.truncated

def jobNumber (s : Settings) : Flow Int := do
  if s.job.isSet then return ← Flow.ofOutcome (wholeNumber s.job)
  match (← get).jobs.lookup jobName with
  | some number => Flow.ofOutcome (wholeNumber number)
  | none => throw (.exit "Reconcile Job ID not found. Please try reinstalling.")

def launch (operation : Value) : Flow Unit := do
  let s ← verifiedSettings
  let number ← jobNumber s
  let started ← Flow.call "jobs.run_now" [number] [("job_parameters", .map [("operation_name", operation)])]
  let id ← Flow.ofOutcome (started.member "run_id")
  unless id.isSet do
    throw (.exit s!"Job {number} execution failed. Please check the job logs for more details.")
  let host := (← Flow.setting "host").shown
  let address := s!"{host}/jobs/{number}/runs/{id.shown}"
  if ← Flow.confirm s!"Would you like to open the job run URL \x60{address}\x60 in the browser?" then
    Flow.browse address

end WarehouseMigration.Reconcile
