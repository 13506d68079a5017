import WarehouseMigration.Analyzer
import WarehouseMigration.Coverage
import WarehouseMigration.Deployment.Configure
import WarehouseMigration.Deployment.Rehearsal
import WarehouseMigration.Main
import WarehouseMigration.Profiler.TableCheck
import WarehouseMigration.Reconcile.Rehearsal.Results
import WarehouseMigration.Proofs.Reconcile.HashOrder
import WarehouseMigration.Proofs.Reconcile.RunRecords
import WarehouseMigration.Proofs.Reconcile.Copies
import WarehouseMigration.Proofs.Transpile.EditOrder
import WarehouseMigration.Proofs.Lineage.Levels
import WarehouseMigration.Proofs.Transpile.Precedence
import WarehouseMigration.Proofs.Transpile.Accounts
import WarehouseMigration.Proofs.Reconcile.AggregateGroups
import WarehouseMigration.Proofs.Reconcile.JoinedNames
import WarehouseMigration.Proofs.Reconcile.RuleKeys
import WarehouseMigration.Proofs.Reconcile.MetricsQuotes
import WarehouseMigration.Proofs.Transpile.Bracketing
import WarehouseMigration.Proofs.Connector.SavedSecrets
import WarehouseMigration.Proofs.Web.Leftovers
import WarehouseMigration.Proofs.Reconcile.SchemaVerdict
import WarehouseMigration.Proofs.Transpile.StoredSettings
import WarehouseMigration.Proofs.Reconcile.HashedColumns
import WarehouseMigration.Proofs.Reconcile.ThresholdOrder
import WarehouseMigration.Proofs.Sql.ChunkFates
import WarehouseMigration.Proofs.Transpile.HeaderPlaces
import WarehouseMigration.Proofs.Transpile.PartFiles
import WarehouseMigration.Proofs.Profiler.StepResults
import WarehouseMigration.Proofs.Deployment.Removal
import WarehouseMigration.Proofs.Deployment.ColumnNames
import WarehouseMigration.Proofs.Deployment.TableUpgrades
import WarehouseMigration.Proofs.Transpile.VariableQuotes
import WarehouseMigration.Proofs.Catalog.Access
import WarehouseMigration.Proofs.Transpiler.ArtifactVersion
import WarehouseMigration.Proofs.Discovery.EncodedTables
