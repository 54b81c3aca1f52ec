import Watchtower.Attestation.Form
import Watchtower.Config.Defect
import Watchtower.Config.Form
import Watchtower.Config.Layers
import Watchtower.Cursor.Form
import Watchtower.Deployment
import Watchtower.Glyph.Form
import Watchtower.Proofs.Store
import Watchtower.Watcher.Form
import Watchtower.Proofs.Compilation.Plan
import Watchtower.Proofs.Compilation.Commit
import Watchtower.Proofs.Compilation.Convergence
import Watchtower.Proofs.Bookkeeping
import Watchtower.Proofs.Run
import Watchtower.Proofs.Compilation.CleanUp
import Watchtower.Proofs.Run.Traffic
import Watchtower.Proofs.Run.Ledger
import Watchtower.Proofs.Run.StoreChanges
import Watchtower.Proofs.Run.Stopping
import Watchtower.Proofs.Run.Schedule
import Watchtower.Proofs.ActiveSet
import Watchtower.Proofs.Run.Starting
import Watchtower.Proofs.Compilation.Interruption
import Watchtower.Proofs.RateWindow
import Watchtower.Proofs.Run.WindowLog
import Watchtower.Proofs.Run.FireCap
import Watchtower.Proofs.CursorKeys
import Watchtower.Proofs.Evaluation
import Watchtower.Proofs.Compilation.Conditions
import Watchtower.Proofs.Compilation.Meaning
import Watchtower.Proofs.Compilation.EdgeOrder
import Watchtower.Proofs.Run.Replay
import Watchtower.Proofs.Run.LateCursors
import Watchtower.Proofs.Run.StoreLaws
import Watchtower.Proofs.Run.TimeGates
import Watchtower.Proofs.Fates
import Watchtower.Proofs.Run.Lifecycle
import Watchtower.Proofs.Run.Accounting
import Watchtower.Proofs.Compilation.Freshness
import Watchtower.Proofs.Compilation.RoundTrip
import Watchtower.Proofs.Run.Statistics
import Watchtower.Proofs.LatestCursor
import Watchtower.Proofs.Run.Journal
import Watchtower.Proofs.Run.FailedReload
import Watchtower.Proofs.StoredBytes
import Watchtower.Proofs.Compilation.Restored
import Watchtower.Proofs.Payload
import Watchtower.Proofs.Compilation.Watchers
import Watchtower.Proofs.Compilation.Reporting
import Watchtower.Proofs.Compilation.Sources
import Watchtower.Proofs.Settings
import Watchtower.Proofs.Thresholds
import Watchtower.Proofs.Numeric.Rounding
import Watchtower.Proofs.Fields
import Watchtower.Proofs.Layers
import Watchtower.Proofs.Ownership
