import ResourceFaults.Liveness
import ResourceFaults.Main
import ResourceFaults.Report.Format
import ResourceFaults.Session.Solo
import ResourceFaults.Telemetry.Guards
import ResourceFaults.Proofs.Engine.Runs
import ResourceFaults.Proofs.Engine.Stop
import ResourceFaults.Proofs.Engine.Balance
import ResourceFaults.Proofs.Memory.Budget
import ResourceFaults.Proofs.Worker.Horizon
import ResourceFaults.Proofs.Engine.Errand
import ResourceFaults.Proofs.Engine.Settling
import ResourceFaults.Proofs.Engine.Requests
import ResourceFaults.Proofs.Session.ClosedForm
import ResourceFaults.Proofs.Session.Idle
import ResourceFaults.Proofs.Options.Grammar
import ResourceFaults.Proofs.Host.Commands
import ResourceFaults.Proofs.Host.Ending
import ResourceFaults.Proofs.Report.RoundTrip
import ResourceFaults.Proofs.Memory.Ledger
import ResourceFaults.Proofs.Memory.Calls
import ResourceFaults.Proofs.Cpu.Batches
import ResourceFaults.Proofs.Host.LastSnapshot
import ResourceFaults.Proofs.Request.Words
import ResourceFaults.Proofs.Host.Routes
import ResourceFaults.Proofs.Options.Limit
import ResourceFaults.Proofs.Session.Berths
import ResourceFaults.Proofs.Session.BlockSize
import ResourceFaults.Proofs.Memory.Headroom
import ResourceFaults.Proofs.Memory.Pace
import ResourceFaults.Proofs.Memory.Punctual
import ResourceFaults.Proofs.Arguments.Naming
import ResourceFaults.Proofs.Host.OwnOptions
import ResourceFaults.Proofs.Text.Tables
import ResourceFaults.Proofs.Usage.Figures
import ResourceFaults.Proofs.Liveness.Families
import ResourceFaults.Proofs.Report.Merging
import ResourceFaults.Proofs.Telemetry.Guards
import ResourceFaults.Proofs.Telemetry.Reordering
