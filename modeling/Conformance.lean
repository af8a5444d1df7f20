import Conformance.Main
import Conformance.Proofs.Case.Extent
import Conformance.Proofs.Case.Leading
import Conformance.Proofs.Case.LineEnds
import Conformance.Proofs.Case.Printed
import Conformance.Proofs.Case.Rearranged
import Conformance.Proofs.Case.Semicolons
import Conformance.Proofs.Case.Sound
import Conformance.Proofs.CommandLine.RoundTrip
import Conformance.Proofs.Discovery.CaseFiles
import Conformance.Proofs.Discovery.Exclusion
import Conformance.Proofs.Discovery.Scan
import Conformance.Proofs.Discovery.Walk
import Conformance.Proofs.Engine.Channel
import Conformance.Proofs.Engine.HostScript
import Conformance.Proofs.Engine.Reported
import Conformance.Proofs.Execution.Listing
import Conformance.Proofs.Execution.Outcome
import Conformance.Proofs.Execution.Runs
import Conformance.Proofs.Pool.Accounting
import Conformance.Proofs.Pool.Balance
import Conformance.Proofs.Pool.Compared
import Conformance.Proofs.Pool.Draining
import Conformance.Proofs.Pool.Fault
import Conformance.Proofs.Pool.Limit
import Conformance.Proofs.Pool.Order
import Conformance.Proofs.Pool.Progress
import Conformance.Proofs.Pool.Reasons
import Conformance.Proofs.Pool.Scheduled
import Conformance.Proofs.Pool.Sequential
import Conformance.Proofs.Pool.Session
import Conformance.Proofs.Pool.Success
import Conformance.Proofs.Report.Arrival
import Conformance.Proofs.Report.Comparison
import Conformance.Proofs.Report.Composition
import Conformance.Proofs.Report.Consistency
import Conformance.Proofs.Report.Histories
import Conformance.Proofs.Report.Stored
import Conformance.Proofs.Settings
