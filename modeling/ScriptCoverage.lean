import ScriptCoverage.Main
import ScriptCoverage.Proofs.Unit.Record
import ScriptCoverage.Proofs.Command.Reporting
import ScriptCoverage.Proofs.Unit.Nesting
import ScriptCoverage.Proofs.Command.Gate
import ScriptCoverage.Proofs.Run.Operand
import ScriptCoverage.Proofs.Config.Precedence
import ScriptCoverage.Proofs.Command.Obstacle
import ScriptCoverage.Proofs.Probe.Ledger
import ScriptCoverage.Proofs.Probe.Acceptance
import ScriptCoverage.Proofs.Report.Listing
import ScriptCoverage.Proofs.Command.Counterparts
import ScriptCoverage.Proofs.Unit.Discovery
import ScriptCoverage.Proofs.Report.Event
import ScriptCoverage.Proofs.Report.Placement
import ScriptCoverage.Proofs.Report.Html
import ScriptCoverage.Proofs.Config.Setting
import ScriptCoverage.Proofs.Probe.Account
import ScriptCoverage.Proofs.Probe.Identifier
import ScriptCoverage.Proofs.Config.Checking
import ScriptCoverage.Proofs.Config.Usability
import ScriptCoverage.Proofs.Config.Conversion
import ScriptCoverage.Proofs.Run.Retrieval
import ScriptCoverage.Proofs.Run.Available
import ScriptCoverage.Proofs.Config.Expansion
import ScriptCoverage.Proofs.Config.Absence
import ScriptCoverage.Proofs.Command.Transcript
import ScriptCoverage.Proofs.Command.Options
import ScriptCoverage.Proofs.Tree.Reach
import ScriptCoverage.Proofs.Report.Consistency
