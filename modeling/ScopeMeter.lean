import ScopeMeter.Access
import ScopeMeter.Host.Stimulus
import ScopeMeter.Main
import ScopeMeter.Proofs.Binding.Attribution
import ScopeMeter.Proofs.Binding.Pairing
import ScopeMeter.Proofs.Collector.Alignment
import ScopeMeter.Proofs.Collector.Conservation
import ScopeMeter.Proofs.Collector.Lifecycle
import ScopeMeter.Proofs.Collector.Independence
import ScopeMeter.Proofs.Collector.ScopeSeries
import ScopeMeter.Proofs.Collector.Clocks
import ScopeMeter.Proofs.Plan.Declarative
import ScopeMeter.Proofs.Plan.Growth
import ScopeMeter.Proofs.Plan.WellFormed
import ScopeMeter.Proofs.Files.Writing
import ScopeMeter.Proofs.Report.TableNames
import ScopeMeter.Proofs.Collector.Tables
import ScopeMeter.Proofs.Interconnect.Descriptor
import ScopeMeter.Proofs.Binding.Failure
import ScopeMeter.Proofs.Collector.Idle
import ScopeMeter.Proofs.Collector.Rollback
import ScopeMeter.Proofs.Collector.Gauges
import ScopeMeter.Proofs.Plan.Expansion
import ScopeMeter.Proofs.Group.Answers
import ScopeMeter.Proofs.Group.Run
import ScopeMeter.Proofs.Scope.History
import ScopeMeter.Proofs.Plan.Families
import ScopeMeter.Proofs.Plan.Shadowing
import ScopeMeter.Proofs.Collector.Units
import ScopeMeter.Proofs.Config.Respelling
import ScopeMeter.Proofs.Report.TableText
import ScopeMeter.Proofs.Series.Blocks
import ScopeMeter.Proofs.Packing
