import DosWeb.Aggregate.Tampering
import DosWeb.Artifacts.Streaming
import DosWeb.Batch.Fingerprint
import DosWeb.Batch.Finish
import DosWeb.Batch.PlanFiles
import DosWeb.Benchmark.Accounting
import DosWeb.Benchmark.Interpositions
import DosWeb.Benchmark.RoutePatterns
import DosWeb.Codeql.NativeCommand
import DosWeb.Conclude.Closure
import DosWeb.Configuration.Policy
import DosWeb.Entries.DescriptorLines
import DosWeb.Flows.Conditions
import DosWeb.Flows.Resolution
import DosWeb.Growth.AttackerControl
import DosWeb.Growth.RawRows
import DosWeb.Growth.RedactedValues
import DosWeb.Growth.Windows
import DosWeb.Lifecycle.OrderFree
import DosWeb.Llm.Budget
import DosWeb.Llm.CacheRoundTrip
import DosWeb.Llm.CodeOnly
import DosWeb.Llm.JavaLiterals
import DosWeb.Llm.Replay
import DosWeb.Llm.SingleFlight
import DosWeb.Pipeline.Fidelity
import DosWeb.Pipeline.Resume
import DosWeb.Production.Ambiguity
import DosWeb.Production.DecisionRecords
import DosWeb.Production.DispositionRecords
import DosWeb.Production.FlowStage
import DosWeb.Production.GrowthStrictness
import DosWeb.Production.PathBounds
import DosWeb.Production.Protection
import DosWeb.Production.Strictness
import DosWeb.Production.VerifiedStrictness
import DosWeb.Reachability.Representatives
import DosWeb.Reachability.Routes
import DosWeb.Report.Priority
