import TestRig.Cancellation
import TestRig.Case
import TestRig.Command.Arguments
import TestRig.Command.Config
import TestRig.Command.Execution
import TestRig.Command.Failure
import TestRig.Command.Grammar
import TestRig.Duration
import TestRig.Engine.Call
import TestRig.Engine.CommandLine
import TestRig.Engine.Memory
import TestRig.Engine.Store
import TestRig.External
import TestRig.Files
import TestRig.Host
import TestRig.Invocation
import TestRig.Locks
import TestRig.Main
import TestRig.Path
import TestRig.Path.SearchList
import TestRig.Port.Lease
import TestRig.Port.Range
import TestRig.Program
import TestRig.Proofs.World
import TestRig.Rehearsal
import TestRig.Sandbox.Cleanup
import TestRig.Sandbox.Lifecycle
import TestRig.Sandbox.Name
import TestRig.Sandbox.Pipeline
import TestRig.Sandbox.Probe
import TestRig.Suite
import TestRig.Suite.Discovery
import TestRig.Suite.Launcher
import TestRig.Suite.Output
import TestRig.Suite.Pool
import TestRig.Suite.Summary
import TestRig.Suite.Supervision
import TestRig.SystemError
import TestRig.TestProgram
import TestRig.Text.Blank
import TestRig.Text.Decimal
import TestRig.Text.Hidden
import TestRig.Text.Json
import TestRig.Text.Lines
import TestRig.Text.Quoted
import TestRig.Text.Styled
import TestRig.Text.Timestamp
import TestRig.Text.Utf8
import TestRig.Proofs.Guards
import TestRig.Proofs.Range
import TestRig.Proofs.LeaseExclusion
import TestRig.Proofs.EngineMemory
import TestRig.Proofs.Site
import TestRig.Proofs.PipelineStages
import TestRig.Proofs.PipelineFrame
import TestRig.Proofs.PipelineCourse
import TestRig.Proofs.PortExclusion
import TestRig.Proofs.PoolLedger
import TestRig.Proofs.PoolSummary
import TestRig.Proofs.SuiteCourse
import TestRig.Proofs.SuiteExit
import TestRig.Proofs.SuiteOrder
import TestRig.Proofs.SuiteTotals
import TestRig.Proofs.Numerals
import TestRig.Proofs.NameGrammar
import TestRig.Proofs.Ownership
import TestRig.Proofs.CleanupTargets
import TestRig.Proofs.CleanupEffect
import TestRig.Proofs.StopCalls
import TestRig.Proofs.CleanupCalls
import TestRig.Proofs.CleanupReport
import TestRig.Proofs.CleanupConvergence
import TestRig.Proofs.CleanupSeries
import TestRig.Proofs.WorkerArguments
import TestRig.Proofs.OutputLines
import TestRig.Proofs.LockFiles
import TestRig.Proofs.LeaseCourse
import TestRig.Proofs.Waiting
import TestRig.Proofs.Startup
import TestRig.Proofs.PipelineExit
import TestRig.Proofs.Candidates
import TestRig.Proofs.CheckedRange
import TestRig.Proofs.Walks
import TestRig.Proofs.Merges
import TestRig.Proofs.ListingNames
import TestRig.Proofs.SearchEntries
import TestRig.Proofs.Utf8Decoding
import TestRig.Proofs.WorkerOutput
import TestRig.Proofs.QualifiedNames
import TestRig.Proofs.SettingsReading
import TestRig.Proofs.WorkerSignals
import TestRig.Proofs.PoolTermination
