import HermOS.Library.TransitionSystem
import HermOS.Library.PowerMask
import HermOS.Library.Counting
import HermOS.Library.EvenSplit
import HermOS.Library.PythonInt
import HermOS.Library.PythonText
import HermOS.Library.RustText
import HermOS.Library.TextCodec
import HermOS.Library.FallibleFold
import HermOS.Library.FirstOccurrences
import HermOS.Library.FileTree
import HermOS.Library.FileStore
import HermOS.Library.Inodes
import HermOS.Library.ByteStream
import HermOS.Library.HttpHead
import HermOS.Library.Csv
import HermOS.Library.PythonNumeral
import HermOS.Library.PythonPattern
import HermOS.Library.Bisect
import HermOS.Library.BlockRange
import HermOS.Library.Json
import HermOS.Library.Held
import HermOS.Library.Numerals
import HermOS.Library.Ipv4
import HermOS.Library.Aggregate
import HermOS.Library.Runs
import HermOS.Library.Queues
import HermOS.Proxy.RangeStore
import HermOS.Proxy.Accounting
import HermOS.Proxy.Handoff
import HermOS.Uffd.Handler
import HermOS.Uffd.RemoteFault
import HermOS.Uffd.FaultBounds
import HermOS.Uffd.EventLoop
import HermOS.Uffd.EventOrder
import HermOS.Uffd.CopiedPages
import HermOS.Uffd.Runtime
import HermOS.Uffd.RangeClient
import HermOS.Bench.Workers
import HermOS.Bench.PrepareGate
import HermOS.Bench.PrepareProgress
import HermOS.Bench.RunExternal
import HermOS.Bench.Tiling
import HermOS.Bench.PreparedContexts
import HermOS.Bench.PreparedCalls
import HermOS.Bench.NetnsStages
import HermOS.Bench.StepShell
import HermOS.Bench.JoinOrder
import HermOS.Bench.BatchBarrier
import HermOS.Bench.Lockstep
import HermOS.Bench.InstanceNames
import HermOS.Prefetch.BuildSet
import HermOS.Prefetch.Tiers
import HermOS.Prefetch.RangeRuns
import HermOS.Prefetch.BlockStats
import HermOS.Prefetch.BlockAgreement
import HermOS.Trace.Record
import HermOS.Trace.FirstReads
import HermOS.Trace.PhaseSplit
import HermOS.Trace.PhaseFiles
import HermOS.Trace.FileReads
import HermOS.Trace.ReadAccounting
import HermOS.Trace.FilledOutputs
import HermOS.Trace.FirstTimestamp
import HermOS.Replay.Patch
import HermOS.Replay.AgentReplay
import HermOS.Replay.Meaning
import HermOS.Replay.HunkLoop
import HermOS.Replay.WrittenContent
import HermOS.Replay.PatchGrammar
import HermOS.Replay.ChangedFiles
import HermOS.Replay.PatchNotation
import HermOS.Replay.Confinement
import HermOS.Replay.ExtractActions
import HermOS.Replay.CleanActions
import HermOS.Proxy.RangeRequest
import HermOS.Proxy.RangeHeader
import HermOS.Proxy.RangeExchange
import HermOS.Proxy.Framing
import HermOS.Proxy.UpstreamClient
import HermOS.Proxy.UpstreamConnections
import HermOS.Data.DeleteRows
import HermOS.Data.CleanUp
import HermOS.Data.AppendedRows
import HermOS.Data.CollectedFiles
import HermOS.Data.DeleteRuns
import HermOS.Snapshot.PrepareSnapshot
import HermOS.Snapshot.CrashConsistency
import HermOS.Atlas.ExportAtlas
import HermOS.Atlas.InodeExtents
import HermOS.Atlas.SharedMetadata
import HermOS.Atlas.BlockOwners
import HermOS.Launch.StartUp
import HermOS.Launch.Leftovers
import HermOS.Launch.FourGroups
import HermOS.Analysis.PairRows
import HermOS.Cube.CreateConcurrent
import HermOS.Cube.LeakReport
import HermOS.Block.Request
import HermOS.Block.Device
import HermOS.Block.Completion
import HermOS.Block.WakeUps
import HermOS.Block.TracedBlocks
import HermOS.Batch.TaskGroups
import HermOS.Batch.GroupHistory
import HermOS.Batch.Capacity
import HermOS.Batch.ExitCode
import HermOS.Batch.Ending
import HermOS.Batch.Parameters
import HermOS.Guest.Workloads
import HermOS.Guest.RgScan
import HermOS.Guest.Daemon
import HermOS.Guest.WorkloadRun
import HermOS.Guest.Reply
import HermOS.Guest.RoundTrip
import HermOS.Guest.Requests
import HermOS.Vmm.VcpuCommands
import HermOS.Vmm.Agreement
import HermOS.Vmm.Responses
