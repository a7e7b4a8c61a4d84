import VmSupport.Heap.Contents
import VmSupport.Heap.Service
import VmSupport.Heap.Team
import VmSupport.Long.Chain
import VmSupport.Machine.Crowd
import VmSupport.Settings.Render
import VmSupport.Proofs.Heap.BumpRun
import VmSupport.Proofs.Heap.RefusedRequests
import VmSupport.Proofs.Heap.RequestReports
import VmSupport.Proofs.Heap.SharedSteps
import VmSupport.Proofs.Heap.TeamRun
import VmSupport.Proofs.Heap.Effects
import VmSupport.Proofs.Heap.Linearization
import VmSupport.Proofs.Heap.Alone
import VmSupport.Proofs.Heap.ServiceSteps
import VmSupport.Proofs.Heap.ServiceRange
import VmSupport.Proofs.Heap.TeamCompletion
import VmSupport.Proofs.Heap.UniformRequests
import VmSupport.Proofs.Heap.LoopTurns
import VmSupport.Proofs.Heap.TurnJournal
import VmSupport.Proofs.Heap.LoopEnds
import VmSupport.Proofs.Heap.Lending
import VmSupport.Proofs.Heap.Isolation
import VmSupport.Proofs.Heap.Alignment
import VmSupport.Proofs.Heap.Addressing
import VmSupport.Proofs.Long.PureProgram
import VmSupport.Proofs.Long.Reduction
import VmSupport.Proofs.Long.Division
import VmSupport.Proofs.Long.RightShift
import VmSupport.Proofs.Long.RepeatedShift
import VmSupport.Proofs.Text.SmallLetters
import VmSupport.Proofs.Text.CommaParts
import VmSupport.Proofs.Toml.Numeral
import VmSupport.Proofs.Toml.QuotedText
import VmSupport.Proofs.Toml.WrittenLine
import VmSupport.Proofs.Toml.DistinctNames
import VmSupport.Proofs.Settings.RoundTrip
import VmSupport.Proofs.Settings.Overriding
import VmSupport.Proofs.Settings.Overlay
import VmSupport.Proofs.Settings.FirstComplaint
import VmSupport.Proofs.Settings.SizeText
import VmSupport.Proofs.Settings.Discovery
import VmSupport.Proofs.Settings.DecodedKeys
import VmSupport.Proofs.Settings.KnownKeys
import VmSupport.Proofs.Machine.CrowdSteps
import VmSupport.Proofs.Machine.CrowdRun
import VmSupport.Proofs.Machine.SingleInstall
import VmSupport.Proofs.Machine.Completion
import VmSupport.Proofs.Machine.HeapLedger
import VmSupport.Proofs.Machine.HeapForetold
import VmSupport.Proofs.Log.DirectiveParts
import VmSupport.Proofs.Log.Window
import VmSupport.Proofs.Log.DecidingDirective
import VmSupport.Proofs.Log.EffectiveFilter
import VmSupport.Proofs.Log.NamesInAnyCase
import VmSupport.Proofs.Machine.CallActs
import VmSupport.Proofs.Machine.CallEnds
import VmSupport.Proofs.Machine.LogWindow
import VmSupport.Proofs.Machine.ExportedCalls
import VmSupport.Proofs.Machine.Reported
import VmSupport.Proofs.Machine.MemoryReports
import VmSupport.Proofs.Machine.IgnoredSettings
import VmSupport.Proofs.Settings.LogOverrides
import VmSupport.Proofs.Machine.CallIndependence
import VmSupport.Proofs.Machine.LogIndependence
import VmSupport.Proofs.Machine.CheckedForm
import VmSupport.Proofs.Machine.LastStatus
import VmSupport.Proofs.Machine.StartStatus
