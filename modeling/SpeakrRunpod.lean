import SpeakrRunpod.Core.Program
import SpeakrRunpod.Core.Cooperative
import SpeakrRunpod.Core.Text
import SpeakrRunpod.Core.Json
import SpeakrRunpod.Common.Protocol
import SpeakrRunpod.Common.ProxyHeaders
import SpeakrRunpod.Common.Responses
import SpeakrRunpod.Adapter.Errors
import SpeakrRunpod.Adapter.Config
import SpeakrRunpod.Adapter.PodState
import SpeakrRunpod.Adapter.PodMapping
import SpeakrRunpod.Adapter.Operations
import SpeakrRunpod.Adapter.RunpodClient
import SpeakrRunpod.Adapter.Runpod
import SpeakrRunpod.Adapter.Idle
import SpeakrRunpod.Adapter.System
import SpeakrRunpod.Adapter.ManagerLogic
import SpeakrRunpod.Adapter.ProcessLogic
import SpeakrRunpod.Adapter.OnePod
import SpeakrRunpod.Adapter.Interruption
import SpeakrRunpod.Adapter.TerminateFailure
import SpeakrRunpod.Adapter.Replacement
import SpeakrRunpod.Adapter.SharedRecord
import SpeakrRunpod.Adapter.DeployOnce
import SpeakrRunpod.Adapter.IdleQuiet
import SpeakrRunpod.Core.Encoding
import SpeakrRunpod.Core.JsonText
import SpeakrRunpod.Adapter.ResultTransfer
import SpeakrRunpod.Adapter.TransferSafety
import SpeakrRunpod.Transfer.ManifestWire
import SpeakrRunpod.Transfer.RoundTrip
import SpeakrRunpod.Core.TtlMap
import SpeakrRunpod.Core.Sha256
import SpeakrRunpod.Wrapper.ResultStore
import SpeakrRunpod.Core.Monitor
import SpeakrRunpod.Adapter.AnswerReading
import SpeakrRunpod.Adapter.CallRules
import SpeakrRunpod.Adapter.CallMachine
import SpeakrRunpod.Adapter.CallWalk
import SpeakrRunpod.Adapter.DeployDeadline
import SpeakrRunpod.Adapter.RepeatedDeploy
import SpeakrRunpod.Adapter.VerifiedWrapper
import SpeakrRunpod.Adapter.StuckWatchdog
import SpeakrRunpod.Adapter.NoCapacity
import SpeakrRunpod.Wrapper.Server
import SpeakrRunpod.Wrapper.BearerCheck
import SpeakrRunpod.Adapter.CallBalance
import SpeakrRunpod.Core.Handler
import SpeakrRunpod.Adapter.Forwarding
import SpeakrRunpod.Adapter.ManagerFailures
import SpeakrRunpod.Adapter.TransportFailures
import SpeakrRunpod.Transfer.Classification
import SpeakrRunpod.Adapter.TransferBudget
import SpeakrRunpod.Adapter.Spooling
import SpeakrRunpod.Adapter.PortDiscovery
import SpeakrRunpod.Core.Utf8Cut
import SpeakrRunpod.Core.Lines
import SpeakrRunpod.Adapter.PodLogs
import SpeakrRunpod.Transfer.LogTail
import SpeakrRunpod.Core.Scan
import SpeakrRunpod.Common.Redaction
import SpeakrRunpod.Common.RedactedSecrets
import SpeakrRunpod.Common.RedactedTwice
import SpeakrRunpod.Transfer.HeaderHops
import SpeakrRunpod.Core.Ending
import SpeakrRunpod.Adapter.ReadyBudget
import SpeakrRunpod.Adapter.ReadyInTime
import SpeakrRunpod.Adapter.AtRest
import SpeakrRunpod.Core.Interpose
import SpeakrRunpod.Wrapper.ResponseTrace
import SpeakrRunpod.Transfer.TraceId
import SpeakrRunpod.Wrapper.TeeProcess
import SpeakrRunpod.Core.JsonWriter
import SpeakrRunpod.Transfer.LogDrain
import SpeakrRunpod.Core.Conduct
