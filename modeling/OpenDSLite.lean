import OpenDSLite.ByteOrder
import OpenDSLite.ByteArea
import OpenDSLite.Buffers
import OpenDSLite.Application
import OpenDSLite.ServerContext
import OpenDSLite.ClientRequests
import OpenDSLite.PartialRuns
import OpenDSLite.ServerLoop
import OpenDSLite.BoundedLog
import OpenDSLite.ResponseWriting
import OpenDSLite.WriterCapacity
import OpenDSLite.RequestReading
import OpenDSLite.TypedRoundTrip
import OpenDSLite.RawBlocks
import OpenDSLite.WireFormats
import OpenDSLite.RequestIngress
import OpenDSLite.ReplyEgress
import OpenDSLite.LoopSteps
import OpenDSLite.DirectMode
import OpenDSLite.Registration
import OpenDSLite.LoopSoundness
import OpenDSLite.RetryAccounting
import OpenDSLite.ClientAnswers
import OpenDSLite.ForwardStatus
import OpenDSLite.ReplyLoops
import OpenDSLite.MappedMode
import OpenDSLite.StartupReplies
import OpenDSLite.SilentServer
import OpenDSLite.DuplicateReplies
import OpenDSLite.KeepAlive
import OpenDSLite.RequestService
import OpenDSLite.WriteSequences
import OpenDSLite.RawReads
import OpenDSLite.RelayFraming
import OpenDSLite.RequestReads
import OpenDSLite.StringReads
import OpenDSLite.Initialisation
import OpenDSLite.DeviceNames
import OpenDSLite.ProbeResults
import OpenDSLite.StartupMachine
import OpenDSLite.PotentialNetwork
import OpenDSLite.Sends
import OpenDSLite.DeviceNetwork
import OpenDSLite.OnlineService
import OpenDSLite.CarefulApplications
import OpenDSLite.Dsapp
import OpenDSLite.SampleServer
import OpenDSLite.HeartBeat
