import Duplex.Cancellation.Race
import Duplex.Codec.Framing
import Duplex.Disposal.Scenario
import Duplex.Log
import Duplex.Loopback.Program
import Duplex.Socket.Connect
import Duplex.Socket.Settings
import Duplex.Stream.Observer
import Duplex.Proofs.BulkPath
import Duplex.Proofs.Chunking
import Duplex.Proofs.PushPull
import Duplex.Proofs.Frames
import Duplex.Proofs.Truncation
import Duplex.Proofs.Conservation
import Duplex.Proofs.Framings
import Duplex.Proofs.Grammar
import Duplex.Proofs.Switching
import Duplex.Proofs.DisposedOnce
import Duplex.Proofs.Receiving
import Duplex.Proofs.Wire
import Duplex.Proofs.Interruption
import Duplex.Proofs.WrittenText
import Duplex.Proofs.ArrayRoundTrip
import Duplex.Proofs.WholeFrames
import Duplex.Proofs.ListenerSteps
import Duplex.Proofs.Tracking
import Duplex.Proofs.Awaiting
import Duplex.Proofs.Serialising
import Duplex.Proofs.HoldingUp
import Duplex.Proofs.Delivering
import Duplex.Proofs.EndToEnd
import Duplex.Proofs.Buffering
import Duplex.Proofs.GoingDown
import Duplex.Proofs.TextStreams
import Duplex.Proofs.Cancelling
import Duplex.Proofs.PassingOn
import Duplex.Proofs.Racing
import Duplex.Proofs.Connecting
import Duplex.Proofs.Outcomes
import Duplex.Proofs.Subscribing
import Duplex.Proofs.WritingArrays
import Duplex.Proofs.CanonicalArrays
import Duplex.Proofs.SettingsEntries
import Duplex.Proofs.FaultIdentity
import Duplex.Proofs.Progress
import Duplex.Proofs.SplittingText
