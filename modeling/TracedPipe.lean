import TracedPipe.Digest
import TracedPipe.Errno
import TracedPipe.Event
import TracedPipe.Host.Calls
import TracedPipe.Host.Change
import TracedPipe.Host.Path
import TracedPipe.Session.Basic
import TracedPipe.Session.Run
import TracedPipe.Stream.Reading
import TracedPipe.Text.Basic
import TracedPipe.Text.Quoted
import TracedPipe.Text.Utf8
import TracedPipe.Tracing.Announce
import TracedPipe.Proofs.Host.Changes
import TracedPipe.Proofs.Host.Faults
import TracedPipe.Proofs.Host.FileReads
import TracedPipe.Proofs.Host.OpenFiles
import TracedPipe.Proofs.Host.Outline
import TracedPipe.Proofs.Host.Queues
import TracedPipe.Proofs.Host.SystemCall
import TracedPipe.Proofs.Session.Agreement
import TracedPipe.Proofs.Session.Atomicity
import TracedPipe.Proofs.Session.Calls
import TracedPipe.Proofs.Session.Channels
import TracedPipe.Proofs.Session.Deeds
import TracedPipe.Proofs.Session.ErrorViews
import TracedPipe.Proofs.Session.FifoStreams
import TracedPipe.Proofs.Session.FileStreams
import TracedPipe.Proofs.Session.Forms
import TracedPipe.Proofs.Session.GivenPaths
import TracedPipe.Proofs.Session.Glimpses
import TracedPipe.Proofs.Session.Lifecycle
import TracedPipe.Proofs.Session.Narrowing
import TracedPipe.Proofs.Session.Provenance
import TracedPipe.Proofs.Session.Register
import TracedPipe.Proofs.Session.Trail
import TracedPipe.Proofs.Session.Transparency
import TracedPipe.Proofs.Stream.Course
import TracedPipe.Proofs.Stream.Delivery
import TracedPipe.Proofs.Stream.Gathered
import TracedPipe.Proofs.Stream.Remaining
import TracedPipe.Proofs.Text.Characters
import TracedPipe.Proofs.Text.Decomposition
import TracedPipe.Proofs.Text.Units
import TracedPipe.Proofs.Tracing.Channels
import TracedPipe.Proofs.Tracing.DebugForm
import TracedPipe.Proofs.Tracing.Line
