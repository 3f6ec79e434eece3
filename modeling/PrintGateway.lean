import PrintGateway.Soundness.NoReprint
import PrintGateway.Soundness.Capacity
import PrintGateway.Soundness.Ambiguity
import PrintGateway.Soundness.SweepBatches
import PrintGateway.Soundness.FenceRelease
import PrintGateway.Soundness.ReportReplay
import PrintGateway.Soundness.SharingPolicy
import PrintGateway.Soundness.Sharing
import PrintGateway.Soundness.ReportOutbox
import PrintGateway.Soundness.Printability
import PrintGateway.Soundness.PersistedPayload
import PrintGateway.Soundness.DesiredPaging
import PrintGateway.Soundness.PlanLimit
import PrintGateway.Soundness.DestinationPolicy
import PrintGateway.Soundness.PwgRoundTrip
import PrintGateway.Soundness.IppFormatEvidence
import PrintGateway.Soundness.BruteForce
import PrintGateway.Soundness.WebhookFence
import PrintGateway.Soundness.PdfStructure
import PrintGateway.Soundness.RawWrite
import PrintGateway.Soundness.DestinationLiterals
import PrintGateway.Soundness.Dispatch
import PrintGateway.Soundness.DiscoveryScan
import PrintGateway.Soundness.DiscoveryReport
import PrintGateway.Soundness.DiscoveryTargets
import PrintGateway.Soundness.SubmissionCron
import PrintGateway.Soundness.ExceptionWalk
import PrintGateway.Soundness.Routing
import PrintGateway.Soundness.RawTemplate
import PrintGateway.Soundness.VirtualMirror
import PrintGateway.Soundness.Registry
import PrintGateway.Soundness.VersionClock
import PrintGateway.Soundness.IntentOutcome
