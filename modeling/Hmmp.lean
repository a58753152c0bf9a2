import Hmmp.Resilience.CircuitBreakerSafety
import Hmmp.Resilience.CircuitBreakerRecovery
import Hmmp.Resilience.LoadBalancerPermits
import Hmmp.Wire.GovernanceTransport
import Hmmp.Connection.ReadLoop
import Hmmp.Connection.CloseCallback
import Hmmp.Client.MultiplexingSafety
import Hmmp.Client.KeyAgreement
import Hmmp.Client.ConnectStall
import Hmmp.Client.ConfigFetchStall
import Hmmp.Client.RequestFraming
import Hmmp.Client.RequestLoss
import Hmmp.Client.RequestCleanup
import Hmmp.Cache.SnapshotFreshness
import Hmmp.Cache.SnapshotIsolation
import Hmmp.Cache.SnapshotCrash
import Hmmp.Client.RedirectDrain
import Hmmp.Client.OneConnection
import Hmmp.Client.UninterruptedCalls
import Hmmp.Cache.TopologyGuard
import Hmmp.Cache.KeyIsolation
import Hmmp.Cache.ConfigConsistency
import Hmmp.Wire.GovernanceRoundTrip
import Hmmp.Models.FilterReading
import Hmmp.Connection.RequestTableSafety
import Hmmp.Resilience.ProbeOutcomes
import Hmmp.Resilience.RecoveredBreaker
import Hmmp.Wire.FrameTiling
import Hmmp.Connection.FrameRouting
import Hmmp.Security.AuthenticatedBodies
import Hmmp.Client.EncryptedContent
import Hmmp.Resilience.EffectiveWeight
import Hmmp.Resilience.WeightedSelection
import Hmmp.Resilience.TrafficColor
import Hmmp.Resilience.TripPaths
import Hmmp.Wire.TrafficTruncation
import Hmmp.Wire.MetadataHash
import Hmmp.Models.FilteredReading
import Hmmp.Models.ConfigReading
import Hmmp.Resilience.Backpressure
import Hmmp.Resilience.MetricsCollector
import Hmmp.Client.ChangeDispatch
import Hmmp.Security.SignedMessages
import Hmmp.Client.AdminFraming
import Hmmp.Wire.FieldSequences
import Hmmp.Foundation.KeyedHistory
import Hmmp.Foundation.Broadcast
import Hmmp.Resilience.RegistryRuns
import Hmmp.Resilience.RegistryPushes
import Hmmp.Resilience.RegistrySelection
import Hmmp.Cache.SnapshotConvergence
import Hmmp.Cache.MetadataHashes
import Hmmp.Cache.CanaryVersions
import Hmmp.Wire.BodyReading
import Hmmp.Client.NoticeBodies
import Hmmp.Client.Notifications
import Hmmp.Client.PushDelivery
import Hmmp.Client.Interceptors
import Hmmp.Client.AdminResponses
import Hmmp.Resilience.ErrorReports
import Hmmp.Client.ConfigDelivery
import Hmmp.Client.ServiceBodies
import Hmmp.Client.RequestStream
import Hmmp.Client.ChallengeResponse
import Hmmp.Client.Reconnect
import Hmmp.Connection.ByteStreams
import Hmmp.Client.AddressTexts
import Hmmp.Client.AnsweredCalls
import Hmmp.Resilience.Failover
