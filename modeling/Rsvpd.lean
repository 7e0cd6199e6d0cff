import Rsvpd.TreeCalls
import Rsvpd.LiveTunnels
import Rsvpd.LabelOwners
import Rsvpd.RouteFound
import Rsvpd.SessionIdentity
import Rsvpd.KernelRoutes
import Rsvpd.Orphans
import Rsvpd.LabelAgreement
import Rsvpd.Refreshes
import Rsvpd.ReservationPaths
import Rsvpd.DistinctLabels
import Rsvpd.PathInStep
import Rsvpd.SoftState
import Rsvpd.Idempotence
import Rsvpd.LabelCalls
import Rsvpd.RoundTrip
import Rsvpd.RefreshInterval
import Rsvpd.PacketMemory
import Rsvpd.PacketWalk
import Rsvpd.Datagrams
import Rsvpd.ReceiveLoop
import Rsvpd.AdvertisedLabels
import Rsvpd.LockDiscipline
import Rsvpd.DueSessions
import Rsvpd.PathSweep
import Rsvpd.Teardown
import Rsvpd.LongestPrefix
import Rsvpd.Egress
import Rsvpd.FirstMatch
import Rsvpd.TreeMemory
import Rsvpd.Checksum
import Rsvpd.SubnetMask
import Rsvpd.TreeDepth
import Rsvpd.Display
import Rsvpd.Listings
import Rsvpd.NetlinkRoutes
import Rsvpd.PointerSweeps
import Rsvpd.Lib.Wave
import Rsvpd.TunnelSetup
import Rsvpd.TunnelRoutes
import Rsvpd.TreeItems
import Rsvpd.RecordMemory
import Rsvpd.RecordRuns
import Rsvpd.SessionCalls
import Rsvpd.SessionRuns
import Rsvpd.Lib.Blocks
import Rsvpd.NetlinkFormat
import Rsvpd.AddressText
import Rsvpd.RouteText
import Rsvpd.Lib.Format
import Rsvpd.CommandText
import Rsvpd.Lib.Backlog
import Rsvpd.Backlog
import Rsvpd.Lib.PosixTimers
import Rsvpd.TimerEvents
import Rsvpd.TimerSchedule
import Rsvpd.LabelSequence
import Rsvpd.Lib.Stdio
import Rsvpd.TunnelInput
import Rsvpd.ChainSilence
import Rsvpd.ChainRevival
import Rsvpd.ChainRejoin
