import SwitchV2P.TransitionSystem
import SwitchV2P.AddressPlan
import SwitchV2P.Forwarding
import SwitchV2P.RoutingDelivery
import SwitchV2P.IlpControllerApp
import SwitchV2P.P4SwitchAppSpec
import SwitchV2P.SocketHelper
import SwitchV2P.GatewayApp
import SwitchV2P.TraceSimulation
import SwitchV2P.StaticMappings
import SwitchV2P.Provenance
import SwitchV2P.SingleMigration
import SwitchV2P.TagDiscipline
import SwitchV2P.SpillOver
import SwitchV2P.ActiveEntries
import SwitchV2P.InvalidationReports
import SwitchV2P.LearningPackets
import SwitchV2P.FollowMe
import SwitchV2P.PrototypeSpine
import SwitchV2P.PrototypePairing
import SwitchV2P.PrototypeEviction
import SwitchV2P.PrototypeRedirect
import SwitchV2P.PrototypeTimeout
import SwitchV2P.Promotion
import SwitchV2P.FlowPaths
import SwitchV2P.BluebirdSpec
import SwitchV2P.RemoveCalls
import SwitchV2P.SwitchApp
import SwitchV2P.Placement
import SwitchV2P.FlowStatistics
import SwitchV2P.TcpClientApp
import SwitchV2P.TraceFlows
import SwitchV2P.ClientApp
import SwitchV2P.BitFormat
import SwitchV2P.ControllerObjective
import SwitchV2P.GatewayLoad
import SwitchV2P.OnesComplement
import SwitchV2P.PrototypeFrames
import SwitchV2P.PrototypeMessages
import SwitchV2P.PrototypeRuns
import SwitchV2P.RoutedCounters
import SwitchV2P.RoutedResolution
import SwitchV2P.RoutedQueries
import SwitchV2P.IpInterceptor
