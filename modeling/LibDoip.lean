import LibDoip.EndToEnd
import LibDoip.Record
import LibDoip.Authorisation
import LibDoip.Descriptor
import LibDoip.AliveCheck
import LibDoip.UdpReplies
import LibDoip.Determinism
import LibDoip.Quiescence
import LibDoip.Identification
import LibDoip.ClientLeftovers
import LibDoip.Acknowledgements
import LibDoip.Disconnection
import LibDoip.Shutdown
import LibDoip.Emission
import LibDoip.Transports
import LibDoip.Release
import LibDoip.Classification
import LibDoip.Reactions
import LibDoip.Payloads
import LibDoip.ClientIdentity
import LibDoip.Sizes
import LibDoip.Inactivity
import LibDoip.ReadCount
import LibDoip.ExampleServer
import LibDoip.DialogueProgress
import LibDoip.DiscoveryRuns
import LibDoip.Process
import LibDoip.ProcessService
import LibDoip.ProcessProgress
import LibDoip.Reconnect
