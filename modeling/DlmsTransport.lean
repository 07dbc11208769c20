import DlmsTransport.Transport.TcpStream
import DlmsTransport.Transport.TcpServer
import DlmsTransport.Transport.Serial
import DlmsTransport.Transport.Udp
import DlmsTransport.Transport.ByteStream
import DlmsTransport.Transport.WriteAllProperties
import DlmsTransport.Transport.EventLoopTimerProperties
import DlmsTransport.Transport.EventLoopCallbackProperties
import DlmsTransport.Transport.EventLoopTokenProperties
import DlmsTransport.Interaction.Machine
import DlmsTransport.Transport.TcpFatalErrorProperties
import DlmsTransport.Transport.LengthProperties
import DlmsTransport.Interaction.Custody
import DlmsTransport.Posix.Descriptors
import DlmsTransport.Transport.DescriptorOwnership
import DlmsTransport.Transport.TcpOwnershipProperties
import DlmsTransport.Transport.UdpReceiveProperties
import DlmsTransport.Transport.Tls
import DlmsTransport.Transport.TlsSessionProperties
import DlmsTransport.Transport.TlsLifecycleProperties
import DlmsTransport.Transport.ReadStreamProperties
import DlmsTransport.Transport.ReadProgressProperties
import DlmsTransport.Interaction.Lockstep
import DlmsTransport.Transport.Fakes
import DlmsTransport.Transport.UdpOpening
import DlmsTransport.Transport.FakeDatagramProperties
import DlmsTransport.Transport.FakeStreamProperties
import DlmsTransport.Posix.AddressLists
import DlmsTransport.Transport.UdpOwnershipProperties
import DlmsTransport.Interaction.Sharing
import DlmsTransport.Transport.ServerSystem
import DlmsTransport.Transport.ServerOwnershipProperties
import DlmsTransport.Transport.WaitRangeProperties
import DlmsTransport.Transport.InterchangeProperties
import DlmsTransport.Interaction.ChunkQueue
import DlmsTransport.Transport.FakeConservationProperties
import DlmsTransport.Transport.FakeBoundaryProperties
import DlmsTransport.Text.Search
import DlmsTransport.Transport.ModeE
import DlmsTransport.Text.Sorting
import DlmsTransport.Transport.ModeEProperties
import DlmsTransport.Transport.SerialDiscovery
import DlmsTransport.Transport.SerialDiscoveryProperties
import DlmsTransport.Interaction.Recording
import DlmsTransport.Transport.AcceptStatusProperties
import DlmsTransport.Transport.ConnectOutcomeProperties
import DlmsTransport.Transport.WriteTerminationProperties
import DlmsTransport.Interaction.Medium
import DlmsTransport.Transport.TcpConnection
import DlmsTransport.Transport.TcpLinkProperties
import DlmsTransport.Interaction.Pool
import DlmsTransport.Transport.CApi
import DlmsTransport.Transport.CApiProperties
import DlmsTransport.Interaction.Layers
import DlmsTransport.Interaction.Typestate
import DlmsTransport.Posix.DescriptorStates
import DlmsTransport.Transport.ByteStreamOwnership
import DlmsTransport.Transport.CApiCalls
import DlmsTransport.Transport.CApiDisciplineProperties
import DlmsTransport.Transport.ServerDisciplineProperties
import DlmsTransport.Transport.TlsStackProperties
import DlmsTransport.Transport.TlsUnsupportedProperties
import DlmsTransport.Transport.UdpLinkProperties
import DlmsTransport.Interaction.Spending
import DlmsTransport.Transport.CApiIsolationProperties
import DlmsTransport.Transport.WaitingTime
import DlmsTransport.Transport.WaitingTimeProperties
