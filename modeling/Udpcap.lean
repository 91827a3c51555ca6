import Udpcap.Foundation.Transition
import Udpcap.Foundation.EraseLoop
import Udpcap.Foundation.Locks
import Udpcap.Foundation.PcapFilter
import Udpcap.Foundation.Resources
import Udpcap.Foundation.StdSet
import Udpcap.HostAddress
import Udpcap.Pcpp
import Udpcap.SmallPcpp
import Udpcap.IpReassembly
import Udpcap.ReassemblySync
import Udpcap.ReassemblyExpiry
import Udpcap.Error
import Udpcap.PacketHandler
import Udpcap.CaptureFilter
import Udpcap.NpcapHelpers
import Udpcap.Socket
import Udpcap.SocketSpec
import Udpcap.Membership
import Udpcap.Receive
import Udpcap.Session
import Udpcap.LoopbackDevice
import Udpcap.HandleLifecycle
import Udpcap.FilterCurrency
import Udpcap.Delivery
import Udpcap.HandlerArguments
import Udpcap.DeliverySoundness
import Udpcap.FragmentAgreement
import Udpcap.CloseProtocol
import Udpcap.WakeUp
import Udpcap.Binding
import Udpcap.WaitHandles
import Udpcap.TimedCall
import Udpcap.Timeout
import Udpcap.PollingRounds
import Udpcap.BufferedData
import Udpcap.FilterMeaning
import Udpcap.ReportedError
import Udpcap.AddressOrder
import Udpcap.AddressText
import Udpcap.HostOrder
import Udpcap.RemoveOldPackages
import Udpcap.RegistryText
import Udpcap.LoopbackTest
import Udpcap.StatusText
import Udpcap.DeviceSearch
import Udpcap.Foundation.UniquePtr
import Udpcap.Process
import Udpcap.Foundation.Refinement
import Udpcap.ApiContract
import Udpcap.Foundation.CriticalSection
import Udpcap.HelperThreads
import Udpcap.Foundation.Footprint
import Udpcap.SharedMembers
import Udpcap.ThreadSafety
import Udpcap.Foundation.Objects
import Udpcap.PacketMemory
import Udpcap.EndToEnd
import Udpcap.Kickstart
import Udpcap.UdpService
import Udpcap.BoundedWaiting
import Udpcap.Foundation.LockOrder
import Udpcap.DeadlockFreedom
