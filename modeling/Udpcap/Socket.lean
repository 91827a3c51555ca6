import Udpcap.Asio
import Udpcap.CaptureFilter
import Udpcap.IpReassembly
import Udpcap.NpcapHelpers

/-!
# The socket

`UdpcapSocketPrivate` without `receiveDatagram`: its state, and the operations that
open and close devices, join and leave groups, and install capture filters.

## Main definitions

* `Npcap` — the answers of Npcap, which is not part of the repository.
* `Driver` — what has been asked of Npcap so far.
* `UdpcapSocket`, `World` — the socket, and the socket together with its environment.
* `bind`, `joinMulticastGroup`, `leaveMulticastGroup`, `setMulticastLoopbackEnabled`,
  `setReceiveBufferSize`, `close` — the operations.
* `Op`, `World.apply` — one operation of a history.
-/

namespace Udpcap

/-! ### Npcap -/

/-- A `pcap_t*`, numbered by the call of `pcap_create` that returned it. -/
abbrev Handle := ℕ

def pcapError : Int := -1

def pcapErrorNotActivated : Int := -3

def pcapWarning : Int := 1

def pcapWarningPromiscNotsup : Int := 2

/-- The answers of Npcap, of the registry and of asio.  Handles are never reused, so a
function of the handle may answer differently at every call that returns one. -/
structure Npcap where
  /-- The result of the n-th lookup in the registry. -/
  registry : ℕ → Registry
  /-- Whether the n-th call of `pcap_create` returns a handle. -/
  create : ℕ → Bool
  activate : Handle → Int
  datalink : Handle → LinkLayerType
  /-- The answer to `OID_802_3_CURRENT_ADDRESS`, `none` for an error. -/
  macAddress : Handle → Option MacAddress
  compile : Handle → List Char → Int
  setFilter : Handle → List Char → Int
  /-- The answers of asio to the n-th kickstart. -/
  asio : ℕ → Asio

/-- An Npcap that has no adapter of its own for loopback traffic, on which everything
succeeds, and whose devices have the given link types and no hardware address. -/
def Npcap.ofLinkTypes (datalink : Handle → LinkLayerType) : Npcap where
  registry _ := .missing
  create _ := true
  activate _ := 0
  datalink := datalink
  macAddress _ := none
  compile _ _ := 0
  setFilter _ _ := 0
  asio _ := .working

/-- A call that has an effect outside the socket. -/
inductive Call
  | create (deviceName : DeviceName) (handle : Option Handle)
  | setBufferSize (handle : Handle) (size : Int)
  | activate (handle : Handle) (code : Int)
  | compile (handle : Handle) (text : List Char) (code : Int)
  | setFilter (handle : Handle) (text : List Char) (code : Int)
  | close (handle : Handle)
  /-- An empty packet sent to every group. -/
  | kickstart (groups : List HostAddress)
  deriving DecidableEq, Repr

/-- The calls so far, the latest one first. -/
structure Driver where
  /-- How often `pcap_create` was called. -/
  created : ℕ
  calls : List Call
  deriving Repr

def Driver.record (d : Driver) (c : Call) : Driver := { d with calls := c :: d.calls }

/-- The groups of a kickstart. -/
def Call.kickstartGroups : Call → Option (List HostAddress)
  | .kickstart groups => some groups
  | _ => none

/-- The kickstarts so far, the latest one first. -/
def Driver.kickstarts (d : Driver) : List (List HostAddress) :=
  d.calls.filterMap Call.kickstartGroups

/-- The filter that the last successful `pcap_setfilter` installed on a handle. -/
def installedBy (h : Handle) : List Call → Option (List Char)
  | [] => none
  | .setFilter h' text code :: calls =>
    if h' = h ∧ code ≠ pcapError then some text else installedBy h calls
  | _ :: calls => installedBy h calls

def Driver.installedFilter (d : Driver) (h : Handle) : Option (List Char) := installedBy h d.calls

/-- A node of the list of `pcap_findalldevs`.  The addresses are those of the family
`AF_INET`; the description may be a null pointer. -/
structure PcapIf where
  name : DeviceName
  description : Option (List Char)
  addresses : List UInt32
  deriving DecidableEq, Repr

/-- What `pcap_findalldevs` returns, `none` for an error. -/
abbrev DeviceList := Option (List PcapIf)

/-! ### The state -/

/-- `PcapDev` -/
structure PcapDev where
  pcapHandle : Handle
  isLoopback : Bool
  deviceName : DeviceName
  deriving DecidableEq, Repr

/-- The data members of `UdpcapSocketPrivate`, without its mutexes. -/
structure UdpcapSocket (R : Type) where
  isValid : Bool
  boundState : Bool
  boundAddress : HostAddress
  boundPort : UInt16
  /-- A `std::set`, in order. -/
  multicastGroups : List HostAddress
  multicastLoopbackEnabled : Bool
  pcapDevicesClosed : Bool
  pcapDevices : List PcapDev
  /-- The event of each device, named by the handle that it belongs to. -/
  pcapWin32Handles : List Handle
  pcapDevicesIpReassembly : List (IpReassembly R)
  receiveBufferSize : Int

/-- `isBound` -/
def UdpcapSocket.isBound {R : Type} (s : UdpcapSocket R) : Bool := s.boundState

/-- `localAddress` -/
def UdpcapSocket.localAddress {R : Type} (s : UdpcapSocket R) : HostAddress := s.boundAddress

/-- `localPort` -/
def UdpcapSocket.localPort {R : Type} (s : UdpcapSocket R) : UInt16 := s.boundPort

/-- `isClosed` -/
def UdpcapSocket.isClosed {R : Type} (s : UdpcapSocket R) : Bool := s.pcapDevicesClosed

/-- The socket, Npcap, and the globals that remember the loopback device. -/
structure World (R : Type) where
  socket : UdpcapSocket R
  driver : Driver
  helpers : NpcapHelpers

variable {R : Type}

/-- The constructor, with the result of `Udpcap::Initialize()`. -/
def UdpcapSocket.create (initialized : Bool) : UdpcapSocket R where
  isValid := initialized
  boundState := false
  boundAddress := .invalid
  boundPort := 0
  multicastGroups := []
  multicastLoopbackEnabled := true
  pcapDevicesClosed := false
  pcapDevices := []
  pcapWin32Handles := []
  pcapDevicesIpReassembly := []
  receiveBufferSize := -1

/-- A new socket. -/
def World.create (initialized : Bool) (driver : Driver) (helpers : NpcapHelpers) : World R :=
  ⟨.create initialized, driver, helpers⟩

/-- `MAX_PACKET_SIZE` -/
def maxPacketSize : Int := 65536

/-- The maximum age of a package in a reassembler of the socket: five seconds. -/
def maxPackageAge : Int := 5000000000

/-! ### Capture filters -/

/-- The hardware address that `getMac` prints, if the device has one. -/
def deviceMac (np : Npcap) (h : Handle) : Option MacAddress :=
  if np.datalink h = linktypeEthernet then np.macAddress h else none

/-- `getMac` -/
def getMac (np : Npcap) (h : Handle) : List Char := macText (deviceMac np h)

/-- `createFilterString`, on the members that it reads. -/
def UdpcapSocket.filterString (np : Npcap) (s : UdpcapSocket R) (pcapDev : PcapDev) : List Char :=
  createFilterString (getMac np pcapDev.pcapHandle) pcapDev.isLoopback s.boundAddress s.boundPort
    s.multicastGroups s.multicastLoopbackEnabled

namespace World

variable (np : Npcap) (api : IPReassembly R)

def record (w : World R) (c : Call) : World R := { w with driver := w.driver.record c }

/-- `updateCaptureFilter` -/
def updateCaptureFilter (w : World R) (pcapDev : PcapDev) : World R :=
  let h := pcapDev.pcapHandle
  let filterString := w.socket.filterString np pcapDev
  let w := w.record (.compile h filterString (np.compile h filterString))
  if np.compile h filterString = pcapError then w
  else w.record (.setFilter h filterString (np.setFilter h filterString))

/-- `updateAllCaptureFilters`, and the same loop in `bind`. -/
def updateAllCaptureFilters (w : World R) : World R :=
  w.socket.pcapDevices.foldl (updateCaptureFilter np) w

/-- A kickstart in this state ends with an exception. -/
def kickstartThrows (w : World R) : Bool :=
  (Udpcap.kickstartLoopbackMulticast (np.asio w.driver.kickstarts.length)
    w.socket.multicastGroups).threw

/-- `kickstartLoopbackMulticast`, and whether it ends with an exception. -/
def kickstartLoopbackMulticast (w : World R) : World R × Bool :=
  (w.record (.kickstart w.socket.multicastGroups), w.kickstartThrows np)

/-! ### Opening devices -/

/-- `pcap_create` -/
def pcapCreate (w : World R) (deviceName : DeviceName) : World R × Option Handle :=
  let h := w.driver.created
  let result := if np.create h then some h else none
  ({ w with driver := ⟨h + 1, .create deviceName result :: w.driver.calls⟩ }, result)

/-- `pcap_set_buffer_size`, if a size was set, and `pcap_activate`. -/
def pcapActivate (w : World R) (h : Handle) : World R × Int :=
  let w := if (0 : Int) < w.socket.receiveBufferSize then
    w.record (.setBufferSize h w.socket.receiveBufferSize) else w
  (w.record (.activate h (np.activate h)), np.activate h)

/-- Enters an activated device into the three lists. -/
def addDevice (w : World R) (h : Handle) (deviceName : DeviceName) : World R :=
  let (helpers, isLoopback) := NpcapHelpers.isLoopbackDevice np.registry w.helpers deviceName
  { w with
    helpers := helpers
    socket.pcapDevices := w.socket.pcapDevices ++ [⟨h, isLoopback, deviceName⟩]
    socket.pcapWin32Handles := w.socket.pcapWin32Handles ++ [h]
    socket.pcapDevicesIpReassembly := w.socket.pcapDevicesIpReassembly ++
      [IpReassembly.create api maxPackageAge defaultMaxPacketsToStore] }

/-- `openPcapDevice_nolock`.  All error codes of `pcap_activate` are treated alike,
up to the text that is printed. -/
def openPcapDeviceNolock (w : World R) (deviceName : DeviceName) : World R × Bool :=
  match w.pcapCreate np deviceName with
  | (w, none) => (w, false)
  | (w, some h) =>
    let (w, errorcode) := w.pcapActivate np h
    if errorcode = 0 ∨ errorcode = pcapWarningPromiscNotsup ∨ errorcode = pcapWarning then
      (w.addDevice np api h deviceName, true)
    else (w.record (.close h), false)

/-- `GetLoopbackDeviceName` -/
def getLoopbackDeviceName (w : World R) : World R × DeviceName :=
  let (helpers, name) := NpcapHelpers.getLoopbackDeviceName np.registry w.helpers
  ({ w with helpers := helpers }, name)

/-- The name and the description of a device; `none` when the description is a null
pointer, from which no `std::string` can be made. -/
def deviceNames (pcapDev : PcapIf) : Option (DeviceName × List Char) :=
  pcapDev.description.map fun description => (pcapDev.name, description)

/-- The loop of `getDeviceByIp`. -/
def findDevice (ip : HostAddress) :
    World R → List PcapIf → World R × Option (DeviceName × List Char)
  | w, [] => (w, some ([], []))
  | w, pcapDev :: devices =>
    let (helpers, isLoopback) := NpcapHelpers.isLoopbackDevice np.registry w.helpers pcapDev.name
    let w := { w with helpers := helpers }
    if isLoopback then findDevice ip w devices
    else if ip.toInt ∈ pcapDev.addresses then (w, deviceNames pcapDev)
    else findDevice ip w devices

/-- `getDeviceByIp`.  The name and the description are those that the list held while it was
there.  The source reads them only after `pcap_freealldevs`, which is a fault in the search
with the memory of the list, `Udpcap.getDeviceByIp` (`World.getDeviceByIp_of_match`); what
follows a match is here the behaviour of a source whose read returns what was there. -/
def getDeviceByIp (w : World R) (alldevs : DeviceList) (ip : HostAddress) :
    World R × Option (DeviceName × List Char) :=
  if !ip.isValid then (w, some ([], []))
  else findDevice np ip w (alldevs.getD [])

/-- `getAllDevices` -/
def getAllDevices (alldevs : DeviceList) : Option (List (DeviceName × List Char)) :=
  (alldevs.getD []).mapM deviceNames

/-! ### Operations -/

end World

/-- How a call of an operation ends. -/
inductive OpResult
  | returned (result : Bool)
  /-- A call that returns nothing. -/
  | finished
  | threw
  deriving DecidableEq, Repr

namespace World

variable (np : Npcap) (api : IPReassembly R)

/-- The part of `bind` that opens the devices of an address, and whether it gets to
the end; `none` when a description is a null pointer, which is undefined behaviour.  The read
from freed memory in `getDeviceByIp` has a result here. -/
def openDevices (w : World R) (alldevs : DeviceList) (localAddress : HostAddress) :
    Option (World R × Bool) :=
  if localAddress.isLoopback then
    let (w, name) := w.getLoopbackDeviceName np
    some (w.openPcapDeviceNolock np api name)
  else if HostAddress.eq localAddress .any then
    (getAllDevices alldevs).map fun devices =>
      if devices.isEmpty then (w, false)
      else
        -- a device that cannot be opened is skipped
        (devices.foldl (fun w dev => (w.openPcapDeviceNolock np api dev.1).1) w, true)
  else
    let (w, dev) := w.getDeviceByIp np alldevs localAddress
    dev.map fun dev =>
      if dev.1.isEmpty then (w, false)
      else
        let (w, opened) := w.openPcapDeviceNolock np api dev.1
        if !opened then (w, false)
        else
          -- the local machine may send to its own address through the loopback device
          let (w, name) := w.getLoopbackDeviceName np
          w.openPcapDeviceNolock np api name

/-- The end of a successful `bind`. -/
def finishBind (w : World R) (localAddress : HostAddress) (localPort : UInt16) : World R :=
  updateAllCaptureFilters np { w with
    socket.boundAddress := localAddress
    socket.boundPort := localPort
    socket.boundState := true
    socket.pcapDevicesClosed := false }

/-- `bind`; `none` when a description is a null pointer (`openDevices`). -/
def bind (w : World R) (alldevs : DeviceList) (localAddress : HostAddress) (localPort : UInt16) :
    Option (World R × Bool) :=
  if !w.socket.isValid then some (w, false)
  else if w.socket.boundState then some (w, false)
  else if !localAddress.isValid then some (w, false)
  else
    (w.openDevices np api alldevs localAddress).map fun (w, opened) =>
      if opened then (w.finishBind np localAddress localPort, true) else (w, false)

/-- `setReceiveBufferSize` -/
def setReceiveBufferSize (w : World R) (bufferSize : Int) : World R × Bool :=
  if !w.socket.isValid then (w, false)
  else if w.socket.boundState then (w, false)
  else if bufferSize < maxPacketSize then (w, false)
  else ({ w with socket.receiveBufferSize := bufferSize }, true)

/-- `joinMulticastGroup` -/
def joinMulticastGroup (w : World R) (groupAddress : HostAddress) : World R × OpResult :=
  if !w.socket.isValid then (w, .returned false)
  else if !groupAddress.isValid then (w, .returned false)
  else if !groupAddress.isMulticast then (w, .returned false)
  else if !w.socket.boundState then (w, .returned false)
  else if StdSet.contains HostAddress.lt groupAddress w.socket.multicastGroups then
    (w, .returned false)
  else
    let w := { w with
      socket.multicastGroups :=
        StdSet.emplace HostAddress.lt groupAddress w.socket.multicastGroups }
    let w := updateAllCaptureFilters np w
    if w.socket.multicastLoopbackEnabled then
      let (w, threw) := kickstartLoopbackMulticast np w
      -- the group has been added and the filters are updated, also when it throws
      (w, if threw then .threw else .returned true)
    else (w, .returned true)

/-- `leaveMulticastGroup` -/
def leaveMulticastGroup (w : World R) (groupAddress : HostAddress) : World R × Bool :=
  if !w.socket.isValid then (w, false)
  else if !groupAddress.isValid then (w, false)
  else if !StdSet.contains HostAddress.lt groupAddress w.socket.multicastGroups then (w, false)
  else
    let w := { w with
      socket.multicastGroups := StdSet.erase HostAddress.lt groupAddress w.socket.multicastGroups }
    (updateAllCaptureFilters np w, true)

/-- `setMulticastLoopbackEnabled` -/
def setMulticastLoopbackEnabled (w : World R) (enabled : Bool) : World R × OpResult :=
  if w.socket.multicastLoopbackEnabled = enabled then (w, .finished)
  else
    let w := { w with socket.multicastLoopbackEnabled := enabled }
    if enabled then
      let (w, threw) := kickstartLoopbackMulticast np w
      -- an exception leaves the filters as they are
      if threw then (w, .threw) else (updateAllCaptureFilters np w, .finished)
    else (updateAllCaptureFilters np w, .finished)

/-- `close` -/
def close (w : World R) : World R :=
  let w := { w with socket.pcapDevicesClosed := true }
  let w := w.socket.pcapDevices.foldl (fun w pcapDev => w.record (.close pcapDev.pcapHandle)) w
  { w with
    socket.pcapDevices := []
    socket.pcapWin32Handles := []
    socket.pcapDevicesIpReassembly := []
    socket.boundState := false
    socket.boundPort := 0
    socket.boundAddress := .invalid }

/-! ### Histories -/

end World

/-- A call of an operation, with the devices that Npcap enumerates meanwhile. -/
inductive Op
  | bind (alldevs : DeviceList) (localAddress : HostAddress) (localPort : UInt16)
  | setReceiveBufferSize (bufferSize : Int)
  | joinMulticastGroup (groupAddress : HostAddress)
  | leaveMulticastGroup (groupAddress : HostAddress)
  | setMulticastLoopbackEnabled (enabled : Bool)
  | close
  deriving DecidableEq, Repr

/-- The effect of a call, and how it ends. -/
def World.apply (np : Npcap) (api : IPReassembly R) (w : World R) :
    Op → Option (World R × OpResult)
  | .bind alldevs localAddress localPort =>
    (w.bind np api alldevs localAddress localPort).map fun o => (o.1, .returned o.2)
  | .setReceiveBufferSize bufferSize =>
    some ((w.setReceiveBufferSize bufferSize).1, .returned (w.setReceiveBufferSize bufferSize).2)
  | .joinMulticastGroup groupAddress => some (w.joinMulticastGroup np groupAddress)
  | .leaveMulticastGroup groupAddress =>
    some ((w.leaveMulticastGroup np groupAddress).1,
      .returned (w.leaveMulticastGroup np groupAddress).2)
  | .setMulticastLoopbackEnabled enabled => some (w.setMulticastLoopbackEnabled np enabled)
  | .close => some (w.close, .finished)

end Udpcap
