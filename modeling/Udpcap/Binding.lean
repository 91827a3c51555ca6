import Udpcap.Session
import Udpcap.SocketSpec
import Udpcap.SmallPcpp

/-!
# What `bind` leaves behind

The devices that `bind` opens, when it gets to the end and when it does not.

## Main definitions

* `World.BindsTo` — `bind` gets to the end, and tries to open these devices.
* `World.BindsHalfway` — the adapter opens, the loopback device does not.
* `World.BindKeeps` — a failed `bind` changes nothing, a successful one opens each of its
  devices once.

## Main results

* `World.BindsTo.bind`, `World.bind_bindsTo` — when `bind` succeeds, and what is open then.
* `World.socket_of_bind_failed`, `World.BindsHalfway.bind` — what a failed `bind` leaves
  behind.
* `bound_isValid` — in every state of a session, a bound socket is valid.
* `bind_keeps_iff` — **every `bind` of a session does what it should exactly if none stops
  halfway.**
-/

namespace Udpcap

open Foundation

variable {R : Type} {np : Npcap} {api : IPReassembly R}

/-! ### The devices of an address -/

/-- What identifies an open device. -/
def PcapDev.entry (dev : PcapDev) : Handle × DeviceName := (dev.pcapHandle, dev.deviceName)

/-- The devices that open when `names` are tried one after the other, the first of them
by the n-th call of `pcap_create`. -/
def Npcap.openedDevices (np : Npcap) : ℕ → List DeviceName → List (Handle × DeviceName)
  | _, [] => []
  | n, name :: names =>
    if np.opens n then (n, name) :: np.openedDevices (n + 1) names
    else np.openedDevices (n + 1) names

theorem Npcap.openedDevices_cons (np : Npcap) (n : ℕ) (name : DeviceName)
    (names : List DeviceName) : np.openedDevices n (name :: names) =
      np.openedDevices n [name] ++ np.openedDevices (n + 1) names := by
  simp only [Npcap.openedDevices]
  split
  · rfl
  · rfl

namespace World

variable {w w' : World R} {alldevs : DeviceList} {localAddress : HostAddress} {localPort : UInt16}

/-- The devices that are open. -/
def entries (w : World R) : List (Handle × DeviceName) := w.socket.pcapDevices.map PcapDev.entry

theorem entries_openPcapDeviceNolock (np : Npcap) (api : IPReassembly R) (w : World R)
    (deviceName : DeviceName) :
    (w.openPcapDeviceNolock np api deviceName).1.entries =
      w.entries ++ np.openedDevices w.driver.created [deviceName] := by
  obtain ⟨-, -, hopened, hfailed⟩ := openPcapDeviceNolock_spec np api w deviceName
  unfold entries
  simp only [Npcap.openedDevices]
  cases hopen : np.opens w.driver.created with
  | true =>
    rw [(hopened hopen).1, if_pos rfl, List.map_append]
    rfl
  | false =>
    rw [(hfailed hopen).1, if_neg Bool.false_ne_true, List.append_nil]

/-- A device that cannot be opened is skipped, and the next one is opened by the next call
of `pcap_create`. -/
theorem entries_foldl (np : Npcap) (api : IPReassembly R)
    (devices : List (DeviceName × List Char)) (w : World R) :
    (devices.foldl (fun w dev => (w.openPcapDeviceNolock np api dev.1).1) w).entries =
      w.entries ++ np.openedDevices w.driver.created (devices.map Prod.fst) := by
  induction devices generalizing w with
  | nil => exact (List.append_nil _).symm
  | cons dev devices ih =>
    have hcreated := (openPcapDeviceNolock_spec np api w dev.1).2.1
    have hcons := np.openedDevices_cons w.driver.created dev.1 (devices.map Prod.fst)
    rw [List.foldl_cons, ih, entries_openPcapDeviceNolock, hcreated, List.append_assoc,
      List.map_cons, hcons]

/-! ### The end of `bind` -/

/-- **`bind` gets to the end**, once it has tried to open the devices `names`. -/
inductive BindsTo (np : Npcap) (api : IPReassembly R) (w : World R) (alldevs : DeviceList)
    (localAddress : HostAddress) : List DeviceName → Prop
  | loopback (hloopback : localAddress.isLoopback = true)
    (hopen : np.opens w.driver.created = true) :
    BindsTo np api w alldevs localAddress [(w.getLoopbackDeviceName np).2]
  | all (devices : List (DeviceName × List Char)) (hloopback : localAddress.isLoopback = false)
    (hany : HostAddress.eq localAddress .any = true)
    (hdevices : getAllDevices alldevs = some devices) (hne : devices ≠ []) :
    BindsTo np api w alldevs localAddress (devices.map Prod.fst)
  | adapter (dev : DeviceName × List Char) (hloopback : localAddress.isLoopback = false)
    (hany : HostAddress.eq localAddress .any = false)
    (hfind : (w.getDeviceByIp np alldevs localAddress).2 = some dev) (hname : dev.1 ≠ [])
    (hadapter : np.opens w.driver.created = true)
    (hopen : np.opens (w.driver.created + 1) = true) :
    BindsTo np api w alldevs localAddress
      [dev.1, (((w.getDeviceByIp np alldevs localAddress).1.openPcapDeviceNolock np api
        dev.1).1.getLoopbackDeviceName np).2]

/-- The adapter of the address opens, and the loopback device after it does not. -/
structure BindsHalfway (np : Npcap) (w : World R) (alldevs : DeviceList)
    (localAddress : HostAddress) : Prop where
  isValid : w.socket.isValid = true
  unbound : w.socket.boundState = false
  valid : localAddress.valid = true
  notLoopback : localAddress.isLoopback = false
  notAny : HostAddress.eq localAddress .any = false
  found : ∃ dev, (w.getDeviceByIp np alldevs localAddress).2 = some dev ∧ dev.1 ≠ []
  adapter : np.opens w.driver.created = true
  loopback : np.opens (w.driver.created + 1) = false

/-- The second of two devices is opened by the second call. -/
theorem openPcapDeviceNolock_found (np : Npcap) (api : IPReassembly R) (w : World R)
    (alldevs : DeviceList) (localAddress : HostAddress) (deviceName : DeviceName) :
    let v := (w.getDeviceByIp np alldevs localAddress).1
    (v.openPcapDeviceNolock np api deviceName).2 = np.opens w.driver.created ∧
      (v.openPcapDeviceNolock np api deviceName).1.driver.created = w.driver.created + 1 ∧
      (v.openPcapDeviceNolock np api deviceName).1.entries =
        w.entries ++ np.openedDevices w.driver.created [deviceName] := by
  intro v
  obtain ⟨hsocket, hdriver⟩ := getDeviceByIp_spec np w alldevs localAddress
  have hentries : v.entries = w.entries := by
    unfold entries
    rw [hsocket]
  obtain ⟨hresult, hcreated, -⟩ := openPcapDeviceNolock_spec np api v deviceName
  rw [entries_openPcapDeviceNolock, hentries, hresult, hcreated, hdriver]
  exact ⟨rfl, rfl, rfl⟩

theorem openLoopbackDevice_spec (np : Npcap) (api : IPReassembly R) (w : World R) :
    (w.openLoopbackDevice np api).2 = np.opens w.driver.created ∧
      (w.openLoopbackDevice np api).1.entries =
        w.entries ++ np.openedDevices w.driver.created [(w.getLoopbackDeviceName np).2] := by
  obtain ⟨hresult, -⟩ := openPcapDeviceNolock_spec np api (w.getLoopbackDeviceName np).1
    (w.getLoopbackDeviceName np).2
  exact ⟨hresult, entries_openPcapDeviceNolock np api (w.getLoopbackDeviceName np).1 _⟩

/-- The two devices of an adapter. -/
theorem entries_openAdapter (np : Npcap) (api : IPReassembly R) (w : World R)
    (alldevs : DeviceList) (localAddress : HostAddress) (deviceName : DeviceName) :
    let v := ((w.getDeviceByIp np alldevs localAddress).1.openPcapDeviceNolock np api deviceName).1
    (v.openLoopbackDevice np api).2 = np.opens (w.driver.created + 1) ∧
      (v.openLoopbackDevice np api).1.entries = w.entries ++
        np.openedDevices w.driver.created [deviceName, (v.getLoopbackDeviceName np).2] := by
  intro v
  obtain ⟨-, hcreated, hentries⟩ := openPcapDeviceNolock_found np api w alldevs localAddress
    deviceName
  obtain ⟨hresult, hloopback⟩ := openLoopbackDevice_spec np api v
  have hcons := np.openedDevices_cons w.driver.created deviceName [(v.getLoopbackDeviceName np).2]
  rw [hresult, hloopback, hcreated, hentries, hcons, List.append_assoc]
  exact ⟨rfl, rfl⟩

/-- What `openDevices` does for the address of an adapter. -/
theorem openDevices_adapter (np : Npcap) (api : IPReassembly R)
    (hloopback : localAddress.isLoopback = false)
    (hany : HostAddress.eq localAddress .any = false) {dev : DeviceName × List Char}
    (hfind : (w.getDeviceByIp np alldevs localAddress).2 = some dev) (hname : dev.1 ≠ [])
    (hadapter : np.opens w.driver.created = true) :
    let v := ((w.getDeviceByIp np alldevs localAddress).1.openPcapDeviceNolock np api dev.1).1
    w.openDevices np api alldevs localAddress = some (v.openLoopbackDevice np api) := by
  intro v
  have hopened := (openPcapDeviceNolock_found np api w alldevs localAddress dev.1).1
  rw [hadapter] at hopened
  unfold openDevices
  rw [if_neg (by rw [hloopback]; exact Bool.false_ne_true),
    if_neg (by rw [hany]; exact Bool.false_ne_true)]
  simp only
  rw [hfind, Option.map_some, if_neg (by rw [List.isEmpty_iff]; exact hname), hopened]
  rfl

/-- Where `bind` gets to the end, it has opened the devices that it should. -/
theorem BindsTo.openDevices {names : List DeviceName}
    (h : w.BindsTo np api alldevs localAddress names) :
    ∃ v, w.openDevices np api alldevs localAddress = some (v, true) ∧
      v.entries = w.entries ++ np.openedDevices w.driver.created names := by
  cases h with
  | loopback hloopback hopen =>
    obtain ⟨hresult, hentries⟩ := openLoopbackDevice_spec np api w
    refine ⟨(w.openLoopbackDevice np api).1, ?_, hentries⟩
    rw [hopen] at hresult
    unfold World.openDevices
    rw [if_pos hloopback, ← hresult]
    rfl
  | all devices hloopback hany hdevices hne =>
    refine ⟨_, ?_, entries_foldl np api devices w⟩
    unfold World.openDevices
    rw [if_neg (by rw [hloopback]; exact Bool.false_ne_true), if_pos hany, hdevices,
      Option.map_some, if_neg (by rw [List.isEmpty_iff]; exact hne)]
  | adapter dev hloopback hany hfind hname hadapter hopen =>
    obtain ⟨hresult, hentries⟩ := entries_openAdapter np api w alldevs localAddress dev.1
    refine ⟨_, ?_, hentries⟩
    rw [openDevices_adapter np api hloopback hany hfind hname hadapter, ← hopen, ← hresult]

/-- **`bind` succeeds exactly if it gets to the end**, and then the devices are open that it
should open. -/
theorem BindsTo.bind {names : List DeviceName} (h : w.BindsTo np api alldevs localAddress names)
    (hvalid : w.socket.isValid = true) (hbound : w.socket.boundState = false)
    (haddr : localAddress.valid = true) (localPort : UInt16) :
    ∃ v, w.bind np api alldevs localAddress localPort = some (v, true) ∧
      v.socket.boundState = true ∧
      v.entries = w.entries ++ np.openedDevices w.driver.created names := by
  obtain ⟨v, hopen, hentries⟩ := h.openDevices
  refine ⟨v.finishBind np localAddress localPort, ?_, ?_, ?_⟩
  · have haddr' : localAddress.isValid = true := haddr
    unfold World.bind
    rw [hvalid, hbound, haddr', hopen]
    rfl
  · rw [finishBind_socket]
  · rw [← hentries]
    unfold entries
    rw [finishBind_socket]

theorem bind_bindsTo
    (hbind : w.bind np api alldevs localAddress localPort = some (w', true)) :
    w.socket.isValid = true ∧ w.socket.boundState = false ∧ localAddress.valid = true ∧
      ∃ names, w.BindsTo np api alldevs localAddress names := by
  rcases bind_openDevices hbind with ⟨hfalse, -⟩ | ⟨hvalid, hbound, haddr, v, hopen, -⟩
  · cases hfalse
  · refine ⟨hvalid, hbound, haddr, ?_⟩
    generalize hok : true = ok at hopen
    cases openDevices_case hopen with
    | loopback hloopback =>
      rw [(openLoopbackDevice_spec np api w).1] at hok
      exact ⟨_, .loopback hloopback hok.symm⟩
    | all devices hloopback hany hdevices hne => exact ⟨_, .all devices hloopback hany hdevices hne⟩
    | adapterOpens dev v hloopback hany hfind hname hadapter =>
      obtain ⟨hopened, -⟩ := openPcapDeviceNolock_found np api w alldevs localAddress dev.1
      obtain ⟨hresult, -⟩ := entries_openAdapter np api w alldevs localAddress dev.1
      rw [hadapter] at hopened hresult
      rw [hresult] at hok
      exact ⟨_, .adapter dev hloopback hany hfind hname hopened.symm hok.symm⟩
    | noDevices | notFound | adapterFails => cases hok

/-- **A failed `bind` leaves the socket as it was**, unless it stops halfway. -/
theorem socket_of_bind_failed
    (hbind : w.bind np api alldevs localAddress localPort = some (w', false))
    (hhalfway : ¬w.BindsHalfway np alldevs localAddress) : w'.socket = w.socket := by
  rcases bind_openDevices hbind with ⟨-, rfl⟩ | ⟨hvalid, hbound, haddr, v, hopen, hw'⟩
  · rfl
  · rw [hw', if_neg Bool.false_ne_true]
    clear hw' hbind
    generalize hok : false = ok at hopen
    have hfind := (getDeviceByIp_spec np w alldevs localAddress).1
    cases openDevices_case hopen with
    | loopback hloopback =>
      obtain ⟨hresult, -, -, hfailed⟩ := openPcapDeviceNolock_spec np api
        (w.getLoopbackDeviceName np).1 (w.getLoopbackDeviceName np).2
      have hclosed := hok.trans hresult
      exact (hfailed hclosed.symm).1
    | noDevices => rfl
    | all => cases hok
    | notFound => exact hfind
    | adapterFails dev v hloopback hany hdev hname hadapter =>
      obtain ⟨hresult, -, -, hfailed⟩ := openPcapDeviceNolock_spec np api
        (w.getDeviceByIp np alldevs localAddress).1 dev.1
      rw [hadapter] at hresult hfailed
      rw [(hfailed hresult.symm).1, hfind]
    | adapterOpens dev v hloopback hany hdev hname hadapter =>
      obtain ⟨hopened, -⟩ := openPcapDeviceNolock_found np api w alldevs localAddress dev.1
      obtain ⟨hresult, -⟩ := entries_openAdapter np api w alldevs localAddress dev.1
      rw [hadapter] at hopened hresult
      rw [hresult] at hok
      exact absurd ⟨hvalid, hbound, haddr, hloopback, hany, ⟨dev, hdev, hname⟩, hopened.symm,
        hok.symm⟩ hhalfway

/-- **A `bind` that stops halfway leaves the adapter open.** -/
theorem BindsHalfway.bind (api : IPReassembly R) (h : w.BindsHalfway np alldevs localAddress)
    (localPort : UInt16) :
    ∃ v, w.bind np api alldevs localAddress localPort = some (v, false) ∧
      v.entries.length = w.entries.length + 1 := by
  obtain ⟨dev, hfind, hname⟩ := h.found
  obtain ⟨hresult, hentries⟩ := entries_openAdapter np api w alldevs localAddress dev.1
  have hopen := openDevices_adapter np api h.notLoopback h.notAny hfind hname h.adapter
  simp only at hopen
  generalize World.openLoopbackDevice np api _ = o at hresult hentries hopen
  obtain ⟨v, ok⟩ := o
  rw [h.loopback] at hresult
  refine ⟨v, ?_, ?_⟩
  · have haddr : localAddress.isValid = true := h.valid
    have hfalse : ok = false := hresult
    unfold World.bind
    rw [h.isValid, h.unbound, haddr, hopen, hfalse]
    rfl
  · rw [hentries]
    simp only [Npcap.openedDevices, h.adapter, h.loopback]
    simp

/-- Only `bind` and `close` change the devices. -/
theorem devices_apply {op : Op} {out : OpResult} (hop : w.apply np api op = some (w', out)) :
    (∃ alldevs a p ok, op = .bind alldevs a p ∧ w.bind np api alldevs a p = some (w', ok)) ∨
      op = .close ∨ (w'.socket.boundState = w.socket.boundState ∧
        w'.socket.pcapDevices = w.socket.pcapDevices) := by
  cases op with
  | bind alldevs a p =>
    obtain ⟨⟨v, ok⟩, hbind, hv⟩ := Option.map_eq_some_iff.mp hop
    cases hv
    exact Or.inl ⟨alldevs, a, p, ok, rfl, hbind⟩
  | close => exact Or.inr (Or.inl rfl)
  | setReceiveBufferSize n =>
    cases apply_case hop with
    | resizeRefused | resizes => exact Or.inr (Or.inr ⟨rfl, rfl⟩)
  | joinMulticastGroup g =>
    cases apply_case hop with
    | joinRefused => exact Or.inr (Or.inr ⟨rfl, rfl⟩)
    | joins _ v _ _ hv | joinsKickstart _ v _ _ hv | joinThrows _ v _ _ hv =>
      subst hv
      exact Or.inr (Or.inr (by simp))
  | leaveMulticastGroup g =>
    cases apply_case hop with
    | leaveRefused => exact Or.inr (Or.inr ⟨rfl, rfl⟩)
    | leaves _ v _ hv =>
      subst hv
      exact Or.inr (Or.inr (by simp))
  | setMulticastLoopbackEnabled enabled =>
    cases apply_case hop with
    | keepsLoopback => exact Or.inr (Or.inr ⟨rfl, rfl⟩)
    | setsLoopback _ v hv =>
      rw [updateAllCaptureFilters_socket, hv]
      exact Or.inr (Or.inr ⟨rfl, rfl⟩)
    | setLoopbackThrows v hv =>
      rw [kickstartLoopbackMulticast_socket, hv]
      exact Or.inr (Or.inr ⟨rfl, rfl⟩)

/-- An unbound socket has no open devices. -/
def Unopened (w : World R) : Prop := w.socket.boundState = false → w.socket.pcapDevices = []

/-- **An operation leaves no device open on an unbound socket**, unless it is a `bind` that
stops halfway. -/
theorem Unopened.apply (hw : w.Unopened) {op : Op} {out : OpResult}
    (hop : w.apply np api op = some (w', out))
    (hhalfway : ∀ alldevs a p, op = .bind alldevs a p → ¬w.BindsHalfway np alldevs a) :
    w'.Unopened := by
  unfold Unopened at hw ⊢
  rcases devices_apply hop with ⟨alldevs, a, p, ok, rfl, hbind⟩ | rfl | ⟨hbound, hdevices⟩
  · cases ok with
    | false =>
      rw [socket_of_bind_failed hbind (hhalfway alldevs a p rfl)]
      exact hw
    | true =>
      obtain ⟨hvalid, hbound, haddr, names, hnames⟩ := bind_bindsTo hbind
      obtain ⟨v', hbind', hbound', -⟩ := hnames.bind hvalid hbound haddr p
      rw [hbind] at hbind'
      cases hbind'
      intro hunbound
      rw [hbound'] at hunbound
      cases hunbound
  · cases hop
    rw [close_socket]
    exact fun _ => rfl
  · rw [hbound, hdevices]
    exact hw

end World

/-! ### A failed `bind` -/

/-- What a failed `bind` must not change. -/
structure UdpcapSocket.SameBinding (s t : UdpcapSocket R) : Prop where
  pcapDevices : t.pcapDevices = s.pcapDevices
  pcapWin32Handles : t.pcapWin32Handles = s.pcapWin32Handles
  pcapDevicesIpReassembly : t.pcapDevicesIpReassembly = s.pcapDevicesIpReassembly
  boundAddress : t.boundAddress = s.boundAddress
  boundPort : t.boundPort = s.boundPort
  boundState : t.boundState = s.boundState
  pcapDevicesClosed : t.pcapDevicesClosed = s.pcapDevicesClosed

/-- If `bind` fails, the socket is as it was; if it succeeds, the open devices are those
that it tried and that could be opened, each of them once. -/
structure World.BindKeeps (np : Npcap) (api : IPReassembly R) (w : World R) (alldevs : DeviceList)
    (localAddress : HostAddress) (localPort : UInt16) : Prop where
  failed : ∀ w', w.bind np api alldevs localAddress localPort = some (w', false) →
    w.socket.SameBinding w'.socket
  bound : ∀ w', w.bind np api alldevs localAddress localPort = some (w', true) →
    ∃ names, w.BindsTo np api alldevs localAddress names ∧
      w'.entries = np.openedDevices w.driver.created names

theorem World.bindKeeps_of_not_halfway {w : World R} (hw : w.Unopened) {alldevs : DeviceList}
    {localAddress : HostAddress} (hhalfway : ¬w.BindsHalfway np alldevs localAddress)
    (localPort : UInt16) : w.BindKeeps np api alldevs localAddress localPort where
  failed := by
    intro w' hbind
    rw [socket_of_bind_failed hbind hhalfway]
    exact ⟨rfl, rfl, rfl, rfl, rfl, rfl, rfl⟩
  bound := by
    intro w' hbind
    obtain ⟨hvalid, hbound, haddr, names, hnames⟩ := bind_bindsTo hbind
    obtain ⟨v, hbind', -, hentries⟩ := hnames.bind hvalid hbound haddr localPort
    rw [hbind] at hbind'
    cases hbind'
    refine ⟨names, hnames, ?_⟩
    have hnone : w.entries = [] := by
      unfold World.entries
      rw [hw hbound, List.map_nil]
    rw [hentries, hnone, List.nil_append]

theorem World.BindsHalfway.not_bindKeeps {w : World R} {alldevs : DeviceList}
    {localAddress : HostAddress} (h : w.BindsHalfway np alldevs localAddress)
    (localPort : UInt16) : ¬w.BindKeeps np api alldevs localAddress localPort := by
  intro hkeeps
  obtain ⟨v, hbind, hlength⟩ := h.bind api localPort
  have hsame := (hkeeps.failed v hbind).pcapDevices
  unfold entries at hlength
  rw [hsame] at hlength
  omega

section Sessions

variable {handler : Handler R} {s t : Session R} {l : SessionLabel}

/-- The `bind` that a step consists of does not stop halfway. -/
def Session.NotHalfway (np : Npcap) (s : Session R) (l : SessionLabel) : Prop :=
  ∀ alldevs a p, l = .op (.bind alldevs a p) → ¬s.world.BindsHalfway np alldevs a

/-- The `bind` that a step consists of does what it should. -/
def Session.BindKeeps (np : Npcap) (api : IPReassembly R) (s : Session R) (l : SessionLabel) :
    Prop :=
  ∀ alldevs a p, l = .op (.bind alldevs a p) → s.world.BindKeeps np api alldevs a p

theorem Session.unopened_step (hs : s.world.Unopened) (hl : s.NotHalfway np l)
    (h : sessionStep np api handler s l = some t) : t.world.Unopened := by
  rcases sessionStep_world h with ⟨op, out, rfl, -, happly⟩ | hreassembles
  · refine hs.apply happly ?_
    rintro alldevs a p rfl
    exact hl alldevs a p rfl
  · obtain ⟨reassemblers, hsocket⟩ := hreassembles.socket
    unfold World.Unopened at hs ⊢
    rw [hsocket]
    exact hs

/-- Only a valid socket is bound, and no operation makes it invalid. -/
theorem World.isValid_apply {w w' : World R} {op : Op} {out : OpResult}
    (h : w.socket.isBound = true → w.socket.isValid = true)
    (hop : w.apply np api op = some (w', out)) :
    w'.socket.isBound = true → w'.socket.isValid = true := by
  cases apply_case hop with
  | bindFails alldevs a p v opened hopen =>
    rw [hopen.socket_eq]
    exact h
  | binds alldevs a p v opened hopen =>
    obtain ⟨⟨v', ok⟩, hbind, heq⟩ := Option.map_eq_some_iff.mp hop
    cases heq
    rw [finishBind_socket, hopen.socket_eq]
    exact fun _ => (bind_bindsTo hbind).1
  | joins g v _ _ hv | joinsKickstart g v _ _ hv | joinThrows g v _ _ hv | leaves g v _ hv
  | setLoopbackThrows v hv =>
    subst hv
    simp only [kickstartLoopbackMulticast_socket, updateAllCaptureFilters_socket]
    exact h
  | setsLoopback enabled v hv =>
    rw [updateAllCaptureFilters_socket, hv]
    exact h
  | closes =>
    rw [close_socket]
    exact nofun
  | resizes | resizeRefused | joinRefused | leaveRefused | keepsLoopback => exact h

/-- **In every state of a session**, a bound socket is valid. -/
theorem bound_isValid (np : Npcap) (api : IPReassembly R) (handler : Handler R)
    (initialized : Bool) (driver : Driver) (helpers : NpcapHelpers) (labels : List SessionLabel) :
    HoldsAlong (sessionStep np api handler)
      (fun s => s.world.socket.isBound = true → s.world.socket.isValid = true)
      (Session.start (World.create initialized driver helpers)) labels := by
  refine holdsAlong_of_invariant (fun _ hs => hs) ?_ (fun h => absurd h Bool.false_ne_true)
  intro s l t hs h
  rcases sessionStep_world h with ⟨op, out, -, -, happly⟩ | hreassembles
  · exact World.isValid_apply hs happly
  · obtain ⟨reassemblers, hsocket⟩ := hreassembles.socket
    rw [hsocket]
    exact hs

/-- **Every `bind` of a session does what it should exactly if none stops halfway**, between
the adapter and the loopback device. -/
theorem bind_keeps_iff (np : Npcap) (api : IPReassembly R) (handler : Handler R)
    (initialized : Bool) (driver : Driver) (helpers : NpcapHelpers) (labels : List SessionLabel) :
    let step := sessionStep np api handler
    let start := Session.start (World.create initialized driver helpers)
    StepsMeet step (Session.BindKeeps np api) start labels ↔
      StepsMeet step (Session.NotHalfway np) start labels := by
  intro step start
  constructor
  · refine StepsMeet.mono_of_invariant (I := fun _ => True) ?_ (fun _ _ _ _ _ _ => trivial) trivial
    intro s l _ hkeeps alldevs a p hl hhalfway
    exact hhalfway.not_bindKeeps p (hkeeps alldevs a p hl)
  · refine StepsMeet.mono_of_invariant (I := fun s => s.world.Unopened) ?_
      (fun s l t hs hl hst => Session.unopened_step hs hl hst) (fun _ => rfl)
    intro s l hs hhalfway alldevs a p hl
    exact World.bindKeeps_of_not_halfway hs (hhalfway alldevs a p hl) p

end Sessions

/-- The adapter opens, the loopback device does not, and `bind` fails; the adapter stays open,
and the next `bind` opens it once more. -/
theorem bind_stops_halfway :
    let np : Npcap := { Npcap.ofLinkTypes fun _ => linktypeNull with create := fun n => n ≠ 1 }
    let adapter : PcapIf := ⟨"eth".toList, some [], [0x0100007E]⟩
    let w : World SmallPcpp.Reassembler := World.create true ⟨0, []⟩ .initial
    let bind := fun w : World SmallPcpp.Reassembler =>
      w.bind np SmallPcpp.api (some [adapter]) (HostAddress.ofInt 0x0100007E) 5000
    (bind w).map (fun o => (o.2, o.1.entries)) = some (false, [(0, "eth".toList)]) ∧
      ((bind w).bind fun o => bind o.1).map (fun o => (o.2, o.1.entries)) =
        some (true, [(0, "eth".toList), (2, "eth".toList), (3, NpcapHelpers.npfLoopback)]) := by
  decide +kernel

end Udpcap
