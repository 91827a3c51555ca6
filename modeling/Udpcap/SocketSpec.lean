import Udpcap.Socket

/-!
# What the operations of the socket change

One lemma for every function of the socket, so that no invariant has to look into
its branches again.

## Main definitions

* `Opens` — the effect of opening devices.
* `OpenCase` — how `bind` opens the devices of an address.
* `OpCase` — what a call of an operation does.
* `Preserved` — a property that every action of the operations preserves.
* `UdpcapSocket.Lockstep` — the lists of devices, events and reassemblers change together.

## Main results

* `bind_cases`, `joinMulticastGroup_cases`, `leaveMulticastGroup_cases` — what the
  operations do, case by case.
* `apply_case` — a call is one of the cases; every invariant looks at them only.
* `Preserved.apply` — **what every action preserves, every operation preserves.**
* `lockstep_apply` — **an operation changes the three lists together.**
* `installedFilter_updateAll` — **updating all filters installs the current filter
  text on every device.**
-/

namespace Udpcap

namespace World

variable {R : Type} {np : Npcap} {api : IPReassembly R}

/-! ### Capture filters -/

@[simp] theorem updateCaptureFilter_socket (w : World R) (dev : PcapDev) :
    (w.updateCaptureFilter np dev).socket = w.socket := by
  unfold updateCaptureFilter
  simp only
  split <;> rfl

@[simp] theorem updateCaptureFilter_created (w : World R) (dev : PcapDev) :
    (w.updateCaptureFilter np dev).driver.created = w.driver.created := by
  unfold updateCaptureFilter
  simp only
  split <;> rfl

@[simp] theorem updateCaptureFilter_helpers (w : World R) (dev : PcapDev) :
    (w.updateCaptureFilter np dev).helpers = w.helpers := by
  unfold updateCaptureFilter
  simp only
  split <;> rfl

theorem foldl_updateCaptureFilter (devs : List PcapDev) (w : World R) :
    (devs.foldl (updateCaptureFilter np) w).socket = w.socket ∧
      (devs.foldl (updateCaptureFilter np) w).driver.created = w.driver.created ∧
      (devs.foldl (updateCaptureFilter np) w).helpers = w.helpers := by
  induction devs generalizing w with
  | nil => exact ⟨rfl, rfl, rfl⟩
  | cons dev devs ih =>
    obtain ⟨hsocket, hcreated, hhelpers⟩ := ih (w.updateCaptureFilter np dev)
    rw [updateCaptureFilter_socket] at hsocket
    rw [updateCaptureFilter_created] at hcreated
    rw [updateCaptureFilter_helpers] at hhelpers
    exact ⟨hsocket, hcreated, hhelpers⟩

@[simp] theorem updateAllCaptureFilters_socket (w : World R) :
    (w.updateAllCaptureFilters np).socket = w.socket :=
  (foldl_updateCaptureFilter w.socket.pcapDevices w).1

@[simp] theorem updateAllCaptureFilters_created (w : World R) :
    (w.updateAllCaptureFilters np).driver.created = w.driver.created :=
  (foldl_updateCaptureFilter w.socket.pcapDevices w).2.1

@[simp] theorem updateAllCaptureFilters_helpers (w : World R) :
    (w.updateAllCaptureFilters np).helpers = w.helpers :=
  (foldl_updateCaptureFilter w.socket.pcapDevices w).2.2

@[simp] theorem kickstartLoopbackMulticast_socket (np : Npcap) (w : World R) :
    (w.kickstartLoopbackMulticast np).1.socket = w.socket := rfl

/-- `pcap_compile` and `pcap_setfilter` succeed. -/
def FiltersSucceed (np : Npcap) : Prop :=
  ∀ h text, np.compile h text ≠ pcapError ∧ np.setFilter h text ≠ pcapError

/-- Updating one filter installs its text on its device, and on no other. -/
theorem installedFilter_update (hok : FiltersSucceed np) (w : World R) (dev : PcapDev)
    (h : Handle) :
    (w.updateCaptureFilter np dev).driver.installedFilter h =
      if dev.pcapHandle = h then some (w.socket.filterString np dev)
      else w.driver.installedFilter h := by
  obtain ⟨hcompile, hset⟩ := hok dev.pcapHandle (w.socket.filterString np dev)
  unfold updateCaptureFilter
  simp only
  rw [if_neg hcompile]
  change installedBy h (_ :: _ :: w.driver.calls) = _
  rw [installedBy]
  by_cases hdev : dev.pcapHandle = h
  · rw [if_pos ⟨hdev, hset⟩, if_pos hdev]
  · rw [if_neg fun hand => hdev hand.1, if_neg hdev]
    rfl

theorem installedFilter_foldl (hok : FiltersSucceed np) (devs : List PcapDev) (w : World R)
    (hnodup : (devs.map PcapDev.pcapHandle).Nodup) :
    (∀ dev ∈ devs, (devs.foldl (updateCaptureFilter np) w).driver.installedFilter dev.pcapHandle =
        some (w.socket.filterString np dev)) ∧
      ∀ h, h ∉ devs.map PcapDev.pcapHandle →
        (devs.foldl (updateCaptureFilter np) w).driver.installedFilter h =
          w.driver.installedFilter h := by
  induction devs generalizing w with
  | nil => exact ⟨fun dev hdev => absurd hdev List.not_mem_nil, fun h _ => rfl⟩
  | cons dev devs ih =>
    rw [List.map_cons, List.nodup_cons] at hnodup
    obtain ⟨hin, hout⟩ := ih (w.updateCaptureFilter np dev) hnodup.2
    rw [updateCaptureFilter_socket] at hin
    constructor
    · intro dev' hdev'
      rcases List.mem_cons.mp hdev' with rfl | hdev'
      · rw [List.foldl_cons, hout _ hnodup.1, installedFilter_update hok, if_pos rfl]
      · exact hin dev' hdev'
    · intro h hh
      rw [List.map_cons, List.mem_cons, not_or] at hh
      rw [List.foldl_cons, hout h hh.2, installedFilter_update hok, if_neg (Ne.symm hh.1)]

/-- **Updating all filters installs the current filter text on every device.** -/
theorem installedFilter_updateAll (hok : FiltersSucceed np) (w : World R)
    (hnodup : (w.socket.pcapDevices.map PcapDev.pcapHandle).Nodup) :
    ∀ dev ∈ w.socket.pcapDevices,
      (w.updateAllCaptureFilters np).driver.installedFilter dev.pcapHandle =
        some (w.socket.filterString np dev) :=
  (installedFilter_foldl hok w.socket.pcapDevices w hnodup).1

/-! ### Opening devices -/

/-- The devices `opened` have been added to the socket, under new handles. -/
structure Opens (api : IPReassembly R) (w w' : World R) (opened : List PcapDev) : Prop where
  socket_eq : w'.socket = { w.socket with
    pcapDevices := w.socket.pcapDevices ++ opened
    pcapWin32Handles := w.socket.pcapWin32Handles ++ opened.map PcapDev.pcapHandle
    pcapDevicesIpReassembly := w.socket.pcapDevicesIpReassembly ++
      opened.map fun _ => IpReassembly.create api maxPackageAge defaultMaxPacketsToStore }
  created_le : w.driver.created ≤ w'.driver.created
  handle_mem : ∀ dev ∈ opened,
    w.driver.created ≤ dev.pcapHandle ∧ dev.pcapHandle < w'.driver.created
  nodup : (opened.map PcapDev.pcapHandle).Nodup

namespace Opens

/-- Nothing the socket knows about has changed. -/
theorem of_eq {w w' : World R} (hsocket : w'.socket = w.socket)
    (hcreated : w.driver.created ≤ w'.driver.created) : Opens api w w' [] where
  socket_eq := by
    rw [hsocket]
    simp
  created_le := hcreated
  handle_mem := fun _ hdev => absurd hdev List.not_mem_nil
  nodup := List.nodup_nil

theorem congr_left {w v w' : World R} {opened : List PcapDev} (h : Opens api v w' opened)
    (hsocket : v.socket = w.socket) (hcreated : v.driver.created = w.driver.created) :
    Opens api w w' opened where
  socket_eq := by
    rw [← hsocket]
    exact h.socket_eq
  created_le := hcreated ▸ h.created_le
  handle_mem := hcreated ▸ h.handle_mem
  nodup := h.nodup

theorem trans {w w' w'' : World R} {opened opened' : List PcapDev} (h : Opens api w w' opened)
    (h' : Opens api w' w'' opened') : Opens api w w'' (opened ++ opened') where
  socket_eq := by
    rw [h'.socket_eq, h.socket_eq]
    simp [List.append_assoc]
  created_le := le_trans h.created_le h'.created_le
  handle_mem := by
    intro dev hdev
    rcases List.mem_append.mp hdev with hdev | hdev
    · have hlt := (h.handle_mem dev hdev).2
      exact ⟨(h.handle_mem dev hdev).1, lt_of_lt_of_le hlt h'.created_le⟩
    · have hle := (h'.handle_mem dev hdev).1
      exact ⟨le_trans h.created_le hle, (h'.handle_mem dev hdev).2⟩
  nodup := by
    rw [List.map_append]
    refine List.nodup_append'.mpr ⟨h.nodup, h'.nodup, ?_⟩
    intro k hk hk'
    obtain ⟨dev, hdev, rfl⟩ := List.mem_map.mp hk
    obtain ⟨dev', hdev', heq⟩ := List.mem_map.mp hk'
    have hlt := (h.handle_mem dev hdev).2
    have hle := (h'.handle_mem dev' hdev').1
    rw [heq] at hle
    exact absurd hlt (not_lt.mpr hle)

end Opens

theorem pcapActivate_spec (np : Npcap) (w : World R) (h : Handle) :
    (w.pcapActivate np h).1.socket = w.socket ∧
      (w.pcapActivate np h).1.driver.created = w.driver.created ∧
      (w.pcapActivate np h).1.helpers = w.helpers := by
  unfold pcapActivate
  simp only
  split <;> exact ⟨rfl, rfl, rfl⟩

end World

/-- `pcap_create` returns the handle, and `pcap_activate` succeeds on it. -/
def Npcap.opens (np : Npcap) (h : Handle) : Bool :=
  np.create h && (np.activate h = 0 ∨ np.activate h = pcapWarningPromiscNotsup ∨
    np.activate h = pcapWarning)

namespace World

variable {R : Type} {np : Npcap} {api : IPReassembly R}

/-- The device that is opened next. -/
def nextDevice (np : Npcap) (w : World R) (deviceName : DeviceName) : PcapDev :=
  ⟨w.driver.created, (NpcapHelpers.isLoopbackDevice np.registry w.helpers deviceName).2, deviceName⟩

/-- **What opening a device comes to**: it is added to the socket, or nothing changes that
the socket knows about. -/
theorem openPcapDeviceNolock_spec (np : Npcap) (api : IPReassembly R) (w : World R)
    (deviceName : DeviceName) :
    (w.openPcapDeviceNolock np api deviceName).2 = np.opens w.driver.created ∧
      (w.openPcapDeviceNolock np api deviceName).1.driver.created = w.driver.created + 1 ∧
      (np.opens w.driver.created = true →
        (w.openPcapDeviceNolock np api deviceName).1.socket = { w.socket with
          pcapDevices := w.socket.pcapDevices ++ [w.nextDevice np deviceName]
          pcapWin32Handles := w.socket.pcapWin32Handles ++ [w.driver.created]
          pcapDevicesIpReassembly := w.socket.pcapDevicesIpReassembly ++
            [IpReassembly.create api maxPackageAge defaultMaxPacketsToStore] } ∧
        (w.openPcapDeviceNolock np api deviceName).1.helpers =
          (NpcapHelpers.isLoopbackDevice np.registry w.helpers deviceName).1) ∧
      (np.opens w.driver.created = false →
        (w.openPcapDeviceNolock np api deviceName).1.socket = w.socket ∧
          (w.openPcapDeviceNolock np api deviceName).1.helpers = w.helpers) := by
  unfold openPcapDeviceNolock pcapCreate Npcap.opens
  simp only
  cases hcreate : np.create w.driver.created with
  | false => exact ⟨rfl, rfl, nofun, fun _ => ⟨rfl, rfl⟩⟩
  | true =>
    rw [if_pos rfl, Bool.true_and]
    generalize hv : ({ w with
      driver := ⟨w.driver.created + 1, .create deviceName (some w.driver.created) ::
        w.driver.calls⟩ } : World R) = v
    obtain ⟨hsocket, hcreated, hhelpers⟩ := pcapActivate_spec np v w.driver.created
    have hvsocket : v.socket = w.socket := by rw [← hv]
    have hvcreated : v.driver.created = w.driver.created + 1 := by rw [← hv]
    have hvhelpers : v.helpers = w.helpers := by rw [← hv]
    have hcode : (v.pcapActivate np w.driver.created).2 = np.activate w.driver.created := rfl
    simp only
    rw [hcode]
    split
    next hok =>
      refine ⟨(decide_eq_true hok).symm, hcreated.trans hvcreated, ?_, ?_⟩
      · intro _
        unfold addDevice nextDevice
        simp only
        rw [hsocket, hvsocket, hhelpers, hvhelpers]
        exact ⟨rfl, rfl⟩
      · intro hfail
        exact absurd hok (of_decide_eq_false hfail)
    next hfail =>
      refine ⟨(decide_eq_false hfail).symm, hcreated.trans hvcreated, ?_, ?_⟩
      · intro hok
        exact absurd (of_decide_eq_true hok) hfail
      · intro _
        exact ⟨hsocket.trans hvsocket, hhelpers.trans hvhelpers⟩

/-- Opening a device adds it to the socket, or changes nothing that the socket knows
about. -/
theorem openPcapDeviceNolock_opens (np : Npcap) (api : IPReassembly R) (w : World R)
    (deviceName : DeviceName) :
    ∃ opened, Opens api w (w.openPcapDeviceNolock np api deviceName).1 opened := by
  obtain ⟨-, hcreated, hopened, hfailed⟩ := openPcapDeviceNolock_spec np api w deviceName
  cases hopen : np.opens w.driver.created with
  | true =>
    refine ⟨[w.nextDevice np deviceName], (hopened hopen).1, by omega, ?_, List.nodup_singleton _⟩
    intro dev hdev
    rw [List.mem_singleton.mp hdev, hcreated]
    exact ⟨le_rfl, Nat.lt_succ_self _⟩
  | false => exact ⟨[], .of_eq (hfailed hopen).1 (by omega)⟩

theorem findDevice_spec (ip : HostAddress) (devices : List PcapIf) (w : World R) :
    (w.findDevice np ip devices).1.socket = w.socket ∧
      (w.findDevice np ip devices).1.driver = w.driver := by
  induction devices generalizing w with
  | nil => exact ⟨rfl, rfl⟩
  | cons pcapDev devices ih =>
    unfold findDevice
    simp only
    have hlater := ih { w with
      helpers := (NpcapHelpers.isLoopbackDevice np.registry w.helpers pcapDev.name).1 }
    split
    · exact hlater
    · split
      · exact ⟨rfl, rfl⟩
      · exact hlater

/-- Looking for a device asks the registry only. -/
theorem getDeviceByIp_spec (np : Npcap) (w : World R) (alldevs : DeviceList) (ip : HostAddress) :
    (w.getDeviceByIp np alldevs ip).1.socket = w.socket ∧
      (w.getDeviceByIp np alldevs ip).1.driver = w.driver := by
  unfold getDeviceByIp
  split
  · exact ⟨rfl, rfl⟩
  · exact findDevice_spec ip _ w

theorem getDeviceByIp_opens (np : Npcap) (api : IPReassembly R) (w : World R)
    (alldevs : DeviceList) (ip : HostAddress) :
    Opens api w (w.getDeviceByIp np alldevs ip).1 [] := by
  obtain ⟨hsocket, hdriver⟩ := getDeviceByIp_spec np w alldevs ip
  exact .of_eq hsocket (by rw [hdriver])

theorem foldl_openPcapDeviceNolock_opens (devices : List (DeviceName × List Char)) (w : World R) :
    ∃ opened, Opens api w
      (devices.foldl (fun w dev => (w.openPcapDeviceNolock np api dev.1).1) w) opened := by
  induction devices generalizing w with
  | nil => exact ⟨[], .of_eq rfl le_rfl⟩
  | cons dev devices ih =>
    obtain ⟨opened, hopen⟩ := openPcapDeviceNolock_opens np api w dev.1
    obtain ⟨opened', hopen'⟩ := ih (w.openPcapDeviceNolock np api dev.1).1
    exact ⟨opened ++ opened', hopen.trans hopen'⟩

/-- The loopback device is opened under the name that `GetLoopbackDeviceName` gives it. -/
def openLoopbackDevice (np : Npcap) (api : IPReassembly R) (w : World R) : World R × Bool :=
  (w.getLoopbackDeviceName np).1.openPcapDeviceNolock np api (w.getLoopbackDeviceName np).2

theorem openLoopbackDevice_opens (np : Npcap) (api : IPReassembly R) (w : World R) :
    ∃ opened, Opens api w (w.openLoopbackDevice np api).1 opened := by
  obtain ⟨opened, hopen⟩ := openPcapDeviceNolock_opens np api (w.getLoopbackDeviceName np).1
    (w.getLoopbackDeviceName np).2
  exact ⟨opened, hopen.congr_left rfl rfl⟩

/-- **How `bind` opens the devices of an address**, and whether it gets to the end. -/
inductive OpenCase (np : Npcap) (api : IPReassembly R) (w : World R) (alldevs : DeviceList)
    (localAddress : HostAddress) : World R → Bool → Prop
  | loopback (hloopback : localAddress.isLoopback = true) :
    OpenCase np api w alldevs localAddress (w.openLoopbackDevice np api).1
      (w.openLoopbackDevice np api).2
  | noDevices (hloopback : localAddress.isLoopback = false)
    (hany : HostAddress.eq localAddress .any = true) (hdevices : getAllDevices alldevs = some []) :
    OpenCase np api w alldevs localAddress w false
  | all (devices : List (DeviceName × List Char)) (hloopback : localAddress.isLoopback = false)
    (hany : HostAddress.eq localAddress .any = true)
    (hdevices : getAllDevices alldevs = some devices) (hne : devices ≠ []) :
    OpenCase np api w alldevs localAddress
      (devices.foldl (fun w dev => (w.openPcapDeviceNolock np api dev.1).1) w) true
  | notFound (dev : DeviceName × List Char) (hloopback : localAddress.isLoopback = false)
    (hany : HostAddress.eq localAddress .any = false)
    (hfind : (w.getDeviceByIp np alldevs localAddress).2 = some dev) (hname : dev.1 = []) :
    OpenCase np api w alldevs localAddress (w.getDeviceByIp np alldevs localAddress).1 false
  | adapterFails (dev : DeviceName × List Char) (v : World R)
    (hloopback : localAddress.isLoopback = false)
    (hany : HostAddress.eq localAddress .any = false)
    (hfind : (w.getDeviceByIp np alldevs localAddress).2 = some dev) (hname : dev.1 ≠ [])
    (hopen : (w.getDeviceByIp np alldevs localAddress).1.openPcapDeviceNolock np api dev.1 =
      (v, false)) : OpenCase np api w alldevs localAddress v false
  | adapterOpens (dev : DeviceName × List Char) (v : World R)
    (hloopback : localAddress.isLoopback = false)
    (hany : HostAddress.eq localAddress .any = false)
    (hfind : (w.getDeviceByIp np alldevs localAddress).2 = some dev) (hname : dev.1 ≠ [])
    (hopen : (w.getDeviceByIp np alldevs localAddress).1.openPcapDeviceNolock np api dev.1 =
      (v, true)) : OpenCase np api w alldevs localAddress (v.openLoopbackDevice np api).1
        (v.openLoopbackDevice np api).2

/-- **Opening the devices of an address is one of the cases.** -/
theorem openDevices_case {w w' : World R} {alldevs : DeviceList} {localAddress : HostAddress}
    {ok : Bool} (h : w.openDevices np api alldevs localAddress = some (w', ok)) :
    OpenCase np api w alldevs localAddress w' ok := by
  unfold openDevices at h
  split at h
  next hloopback =>
    have hcase : OpenCase np api w alldevs localAddress _ _ := .loopback hloopback
    have heq : w.openLoopbackDevice np api = (w', ok) := Option.some.inj h
    rw [heq] at hcase
    exact hcase
  next hloopback =>
    have hloopback' : localAddress.isLoopback = false := Bool.not_eq_true _ ▸ hloopback
    split at h
    next hany =>
      obtain ⟨devices, hdevices, heq⟩ := Option.map_eq_some_iff.mp h
      split at heq
      next hempty =>
        cases heq
        rw [List.isEmpty_iff] at hempty
        exact .noDevices hloopback' hany (hempty ▸ hdevices)
      next hempty =>
        cases heq
        rw [List.isEmpty_iff] at hempty
        exact .all devices hloopback' hany hdevices hempty
    next hany =>
      have hany' : HostAddress.eq localAddress .any = false := Bool.not_eq_true _ ▸ hany
      generalize hget : w.getDeviceByIp np alldevs localAddress = o at h
      obtain ⟨u, found⟩ := o
      obtain ⟨dev, hfound, heq⟩ := Option.map_eq_some_iff.mp h
      have hu : (w.getDeviceByIp np alldevs localAddress).1 = u := by rw [hget]
      have hfind : (w.getDeviceByIp np alldevs localAddress).2 = some dev := by
        rw [hget]
        exact hfound
      clear hget h
      subst hu
      split at heq
      next hempty =>
        cases heq
        rw [List.isEmpty_iff] at hempty
        exact .notFound dev hloopback' hany' hfind hempty
      next hempty =>
        rw [List.isEmpty_iff] at hempty
        generalize hopen : (w.getDeviceByIp np alldevs localAddress).1.openPcapDeviceNolock np api
          dev.1 = o at heq
        obtain ⟨v, opened⟩ := o
        cases opened with
        | false =>
          cases heq
          exact .adapterFails dev _ hloopback' hany' hfind hempty hopen
        | true =>
          have hcase : OpenCase np api w alldevs localAddress _ _ :=
            .adapterOpens dev v hloopback' hany' hfind hempty hopen
          have heq' : v.openLoopbackDevice np api = (w', ok) := heq
          rw [heq'] at hcase
          exact hcase

theorem openDevices_opens {w w' : World R} {alldevs : DeviceList} {localAddress : HostAddress}
    {ok : Bool} (h : w.openDevices np api alldevs localAddress = some (w', ok)) :
    ∃ opened, Opens api w w' opened := by
  have hfind := getDeviceByIp_opens np api w alldevs localAddress
  cases openDevices_case h with
  | loopback => exact openLoopbackDevice_opens np api w
  | noDevices => exact ⟨[], .of_eq rfl le_rfl⟩
  | all devices => exact foldl_openPcapDeviceNolock_opens devices w
  | notFound => exact ⟨[], hfind⟩
  | adapterFails dev v _ _ _ _ hopen =>
    obtain ⟨opened, hadapter⟩ := openPcapDeviceNolock_opens np api
      (w.getDeviceByIp np alldevs localAddress).1 dev.1
    rw [hopen] at hadapter
    exact ⟨[] ++ opened, hfind.trans hadapter⟩
  | adapterOpens dev v _ _ _ _ hopen =>
    obtain ⟨opened, hadapter⟩ := openPcapDeviceNolock_opens np api
      (w.getDeviceByIp np alldevs localAddress).1 dev.1
    rw [hopen] at hadapter
    obtain ⟨opened', hloopback⟩ := openLoopbackDevice_opens np api v
    exact ⟨[] ++ (opened ++ opened'), hfind.trans (hadapter.trans hloopback)⟩

/-! ### The operations, case by case -/

/-- `bind` is refused, or it opens devices, and if it gets to the end it binds the
socket. -/
theorem bind_openDevices {w w' : World R} {alldevs : DeviceList} {localAddress : HostAddress}
    {localPort : UInt16} {ok : Bool}
    (h : w.bind np api alldevs localAddress localPort = some (w', ok)) :
    (ok = false ∧ w' = w) ∨
      (w.socket.isValid = true ∧ w.socket.boundState = false ∧ localAddress.valid = true ∧
        ∃ v, w.openDevices np api alldevs localAddress = some (v, ok) ∧
          w' = if ok then v.finishBind np localAddress localPort else v) := by
  unfold bind at h
  split at h
  next =>
    cases h
    exact Or.inl ⟨rfl, rfl⟩
  next hvalid =>
    split at h
    next =>
      cases h
      exact Or.inl ⟨rfl, rfl⟩
    next hbound =>
      split at h
      next =>
        cases h
        exact Or.inl ⟨rfl, rfl⟩
      next haddr =>
        obtain ⟨⟨v, opened⟩, hopen, hv⟩ := Option.map_eq_some_iff.mp h
        refine Or.inr ⟨by simpa using hvalid, by simpa using hbound,
          by simpa [HostAddress.isValid] using haddr, v, ?_⟩
        simp only at hv
        split at hv
        next htrue =>
          cases hv
          exact ⟨htrue ▸ hopen, rfl⟩
        next hfalse =>
          cases hv
          rw [Bool.not_eq_true] at hfalse
          exact ⟨hfalse ▸ hopen, rfl⟩

/-- **What `bind` does**: it opens devices unless the socket is bound, and if it
succeeds it binds the socket and installs all filters. -/
theorem bind_cases {w w' : World R} {alldevs : DeviceList} {localAddress : HostAddress}
    {localPort : UInt16} {ok : Bool}
    (h : w.bind np api alldevs localAddress localPort = some (w', ok)) :
    ∃ v opened, Opens api w v opened ∧
      ((ok = false ∧ w' = v ∧ (w.socket.boundState = true → v = w)) ∨
      (ok = true ∧ w.socket.isValid = true ∧ w.socket.boundState = false ∧
        localAddress.valid = true ∧ w' = v.finishBind np localAddress localPort)) := by
  rcases bind_openDevices h with ⟨rfl, rfl⟩ | ⟨hvalid, hbound, haddr, v, hopen, hw'⟩
  · exact ⟨w', [], .of_eq rfl le_rfl, Or.inl ⟨rfl, rfl, fun _ => rfl⟩⟩
  · obtain ⟨opened, hopened⟩ := openDevices_opens hopen
    refine ⟨v, opened, hopened, ?_⟩
    cases ok with
    | true => exact Or.inr ⟨rfl, hvalid, hbound, haddr, hw'⟩
    | false =>
      refine Or.inl ⟨rfl, hw', ?_⟩
      intro htrue
      rw [hbound] at htrue
      cases htrue

@[simp] theorem finishBind_socket (w : World R) (localAddress : HostAddress)
    (localPort : UInt16) :
    (w.finishBind np localAddress localPort).socket = { w.socket with
      boundAddress := localAddress
      boundPort := localPort
      boundState := true
      pcapDevicesClosed := false } := by
  unfold finishBind
  rw [updateAllCaptureFilters_socket]

/-- A request to join a group is not refused. -/
structure JoinGranted (w : World R) (g : HostAddress) : Prop where
  isValid : w.socket.isValid = true
  isValid_group : g.isValid = true
  isMulticast : g.isMulticast = true
  isBound : w.socket.boundState = true
  isNew : StdSet.contains HostAddress.lt g w.socket.multicastGroups = false

/-- The group is in the set, and the filters are updated. -/
def joined (np : Npcap) (w : World R) (g : HostAddress) : World R :=
  updateAllCaptureFilters np { w with
    socket.multicastGroups := StdSet.emplace HostAddress.lt g w.socket.multicastGroups }

@[simp] theorem joined_socket (np : Npcap) (w : World R) (g : HostAddress) :
    (w.joined np g).socket = { w.socket with
      multicastGroups := StdSet.emplace HostAddress.lt g w.socket.multicastGroups } :=
  updateAllCaptureFilters_socket _

/-- The kickstart of a request to join a group ends with an exception. -/
def JoinThrows (np : Npcap) (w : World R) (g : HostAddress) : Prop :=
  w.socket.multicastLoopbackEnabled = true ∧ (w.joined np g).kickstartThrows np = true

instance (np : Npcap) (w : World R) (g : HostAddress) : Decidable (w.JoinThrows np g) :=
  inferInstanceAs (Decidable (_ ∧ _))

/-- A refused request to join a group changes nothing. -/
theorem joinMulticastGroup_of_refused (np : Npcap) {w : World R} {g : HostAddress}
    (h : ¬w.JoinGranted g) : w.joinMulticastGroup np g = (w, .returned false) := by
  unfold joinMulticastGroup
  split
  next => rfl
  next hvalid =>
    split
    next => rfl
    next haddr =>
      split
      next => rfl
      next hmulticast =>
        split
        next => rfl
        next hbound =>
          split
          next => rfl
          next hnew =>
            exact absurd ⟨by simpa using hvalid, by simpa using haddr, by simpa using hmulticast,
              by simpa using hbound, by simpa using hnew⟩ h

/-- A request that is granted adds the group and updates all filters, also when the
kickstart that may follow throws. -/
theorem joinMulticastGroup_of_granted (np : Npcap) {w : World R} {g : HostAddress}
    (h : w.JoinGranted g) : w.joinMulticastGroup np g =
      (if w.socket.multicastLoopbackEnabled then
          ((w.joined np g).kickstartLoopbackMulticast np).1 else w.joined np g,
        if w.JoinThrows np g then .threw else .returned true) := by
  have hloopback : (w.joined np g).socket.multicastLoopbackEnabled =
      w.socket.multicastLoopbackEnabled := by simp
  have hgranted : w.joinMulticastGroup np g =
      if (w.joined np g).socket.multicastLoopbackEnabled then
        (((w.joined np g).kickstartLoopbackMulticast np).1,
          if (w.joined np g).kickstartThrows np then .threw else .returned true)
      else (w.joined np g, .returned true) := by
    have hvalid : ¬(!w.socket.isValid) = true := by simp [h.isValid]
    have haddr : ¬(!g.isValid) = true := by simp [h.isValid_group]
    have hmulticast : ¬(!g.isMulticast) = true := by simp [h.isMulticast]
    have hbound : ¬(!w.socket.boundState) = true := by simp [h.isBound]
    have hnew : ¬StdSet.contains HostAddress.lt g w.socket.multicastGroups = true := by
      simp [h.isNew]
    unfold joinMulticastGroup
    rw [if_neg hvalid, if_neg haddr, if_neg hmulticast, if_neg hbound, if_neg hnew]
    rfl
  rw [hgranted, hloopback]
  unfold JoinThrows
  by_cases henabled : w.socket.multicastLoopbackEnabled = true
  · simp [henabled]
  · simp [henabled]

theorem joinMulticastGroup_eq_true (np : Npcap) (w : World R) (g : HostAddress) :
    (w.joinMulticastGroup np g).2 = .returned true ↔ w.JoinGranted g ∧ ¬w.JoinThrows np g := by
  by_cases hgranted : w.JoinGranted g
  · rw [joinMulticastGroup_of_granted np hgranted]
    by_cases hthrows : w.JoinThrows np g <;> simp [hgranted, hthrows]
  · simp [joinMulticastGroup_of_refused np hgranted, hgranted]

theorem joinMulticastGroup_eq_false (np : Npcap) (w : World R) (g : HostAddress) :
    (w.joinMulticastGroup np g).2 = .returned false ↔ ¬w.JoinGranted g := by
  by_cases hgranted : w.JoinGranted g
  · rw [joinMulticastGroup_of_granted np hgranted]
    by_cases hthrows : w.JoinThrows np g <;> simp [hgranted, hthrows]
  · simp [joinMulticastGroup_of_refused np hgranted, hgranted]

theorem joinMulticastGroup_eq_threw (np : Npcap) (w : World R) (g : HostAddress) :
    (w.joinMulticastGroup np g).2 = .threw ↔ w.JoinGranted g ∧ w.JoinThrows np g := by
  by_cases hgranted : w.JoinGranted g
  · rw [joinMulticastGroup_of_granted np hgranted]
    by_cases hthrows : w.JoinThrows np g <;> simp [hgranted, hthrows]
  · simp [joinMulticastGroup_of_refused np hgranted, hgranted]

/-- A refused request to leave a group changes nothing; otherwise the group is
removed and all filters are updated.  Whether the socket is bound does not matter. -/
theorem leaveMulticastGroup_cases (np : Npcap) (w : World R) (g : HostAddress) :
    ((w.leaveMulticastGroup np g).2 = false ∧ (w.leaveMulticastGroup np g).1 = w) ∨
      ((w.leaveMulticastGroup np g).2 = true ∧ g.valid = true ∧
        ∃ v : World R, v = { w with
            socket.multicastGroups :=
              StdSet.erase HostAddress.lt g w.socket.multicastGroups } ∧
          (w.leaveMulticastGroup np g).1 = v.updateAllCaptureFilters np) := by
  unfold leaveMulticastGroup
  split
  next => exact Or.inl ⟨rfl, rfl⟩
  next =>
    split
    next => exact Or.inl ⟨rfl, rfl⟩
    next haddr =>
      split
      next => exact Or.inl ⟨rfl, rfl⟩
      next => exact Or.inr ⟨rfl, by simpa [HostAddress.isValid] using haddr, _, rfl, rfl⟩

/-- When a request to leave a group is granted. -/
theorem leaveMulticastGroup_eq_true (np : Npcap) (w : World R) (g : HostAddress) :
    (w.leaveMulticastGroup np g).2 = true ↔
      w.socket.isValid = true ∧ g.isValid = true ∧
        StdSet.contains HostAddress.lt g w.socket.multicastGroups = true := by
  unfold leaveMulticastGroup
  cases w.socket.isValid <;> cases g.isValid <;>
    cases StdSet.contains HostAddress.lt g w.socket.multicastGroups <;> simp

/-- Setting the flag to its present value changes nothing; otherwise all filters are
updated, unless the kickstart throws. -/
theorem setMulticastLoopbackEnabled_cases (np : Npcap) (w : World R) (enabled : Bool) :
    (w.socket.multicastLoopbackEnabled = enabled ∧
        w.setMulticastLoopbackEnabled np enabled = (w, .finished)) ∨
      (∃ v : World R, v.socket = { w.socket with multicastLoopbackEnabled := enabled } ∧
        v.driver.created = w.driver.created ∧
        w.setMulticastLoopbackEnabled np enabled = (v.updateAllCaptureFilters np, .finished)) ∨
      ∃ v : World R, v = { w with socket.multicastLoopbackEnabled := true } ∧ enabled = true ∧
        w.socket.multicastLoopbackEnabled = false ∧ v.kickstartThrows np = true ∧
        w.setMulticastLoopbackEnabled np enabled =
          ((v.kickstartLoopbackMulticast np).1, .threw) := by
  unfold setMulticastLoopbackEnabled
  split
  next hsame => exact Or.inl ⟨hsame, rfl⟩
  next hdiffers =>
    right
    cases enabled with
    | false =>
      exact Or.inl ⟨{ w with socket.multicastLoopbackEnabled := false }, rfl, rfl, rfl⟩
    | true =>
      let v : World R := { w with socket.multicastLoopbackEnabled := true }
      cases hthrows : v.kickstartThrows np with
      | false =>
        refine Or.inl ⟨(v.kickstartLoopbackMulticast np).1, rfl, rfl, ?_⟩
        show (if v.kickstartThrows np then _ else _) = _
        rw [hthrows]
        rfl
      | true =>
        refine Or.inr ⟨v, rfl, rfl, by simpa using hdiffers, hthrows, ?_⟩
        show (if v.kickstartThrows np then _ else _) = _
        rw [hthrows]
        rfl

theorem setReceiveBufferSize_cases (w : World R) (bufferSize : Int) :
    ((w.setReceiveBufferSize bufferSize).2 = false ∧ (w.setReceiveBufferSize bufferSize).1 = w) ∨
      ((w.setReceiveBufferSize bufferSize).2 = true ∧ w.socket.boundState = false ∧
        (w.setReceiveBufferSize bufferSize).1 =
          { w with socket.receiveBufferSize := bufferSize }) := by
  unfold setReceiveBufferSize
  split
  next => exact Or.inl ⟨rfl, rfl⟩
  next =>
    split
    next => exact Or.inl ⟨rfl, rfl⟩
    next hbound =>
      split
      next => exact Or.inl ⟨rfl, rfl⟩
      next => exact Or.inr ⟨rfl, by simpa using hbound, rfl⟩

theorem foldl_close (devs : List PcapDev) (w : World R) :
    (devs.foldl (fun w dev => w.record (.close dev.pcapHandle)) w).socket = w.socket ∧
      (devs.foldl (fun w dev => w.record (.close dev.pcapHandle)) w).helpers = w.helpers := by
  induction devs generalizing w with
  | nil => exact ⟨rfl, rfl⟩
  | cons dev devs ih => exact ih (w.record (.close dev.pcapHandle))

@[simp] theorem close_socket (w : World R) :
    w.close.socket = { w.socket with
      pcapDevicesClosed := true
      pcapDevices := []
      pcapWin32Handles := []
      pcapDevicesIpReassembly := []
      boundState := false
      boundPort := 0
      boundAddress := .invalid } := by
  unfold close
  simp only
  rw [(foldl_close _ _).1]

@[simp] theorem close_helpers (w : World R) : w.close.helpers = w.helpers :=
  (foldl_close w.socket.pcapDevices { w with socket.pcapDevicesClosed := true }).2

/-! ### One operation -/

/-- **What a call of an operation does**: the call, the world after it, and its result. -/
inductive OpCase (np : Npcap) (api : IPReassembly R) (w : World R) :
    Op → World R → OpResult → Prop
  | bindFails (alldevs : DeviceList) (a : HostAddress) (p : UInt16) (v : World R)
    (opened : List PcapDev) (hopen : Opens api w v opened)
    (hbound : w.socket.boundState = true → v = w) :
    OpCase np api w (.bind alldevs a p) v (.returned false)
  | binds (alldevs : DeviceList) (a : HostAddress) (p : UInt16) (v : World R)
    (opened : List PcapDev) (hopen : Opens api w v opened) (hbound : w.socket.boundState = false)
    (hvalid : a.valid = true) :
    OpCase np api w (.bind alldevs a p) (v.finishBind np a p) (.returned true)
  | resizeRefused (n : Int) : OpCase np api w (.setReceiveBufferSize n) w (.returned false)
  | resizes (n : Int) (hbound : w.socket.boundState = false) :
    OpCase np api w (.setReceiveBufferSize n) { w with socket.receiveBufferSize := n }
      (.returned true)
  | joinRefused (g : HostAddress) : OpCase np api w (.joinMulticastGroup g) w (.returned false)
  | joins (g : HostAddress) (v : World R) (hg : g.isMulticast = true)
    (hbound : w.socket.boundState = true)
    (hv : v = { w with
      socket.multicastGroups := StdSet.emplace HostAddress.lt g w.socket.multicastGroups }) :
    OpCase np api w (.joinMulticastGroup g) (v.updateAllCaptureFilters np) (.returned true)
  | joinsKickstart (g : HostAddress) (v : World R) (hg : g.isMulticast = true)
    (hbound : w.socket.boundState = true)
    (hv : v = { w with
      socket.multicastGroups := StdSet.emplace HostAddress.lt g w.socket.multicastGroups }) :
    OpCase np api w (.joinMulticastGroup g)
      ((v.updateAllCaptureFilters np).kickstartLoopbackMulticast np).1 (.returned true)
  | joinThrows (g : HostAddress) (v : World R) (hg : g.isMulticast = true)
    (hbound : w.socket.boundState = true)
    (hv : v = { w with
      socket.multicastGroups := StdSet.emplace HostAddress.lt g w.socket.multicastGroups }) :
    OpCase np api w (.joinMulticastGroup g)
      ((v.updateAllCaptureFilters np).kickstartLoopbackMulticast np).1 .threw
  | leaveRefused (g : HostAddress) : OpCase np api w (.leaveMulticastGroup g) w (.returned false)
  | leaves (g : HostAddress) (v : World R) (hvalid : g.valid = true)
    (hv : v = { w with
      socket.multicastGroups := StdSet.erase HostAddress.lt g w.socket.multicastGroups }) :
    OpCase np api w (.leaveMulticastGroup g) (v.updateAllCaptureFilters np) (.returned true)
  | keepsLoopback (enabled : Bool) : OpCase np api w (.setMulticastLoopbackEnabled enabled) w
    .finished
  | setsLoopback (enabled : Bool) (v : World R)
    (hv : v.socket = { w.socket with multicastLoopbackEnabled := enabled })
    (hcreated : v.driver.created = w.driver.created) :
    OpCase np api w (.setMulticastLoopbackEnabled enabled) (v.updateAllCaptureFilters np) .finished
  | setLoopbackThrows (v : World R)
    (hv : v = { w with socket.multicastLoopbackEnabled := true })
    (hdisabled : w.socket.multicastLoopbackEnabled = false)
    (hthrows : v.kickstartThrows np = true) :
    OpCase np api w (.setMulticastLoopbackEnabled true) (v.kickstartLoopbackMulticast np).1 .threw
  | closes : OpCase np api w .close w.close .finished

/-- **A call of an operation is one of the cases.** -/
theorem apply_case {w w' : World R} {op : Op} {out : OpResult}
    (h : w.apply np api op = some (w', out)) : OpCase np api w op w' out := by
  cases op with
  | bind alldevs a p =>
    obtain ⟨⟨v, ok⟩, hbind, hv⟩ := Option.map_eq_some_iff.mp h
    cases hv
    obtain ⟨v, opened, hopen, ⟨rfl, rfl, hbound⟩ | ⟨rfl, -, hbound, hvalid, rfl⟩⟩ :=
      bind_cases hbind
    · exact .bindFails alldevs a p _ opened hopen hbound
    · exact .binds alldevs a p v opened hopen hbound hvalid
  | setReceiveBufferSize n =>
    cases h
    rcases w.setReceiveBufferSize_cases n with ⟨hout, heq⟩ | ⟨hout, hbound, heq⟩
    · rw [hout, heq]
      exact .resizeRefused n
    · rw [hout, heq]
      exact .resizes n hbound
  | joinMulticastGroup g =>
    have heq := Option.some.inj h
    by_cases hgranted : w.JoinGranted g
    · rw [joinMulticastGroup_of_granted np hgranted] at heq
      by_cases hthrows : w.JoinThrows np g
      · rw [if_pos hthrows, if_pos hthrows.1] at heq
        cases heq
        exact .joinThrows g _ hgranted.isMulticast hgranted.isBound rfl
      · rw [if_neg hthrows] at heq
        cases heq
        split
        · exact .joinsKickstart g _ hgranted.isMulticast hgranted.isBound rfl
        · exact .joins g _ hgranted.isMulticast hgranted.isBound rfl
    · rw [joinMulticastGroup_of_refused np hgranted] at heq
      cases heq
      exact .joinRefused g
  | leaveMulticastGroup g =>
    cases h
    rcases w.leaveMulticastGroup_cases np g with ⟨hout, heq⟩ | ⟨hout, hvalid, v, hv, heq⟩
    · rw [hout, heq]
      exact .leaveRefused g
    · rw [hout, heq]
      exact .leaves g v hvalid hv
  | setMulticastLoopbackEnabled enabled =>
    have heq := Option.some.inj h
    rcases w.setMulticastLoopbackEnabled_cases np enabled with
      ⟨-, hkeeps⟩ | ⟨v, hv, hcreated, hsets⟩ | ⟨v, hv, rfl, hdisabled, hthrows, hsets⟩
    · rw [hkeeps] at heq
      cases heq
      exact .keepsLoopback enabled
    · rw [hsets] at heq
      cases heq
      exact .setsLoopback enabled v hv hcreated
    · rw [hsets] at heq
      cases heq
      exact .setLoopbackThrows v hv hdisabled hthrows
  | close =>
    cases h
    exact .closes

/-! ### The actions that operations consist of -/

/-- What every action of an operation preserves. -/
structure Preserved (np : Npcap) (api : IPReassembly R) (P : World R → Prop) : Prop where
  isLoopbackDevice : ∀ w name, P w →
    P { w with helpers := (NpcapHelpers.isLoopbackDevice np.registry w.helpers name).1 }
  getLoopbackDeviceName : ∀ w, P w → P (w.getLoopbackDeviceName np).1
  opens : ∀ w name, P w → P (w.openPcapDeviceNolock np api name).1
  filters : ∀ w, ∀ dev ∈ w.socket.pcapDevices, P w → P (w.updateCaptureFilter np dev)
  kickstart : ∀ w, P w → P (w.kickstartLoopbackMulticast np).1
  socket : ∀ w (s : UdpcapSocket R), s.pcapDevices = w.socket.pcapDevices → P w →
    P { w with socket := s }
  closes : ∀ w, P w → P w.close

namespace Preserved

variable {P : World R → Prop} {w w' : World R}

theorem updateAll (h : Preserved np api P) (hw : P w) : P (w.updateAllCaptureFilters np) := by
  have hfold : ∀ (devs : List PcapDev) (v : World R), (∀ dev ∈ devs, dev ∈ v.socket.pcapDevices) →
      P v → P (devs.foldl (updateCaptureFilter np) v) := by
    intro devs
    induction devs with
    | nil => intro v _ hv; exact hv
    | cons dev devs ih =>
      intro v hmem hv
      refine ih _ ?_ (h.filters v dev (hmem dev List.mem_cons_self) hv)
      intro dev' hdev'
      rw [updateCaptureFilter_socket]
      exact hmem dev' (List.mem_cons_of_mem _ hdev')
  exact hfold w.socket.pcapDevices w (fun _ hdev => hdev) hw

theorem findDevice (h : Preserved np api P) (ip : HostAddress) (devices : List PcapIf)
    (hw : P w) : P (w.findDevice np ip devices).1 := by
  induction devices generalizing w with
  | nil => exact hw
  | cons pcapDev devices ih =>
    have hhelpers := h.isLoopbackDevice w pcapDev.name hw
    unfold World.findDevice
    simp only
    split
    · exact ih hhelpers
    · split
      · exact hhelpers
      · exact ih hhelpers

theorem getDeviceByIp (h : Preserved np api P) (alldevs : DeviceList) (ip : HostAddress)
    (hw : P w) : P (w.getDeviceByIp np alldevs ip).1 := by
  unfold World.getDeviceByIp
  split
  · exact hw
  · exact h.findDevice ip _ hw

theorem foldl_opens (h : Preserved np api P) (devices : List (DeviceName × List Char))
    (hw : P w) : P (devices.foldl (fun w dev => (w.openPcapDeviceNolock np api dev.1).1) w) := by
  induction devices generalizing w with
  | nil => exact hw
  | cons dev devices ih => exact ih (h.opens w dev.1 hw)

theorem openLoopbackDevice (h : Preserved np api P) (hw : P w) :
    P (w.openLoopbackDevice np api).1 :=
  h.opens _ _ (h.getLoopbackDeviceName w hw)

theorem openDevices (h : Preserved np api P) (hw : P w) {alldevs : DeviceList}
    {localAddress : HostAddress} {ok : Bool}
    (hopen : w.openDevices np api alldevs localAddress = some (w', ok)) : P w' := by
  have hfind := h.getDeviceByIp alldevs localAddress hw
  cases openDevices_case hopen with
  | loopback => exact h.openLoopbackDevice hw
  | noDevices => exact hw
  | all devices => exact h.foldl_opens devices hw
  | notFound => exact hfind
  | adapterFails dev v _ _ _ _ hadapter =>
    have hv := h.opens _ dev.1 hfind
    rw [hadapter] at hv
    exact hv
  | adapterOpens dev v _ _ _ _ hadapter =>
    have hv := h.opens _ dev.1 hfind
    rw [hadapter] at hv
    exact h.openLoopbackDevice hv

theorem bind (h : Preserved np api P) (hw : P w) {alldevs : DeviceList}
    {localAddress : HostAddress} {localPort : UInt16} {ok : Bool}
    (hbind : w.bind np api alldevs localAddress localPort = some (w', ok)) : P w' := by
  rcases bind_openDevices hbind with ⟨-, rfl⟩ | ⟨-, -, -, v, hopen, rfl⟩
  · exact hw
  · have hv := h.openDevices hw hopen
    cases ok with
    | true => exact h.updateAll (h.socket v _ rfl hv)
    | false => exact hv

theorem setMulticastLoopbackEnabled (h : Preserved np api P) (hw : P w) (enabled : Bool) :
    P (w.setMulticastLoopbackEnabled np enabled).1 := by
  unfold World.setMulticastLoopbackEnabled
  split
  · exact hw
  · have hv := h.socket w { w.socket with multicastLoopbackEnabled := enabled } rfl hw
    simp only
    split
    · split
      · exact h.kickstart _ hv
      · exact h.updateAll (h.kickstart _ hv)
    · exact h.updateAll hv

/-- **What every action preserves, every operation preserves.** -/
theorem apply (h : Preserved np api P) (hw : P w) {op : Op} {out : OpResult}
    (hop : w.apply np api op = some (w', out)) : P w' := by
  cases op with
  | bind alldevs a p =>
    obtain ⟨⟨v, ok⟩, hbind, hv⟩ := Option.map_eq_some_iff.mp hop
    cases hv
    exact h.bind hw hbind
  | setMulticastLoopbackEnabled enabled =>
    have hset := h.setMulticastLoopbackEnabled hw enabled
    rw [Option.some.inj hop] at hset
    exact hset
  | setReceiveBufferSize n =>
    cases apply_case hop with
    | resizeRefused => exact hw
    | resizes => exact h.socket w _ rfl hw
  | joinMulticastGroup g =>
    cases apply_case hop with
    | joinRefused => exact hw
    | joins _ v _ _ hv =>
      subst hv
      exact h.updateAll (h.socket w _ rfl hw)
    | joinsKickstart _ v _ _ hv | joinThrows _ v _ _ hv =>
      subst hv
      exact h.kickstart _ (h.updateAll (h.socket w _ rfl hw))
  | leaveMulticastGroup g =>
    cases apply_case hop with
    | leaveRefused => exact hw
    | leaves _ v _ hv =>
      subst hv
      exact h.updateAll (h.socket w _ rfl hw)
  | close =>
    cases hop
    exact h.closes w hw

end Preserved

end World

/-! ### The three lists -/

variable {R : Type} {np : Npcap} {api : IPReassembly R}

namespace UdpcapSocket

/-- The three lists change together: entries are added to all of them or removed from
all of them, and the ones that stay keep their places. -/
inductive Lockstep (api : IPReassembly R) (s t : UdpcapSocket R) : Prop
  | opened (opened : List PcapDev) (reassemblers : List (IpReassembly R))
    (hdevices : t.pcapDevices = s.pcapDevices ++ opened)
    (hhandles : t.pcapWin32Handles = s.pcapWin32Handles ++ opened.map PcapDev.pcapHandle)
    (hreassemblers : t.pcapDevicesIpReassembly = reassemblers ++
      opened.map fun _ => IpReassembly.create api maxPackageAge defaultMaxPacketsToStore)
    (hlength : reassemblers.length = s.pcapDevicesIpReassembly.length)
  | cleared (hdevices : t.pcapDevices = []) (hhandles : t.pcapWin32Handles = [])
    (hreassemblers : t.pcapDevicesIpReassembly = [])

theorem Lockstep.of_eq {s t : UdpcapSocket R} (hdevices : t.pcapDevices = s.pcapDevices)
    (hhandles : t.pcapWin32Handles = s.pcapWin32Handles)
    (hlength : t.pcapDevicesIpReassembly.length = s.pcapDevicesIpReassembly.length) :
    s.Lockstep api t :=
  .opened [] t.pcapDevicesIpReassembly (by simp [hdevices]) (by simp [hhandles]) (by simp) hlength

/-- The events stay those of the devices. -/
theorem Lockstep.handles_eq {s t : UdpcapSocket R} (h : s.Lockstep api t)
    (hs : s.pcapWin32Handles = s.pcapDevices.map PcapDev.pcapHandle) :
    t.pcapWin32Handles = t.pcapDevices.map PcapDev.pcapHandle := by
  cases h with
  | opened opened reassemblers hdevices hhandles =>
    rw [hhandles, hdevices, List.map_append, hs]
  | cleared hdevices hhandles =>
    rw [hdevices, hhandles]
    rfl

end UdpcapSocket

namespace World

variable {w w' : World R}

theorem Opens.lockstep {opened : List PcapDev} (h : Opens api w w' opened) :
    w.socket.Lockstep api w'.socket := by
  rw [h.socket_eq]
  exact .opened opened w.socket.pcapDevicesIpReassembly rfl rfl rfl rfl

/-- **An operation changes the three lists together.** -/
theorem lockstep_apply {op : Op} {out : OpResult} (hop : w.apply np api op = some (w', out)) :
    w.socket.Lockstep api w'.socket := by
  cases apply_case hop with
  | bindFails alldevs a p v opened hopen => exact hopen.lockstep
  | binds alldevs a p v opened hopen =>
    rw [finishBind_socket, hopen.socket_eq]
    exact .opened opened w.socket.pcapDevicesIpReassembly rfl rfl rfl rfl
  | joins g v _ _ hv | joinsKickstart g v _ _ hv | joinThrows g v _ _ hv | leaves g v _ hv
  | setLoopbackThrows v hv =>
    subst hv
    exact .of_eq (by simp) (by simp) (by simp)
  | setsLoopback enabled v hv =>
    rw [updateAllCaptureFilters_socket, hv]
    exact .of_eq rfl rfl rfl
  | closes =>
    rw [close_socket]
    exact .cleared rfl rfl rfl
  | resizes | resizeRefused | joinRefused | leaveRefused | keepsLoopback => exact .of_eq rfl rfl rfl

end World

end Udpcap
