import Udpcap.DeliverySoundness

/-!
# What the capture filter means

The frames that the driver lets through to a socket, in the words of the socket.

## Main definitions

* `PcapDev.HasSent`, `MayHavePort`, `UdpcapSocket.Wants` — what is asked of a frame.
* `UdpcapSocket.Admits` — the frames that a device should hand out.

## Main results

* `filterString_means` — **the filter text is well formed and accepts these frames.**
* `installed_filter_means` — the same of what is installed, in every state of a session.
-/

namespace Udpcap

open PcapFilter

variable {R : Type}

/-! ### Frames for a socket -/

/-- A frame carries the hardware address of the device that has captured it. -/
def PcapDev.HasSent (np : Npcap) (pcapDev : PcapDev) (v : PacketView) : Prop :=
  pcapDev.isLoopback = false ∧
    ∃ mac, deviceMac np pcapDev.pcapHandle = some mac ∧ v.etherSrc = some mac.values

/-- A UDP packet has the port as its source or destination, or is a fragment, whose port
cannot be told. -/
def MayHavePort (port : UInt16) (ip : IpView) : Prop :=
  ip.protocol = 17 ∧ ((ip.moreFragments = true ∨ ip.fragmentOffset ≠ 0) ∨
    ∃ src dst, ip.ports = some (src, dst) ∧ (src = port.toNat ∨ dst = port.toNat))

namespace UdpcapSocket

/-- The destination is a unicast address that the socket is bound to, or a multicast group
that it has joined, unless the device is to keep multicast traffic to itself. -/
def Wants (s : UdpcapSocket R) (pcapDev : PcapDev) (ip : IpView) : Prop :=
  (ip.isMulticast = false ∧ (s.boundAddress = .any ∨ s.boundAddress = .broadcast ∨
      ip.destination = octets s.boundAddress.ipv4)) ∨
    (ip.isMulticast = true ∧ (∃ g ∈ s.multicastGroups, ip.destination = octets g.ipv4) ∧
      (pcapDev.isLoopback = false ∨ s.multicastLoopbackEnabled = true))

/-- The frames that a device should hand out. -/
def Admits (np : Npcap) (s : UdpcapSocket R) (pcapDev : PcapDev) (v : PacketView) : Prop :=
  ¬pcapDev.HasSent np v ∧
    ∃ ip, v.net = .ip ip ∧ MayHavePort s.boundPort ip ∧ s.Wants pcapDev ip

end UdpcapSocket

/-! ### The parts of the filter -/

theorem mayHavePort_iff (port : UInt16) (ip : IpView) : MayHavePort port ip ↔
    ip.protocol = 17 ∧ (ip.hasUdpPort port.toNat = true ∨ ip.isFragment = true) := by
  unfold MayHavePort
  rw [← ip.isFragment_iff]
  refine and_congr_right ?_
  intro hudp
  by_cases hfrag : ip.isFragment = true
  · simp [hfrag]
  · -- the ports can be read, since the offset is zero
    have hoffset : ip.word 6 2 &&& 0x1fff = 0 := by
      rw [ip.isFragment_iff, not_or, not_not] at hfrag
      exact hfrag.2
    have hport : ip.hasUdpPort port.toNat = true ↔
        ∃ src dst, ip.ports = some (src, dst) ∧ (src = port.toNat ∨ dst = port.toNat) := by
      unfold IpView.hasUdpPort
      rw [hudp, hoffset]
      cases hports : ip.ports with
      | none => simp
      | some p => simp [Prod.ext_iff]
    rw [hport]
    simp [hfrag]

theorem hasSent_iff (np : Npcap) (pcapDev : PcapDev) (v : PacketView) :
    ¬pcapDev.HasSent np v ↔
      ∀ m, filteredMac pcapDev.isLoopback (deviceMac np pcapDev.pcapHandle) = some m →
        v.etherSrc ≠ some m.values := by
  unfold PcapDev.HasSent filteredMac
  cases pcapDev.isLoopback with
  | true => simp
  | false => simp

theorem wants_iff (s : UdpcapSocket R) (pcapDev : PcapDev) (ip : IpView) :
    s.Wants pcapDev ip ↔
      (ip.isMulticast = false ∧
          ∀ b, filteredAddress s.boundAddress = some b → ip.destination = octets b.ipv4) ∨
        (ip.isMulticast = true ∧ ∃ g ∈ filteredGroups pcapDev.isLoopback s.multicastGroups
          s.multicastLoopbackEnabled, ip.destination = octets g.ipv4) := by
  have haddress : (∀ b, filteredAddress s.boundAddress = some b → ip.destination = octets b.ipv4) ↔
      s.boundAddress = .any ∨ s.boundAddress = .broadcast ∨
        ip.destination = octets s.boundAddress.ipv4 := by
    unfold filteredAddress
    -- the two wildcards do not restrict unicast traffic
    by_cases hany : s.boundAddress = .any
    · simp [hany]
    · by_cases hbroadcast : s.boundAddress = .broadcast
      · simp [hbroadcast]
      · simp [hany, hbroadcast]
  have hgroups : (∃ g ∈ filteredGroups pcapDev.isLoopback s.multicastGroups
        s.multicastLoopbackEnabled, ip.destination = octets g.ipv4) ↔
      (∃ g ∈ s.multicastGroups, ip.destination = octets g.ipv4) ∧
        (pcapDev.isLoopback = false ∨ s.multicastLoopbackEnabled = true) := by
    unfold filteredGroups
    -- a device that gets no multicast traffic has no groups in its filter
    by_cases hdevice : pcapDev.isLoopback = false ∨ s.multicastLoopbackEnabled = true
    · simp [hdevice]
    · simp [hdevice]
  unfold UdpcapSocket.Wants
  rw [haddress, hgroups]

/-! ### The filter -/

theorem accepts_filterString (np : Npcap) {s : UdpcapSocket R}
    (haddr : s.boundAddress.isValid = true) (hgroups : ∀ g ∈ s.multicastGroups, g.isValid = true)
    (pcapDev : PcapDev) (v : PacketView) :
    accepts (s.filterString np pcapDev) v = true ↔ s.Admits np pcapDev v := by
  unfold UdpcapSocket.filterString getMac UdpcapSocket.Admits
  rw [accepts_createFilterString _ _ haddr _ hgroups, hasSent_iff]
  refine and_congr_right ?_
  intro _
  refine exists_congr ?_
  intro ip
  rw [mayHavePort_iff, wants_iff, and_assoc]
  rfl

/-- **The filter text of a device is well formed, and accepts the frames that the device
should hand out.** -/
theorem filterString_means (np : Npcap) (s : UdpcapSocket R)
    (haddr : s.boundAddress.isValid = true) (hgroups : ∀ g ∈ s.multicastGroups, g.isValid = true)
    (pcapDev : PcapDev) :
    (∃ e, parse (s.filterString np pcapDev) = some e) ∧
      ∀ v, accepts (s.filterString np pcapDev) v = true ↔ s.Admits np pcapDev v := by
  constructor
  · exact ⟨_, parse_createFilterString _ _ haddr _ hgroups _⟩
  · intro v
    exact accepts_filterString np haddr hgroups pcapDev v

/-- A socket is bound to 10.0.0.2:5000 and has joined the group 239.0.0.1. -/
theorem filterString_means_one_group :
    let np := { Npcap.ofLinkTypes (fun _ => linktypeEthernet) with
      macAddress := fun _ => some ⟨[0, 0x1B, 0x21, 0x3C, 0x4D, 0x5E], rfl⟩ }
    let s : UdpcapSocket SmallPcpp.Reassembler := { UdpcapSocket.create true with
      boundState := true
      boundAddress := .ofInt 0x0200000A
      boundPort := 5000
      multicastGroups := [.ofInt 0x010000EF] }
    let pcapDev : PcapDev := ⟨0, false, "eth".toList⟩
    String.ofList (s.filterString np pcapDev) =
        "not ether src 00:1b:21:3c:4d:5e and ip and udp and (udp port 5000 or " ++
          "(ip[6:2] & 0x3fff != 0)) and (((not ip multicast) and (ip dst 10.0.0.2)) or " ++
          "(ip multicast and (dst 239.0.0.1)))" ∧
      (∃ e, parse (s.filterString np pcapDev) = some e) ∧
        ∀ v, accepts (s.filterString np pcapDev) v = true ↔ s.Admits np pcapDev v := by
  intro np s pcapDev
  refine ⟨by decide +kernel, ?_⟩
  refine filterString_means np s rfl ?_ pcapDev
  decide

/-! ### Sessions -/

variable {np : Npcap} {api : IPReassembly R} {handler : Handler R}

/-- Every open device of a bound socket has a filter that lets through what the device
should hand out. -/
def World.FiltersRight (np : Npcap) (w : World R) : Prop :=
  w.socket.boundState = true → ∀ pcapDev ∈ w.socket.pcapDevices, ∃ text,
    w.driver.installedFilter pcapDev.pcapHandle = some text ∧
      ∀ v, accepts text v = true ↔ w.socket.Admits np pcapDev v

theorem World.FiltersCurrent.filtersRight {w : World R} (h : w.FiltersCurrent np)
    (haddr : w.socket.Addresses) : w.FiltersRight np := by
  intro hbound pcapDev hdev
  refine ⟨_, h hbound pcapDev hdev, ?_⟩
  have hgroups : ∀ g ∈ w.socket.multicastGroups, g.isValid = true := fun g hg =>
    HostAddress.valid_of_isMulticast (haddr.multicast g hg)
  exact accepts_filterString np (haddr.boundAddress hbound) hgroups pcapDev

theorem addresses_step {s t : Session R} {l : SessionLabel} (h : s.world.socket.Addresses)
    (hstep : sessionStep np api handler s l = some t) : t.world.socket.Addresses := by
  rcases sessionStep_world hstep with ⟨op, out, -, -, hop⟩ | hreassembles
  · exact h.apply hop
  · exact h.reassembles hreassembles

/-- **In every state of a session** in which no exception of a kickstart leaves a filter
behind, what is installed on a device lets through what the device should hand out. -/
theorem installed_filter_means (hok : World.FiltersSucceed np) (api : IPReassembly R)
    (handler : Handler R) (initialized : Bool) (driver : Driver) (helpers : NpcapHelpers)
    (labels : List SessionLabel)
    (hkeeps : Foundation.StepsMeet (sessionStep np api handler) (Session.KeepsFilters np)
      (Session.start (World.create initialized driver helpers)) labels) :
    Foundation.HoldsAlong (sessionStep np api handler) (fun s => s.world.FiltersRight np)
      (Session.start (World.create initialized driver helpers)) labels := by
  have hcurrent := (filters_current_iff hok api handler initialized driver helpers labels).mpr
    hkeeps
  have haddr : Foundation.HoldsAlong (sessionStep np api handler)
      (fun s => s.world.socket.Addresses)
      (Session.start (World.create initialized driver helpers)) labels :=
    Foundation.holdsAlong_of_invariant (fun _ hs => hs) (fun _ _ _ hs hst => addresses_step hs hst)
      (UdpcapSocket.Addresses.create initialized)
  exact (Foundation.holdsAlong_and.mpr ⟨hcurrent, haddr⟩).mono fun s hs => hs.1.filtersRight hs.2

end Udpcap
