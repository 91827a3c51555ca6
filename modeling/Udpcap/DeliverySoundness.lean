import Udpcap.FilterCurrency
import Udpcap.HandlerArguments

/-!
# What a delivered datagram is addressed to

Nothing in `receiveDatagram` looks at the destination address: what is delivered
depends on the filter that the driver applies to the frame, and on how the handler reads
it.

## Main definitions

* `KernelView`, `AgreesOnDestination` — how the driver reads a frame.
* `Addressed` — the destinations that a socket is meant to receive.
* `CallRecord.Sound` — a call that succeeds delivers a datagram for the socket.
* `Session.RespectsFilter`, `Session.ReadRight` — conditions on the packets that the
  devices hand out.

## Main results

* `addressed_of_accepts` — **what passes the filter is addressed to the socket.**
* `delivery_sound` — **if only loopback devices hand out what reads like a datagram for
  the bound port, every delivered datagram is addressed to the socket.**
-/

namespace Udpcap

open PcapFilter

variable {R : Type}

/-! ### The destination of a frame -/

/-- What the driver sees in a frame of a given link type. -/
abbrev KernelView := LinkLayerType → Bytes → PacketView

/-- The driver and Pcap++ find the same destination in a UDP packet that they read with
the same link type. -/
def AgreesOnDestination (pcpp : Pcpp) (view : KernelView) : Prop :=
  ∀ linkType pktData ip udp, (pcpp.parse .udp ⟨pktData, linkType⟩).IsDatagram ip udp →
    ∃ v, (view linkType pktData).net = .ip v ∧ v.destination = octets ip.dstIPv4Address

/-- The destination is a unicast address, the bound one unless that is a wildcard, or a
group of the socket whose traffic the device is to deliver. -/
def Addressed (s : UdpcapSocket R) (pcapDev : PcapDev) (dst : UInt32) : Prop :=
  (dst.toNat % 256 < 224 ∧ (s.boundAddress ≠ .any → s.boundAddress ≠ .broadcast →
      dst = s.boundAddress.ipv4)) ∨
    ∃ g ∈ s.multicastGroups, g.isMulticast = true ∧ dst = g.ipv4 ∧
      (pcapDev.isLoopback = false ∨ s.multicastLoopbackEnabled = true)

/-- The addresses of a socket are what they should be. -/
structure UdpcapSocket.Addresses (s : UdpcapSocket R) : Prop where
  boundAddress : s.boundState = true → s.boundAddress.valid = true
  multicast : ∀ g ∈ s.multicastGroups, g.isMulticast = true

theorem isMulticast_of_destination {v : IpView} {n : UInt32} (h : v.destination = octets n) :
    v.isMulticast = decide (224 ≤ n.toNat % 256) := by
  have htake : (v.header.drop 16).take 1 = [n.toNat % 256] := by
    have htake := congrArg (List.take 1) h
    unfold IpView.destination at htake
    rw [List.take_take] at htake
    exact htake
  unfold IpView.isMulticast IpView.word
  rw [htake]
  simp

/-- **What passes the filter is addressed to the socket.** -/
theorem addressed_of_accepts {np : Npcap} {s : UdpcapSocket R} {pcapDev : PcapDev}
    (hs : s.Addresses) (hbound : s.boundState = true) {view : PacketView}
    (haccepts : accepts (s.filterString np pcapDev) view = true) {v : IpView}
    (hip : view.net = .ip v) {dst : UInt32} (hdst : v.destination = octets dst) :
    Addressed s pcapDev dst := by
  have hvalid : ∀ g ∈ s.multicastGroups, g.valid = true := fun g hg =>
    HostAddress.valid_of_isMulticast (hs.multicast g hg)
  unfold UdpcapSocket.filterString getMac at haccepts
  rw [accepts_createFilterString _ _ (hs.boundAddress hbound) _ hvalid] at haccepts
  obtain ⟨-, v', hv', -, -, hwanted⟩ := haccepts
  rw [hip] at hv'
  cases hv'
  rw [isMulticast_of_destination hdst, hdst] at hwanted
  rcases hwanted with ⟨hunicast, haddress⟩ | ⟨-, g, hg, hgroup⟩
  · left
    refine ⟨by simpa using hunicast, ?_⟩
    intro hany hbroadcast
    apply octets_injective
    apply haddress
    unfold filteredAddress
    rw [if_pos]
    simp [hany, hbroadcast]
  · right
    unfold filteredGroups at hg
    split at hg
    next hdevice =>
      refine ⟨g, hg, hs.multicast g hg, octets_injective hgroup, ?_⟩
      simpa using hdevice
    next => cases hg

/-! ### The addresses of a socket -/

namespace UdpcapSocket.Addresses

variable {np : Npcap} {api : IPReassembly R} {w w' : World R}

theorem create (initialized : Bool) :
    (UdpcapSocket.create initialized : UdpcapSocket R).Addresses where
  boundAddress := fun h => absurd h Bool.false_ne_true
  multicast := fun g hg => absurd hg (List.not_mem_nil (a := g))

theorem congr {s s' : UdpcapSocket R} (h : s.Addresses) (hbound : s'.boundState = s.boundState)
    (haddress : s'.boundAddress = s.boundAddress)
    (hgroups : s'.multicastGroups = s.multicastGroups) : s'.Addresses where
  boundAddress := by
    rw [hbound, haddress]
    exact h.boundAddress
  multicast := by
    rw [hgroups]
    exact h.multicast

theorem join (h : w.socket.Addresses) {g : HostAddress} (hg : g.isMulticast = true)
    (hgroups : w'.socket = { w.socket with
      multicastGroups := StdSet.emplace HostAddress.lt g w.socket.multicastGroups }) :
    w'.socket.Addresses := by
  have hvalid : ∀ k ∈ w.socket.multicastGroups, k.valid = true := fun k hk =>
    HostAddress.valid_of_isMulticast (h.multicast k hk)
  have hsep := HostAddress.separates_of_valid (HostAddress.valid_of_isMulticast hg) hvalid
  rw [hgroups]
  refine ⟨h.boundAddress, ?_⟩
  intro k hk
  rcases (StdSet.mem_emplace hsep).mp hk with rfl | hk
  · exact hg
  · exact h.multicast k hk

/-- **Every operation keeps the addresses what they should be.** -/
theorem apply (h : w.socket.Addresses) {op : Op} {out : OpResult}
    (hop : w.apply np api op = some (w', out)) : w'.socket.Addresses := by
  cases World.apply_case hop with
  | bindFails alldevs a p _ opened hopen =>
    rw [hopen.socket_eq]
    exact h.congr rfl rfl rfl
  | binds alldevs a p v opened hopen _ hvalid =>
    rw [World.finishBind_socket, hopen.socket_eq]
    exact ⟨fun _ => hvalid, h.multicast⟩
  | resizes n => exact h.congr rfl rfl rfl
  | joins g v hg _ hv =>
    subst hv
    exact h.join hg (by rw [World.updateAllCaptureFilters_socket])
  | joinsKickstart g v hg _ hv | joinThrows g v hg _ hv =>
    subst hv
    exact h.join hg
      (by rw [World.kickstartLoopbackMulticast_socket, World.updateAllCaptureFilters_socket])
  | setLoopbackThrows v hv =>
    rw [World.kickstartLoopbackMulticast_socket, hv]
    exact h.congr rfl rfl rfl
  | leaves g v _ hv =>
    subst hv
    rw [World.updateAllCaptureFilters_socket]
    exact ⟨h.boundAddress, fun k hk => h.multicast k (List.mem_of_mem_filter hk)⟩
  | setsLoopback enabled v hv =>
    rw [World.updateAllCaptureFilters_socket, hv]
    exact h.congr rfl rfl rfl
  | closes =>
    rw [World.close_socket]
    exact ⟨fun hbound => absurd hbound Bool.false_ne_true, h.multicast⟩
  | resizeRefused | joinRefused | leaveRefused | keepsLoopback => exact h

end UdpcapSocket.Addresses

/-! ### Sessions -/

/-- A step of `receiveDatagram` does not touch the addresses. -/
theorem UdpcapSocket.Addresses.reassembles {w w' : World R} (h : w.socket.Addresses)
    (hw : w.Reassembles w') : w'.socket.Addresses := by
  obtain ⟨reassemblers, hsocket⟩ := hw.socket
  rw [hsocket]
  exact h.congr rfl rfl rfl

/-- A call that succeeds delivers a datagram that a device has captured, for the bound port
and addressed to the socket. -/
def CallRecord.Sound (pcpp : Pcpp) (np : Npcap) (c : CallRecord R) : Prop :=
  c.receiver.error.errorCode = .ok → ∃ x ip udp, c.delivering = some x ∧
    (x.capturedPacket pcpp np).IsDatagram ip udp ∧
    c.receiver.Filled c.result ip udp ∧ x.socket.boundState = true ∧
    ntohs udp.portDst = x.socket.boundPort ∧
    Addressed x.socket x.pcapDev ip.dstIPv4Address

/-- The packet that a device hands out in a step, if it does. -/
def Session.handsOut (s : Session R) : SessionLabel → Option (Handle × Bytes)
  | .reply reply => s.current.bind fun c => c.receiver.pc.takes reply
  | _ => none

/-- A packet that a device hands out satisfies the filter installed on it. -/
def Session.RespectsFilter (np : Npcap) (view : KernelView) (s : Session R) (l : SessionLabel) :
    Prop :=
  (s.handsOut l).all fun p => (s.world.driver.installedFilter p.1).all fun text =>
    accepts text (view (np.datalink p.1) p.2)

/-- A packet that a device hands out comes from a loopback device, or it does not read
like a UDP packet for the bound port in a loopback frame. -/
def Session.ReadRight (np : Npcap) (pcpp : Pcpp) (s : Session R) (l : SessionLabel) : Prop :=
  ∀ h pktData, s.handsOut l = some (h, pktData) → np.datalink h = linktypeNull ∨
    ∀ ip udp, (pcpp.parse .udp ⟨pktData, linktypeNull⟩).IsDatagram ip udp →
      ntohs udp.portDst ≠ s.world.socket.boundPort

/-- A packet that was let through by the filter of a bound socket, and is read right.  The
filter may be that for multicast loopback disabled although it is enabled. -/
structure Admitted (np : Npcap) (pcpp : Pcpp) (view : KernelView) (s : UdpcapSocket R)
    (pcapDev : PcapDev) (pktData : Bytes) : Prop where
  isBound : s.boundState = true
  accepted : ∃ b : Bool, (b = true → s.multicastLoopbackEnabled = true) ∧
    accepts ({ s with multicastLoopbackEnabled := b }.filterString np pcapDev)
      (view (np.datalink pcapDev.pcapHandle) pktData) = true
  readRight : np.datalink pcapDev.pcapHandle = linktypeNull ∨
    ∀ ip udp, (pcpp.parse .udp ⟨pktData, linktypeNull⟩).IsDatagram ip udp →
      ntohs udp.portDst ≠ s.boundPort

/-- The invariant: all packets that the handler is called with were admitted. -/
structure Session.AllAdmitted (np : Npcap) (pcpp : Pcpp) (api : IPReassembly R)
    (view : KernelView) (s : Session R) : Prop where
  accounted : s.Accounted (recognizePacket pcpp api)
  filters : s.world.Filters np
  addresses : s.world.socket.Addresses
  inFlight : ∀ c ∈ s.current, ∀ k pcapDev pktData, c.receiver.pc = .handle k pcapDev pktData →
    Admitted np pcpp view s.world.socket pcapDev pktData
  handled : ∀ x ∈ s.handlerCalls, x.socket.Addresses ∧
    Admitted np pcpp view x.socket x.pcapDev x.pktData

/-- What passes the filter of a packet that was let through is addressed to the socket. -/
theorem Admitted.addressed {np : Npcap} {pcpp : Pcpp} {view : KernelView} {s : UdpcapSocket R}
    {pcapDev : PcapDev} {pktData : Bytes} (h : Admitted np pcpp view s pcapDev pktData)
    (hs : s.Addresses) {v : IpView}
    (hip : (view (np.datalink pcapDev.pcapHandle) pktData).net = .ip v) {dst : UInt32}
    (hdst : v.destination = octets dst) : Addressed s pcapDev dst := by
  obtain ⟨b, hb, haccepts⟩ := h.accepted
  have hs' : { s with multicastLoopbackEnabled := b }.Addresses := hs.congr rfl rfl rfl
  rcases addressed_of_accepts hs' h.isBound haccepts hip hdst with
    hunicast | ⟨g, hg, hmulticast, hgroup, hdevice⟩
  · exact Or.inl hunicast
  · exact Or.inr ⟨g, hg, hmulticast, hgroup, hdevice.imp_right hb⟩

theorem isDatagram_of_datagramOf {p : Packet} {ip : IPv4Layer} {udp : UdpLayer}
    (hfrag : ¬p.isFragment = true) (h : datagramOf p = some (ip, udp)) : p.IsDatagram ip udp := by
  unfold datagramOf at h
  unfold Packet.isFragment at hfrag
  split at h
  next ip' udp' hip hudp =>
    cases h
    rw [hip] at hfrag
    exact ⟨hip, by simpa using hfrag, hudp⟩
  next => cases h

namespace Session.AllAdmitted

variable {np : Npcap} {pcpp : Pcpp} {api : IPReassembly R} {view : KernelView} {s t : Session R}

theorem start (np : Npcap) (pcpp : Pcpp) (api : IPReassembly R) (view : KernelView)
    (initialized : Bool) (driver : Driver) (helpers : NpcapHelpers) :
    (Session.start (World.create initialized driver helpers : World R)).AllAdmitted np pcpp api
      view where
  accounted := Session.Accounted.start _ _
  filters := World.Filters.create np initialized driver helpers
  addresses := UdpcapSocket.Addresses.create initialized
  inFlight := fun c hc => absurd hc (Option.not_mem_none c)
  handled := fun x hx => absurd hx (List.not_mem_nil (a := x))

/-- **A call that succeeds delivers a datagram that is addressed to the socket.** -/
theorem sound (h : s.AllAdmitted np pcpp api view) (hagrees : AgreesOnDestination pcpp view) :
    ∀ c ∈ s.returned, c.Sound pcpp np := by
  intro c hc hok
  rcases h.accounted.outcome c hc with
    ⟨-, earlier, x, ip, udp, hcalls, -, hsuccess, hrec, hfilled⟩ | ⟨hfail, -⟩
  · have hmem : x ∈ c.handlerCalls := by
      rw [hcalls]
      exact List.mem_append_right _ (List.mem_singleton_self x)
    have hx := Session.mem_handlerCalls hc hmem
    have hmade := h.accounted.wellFormed.made x hx
    obtain ⟨haddresses, hadmitted⟩ := h.handled x hx
    have hport : ntohs udp.portDst = x.socket.boundPort := by
      obtain ⟨ip', udp', hrec', hport⟩ := hmade.succeeded_iff.mp hsuccess
      rw [hrec] at hrec'
      cases hrec'
      exact hport
    -- without a reassembler the datagram is read from the packet itself, as a loopback frame
    have hread : (pcpp.parse .udp ⟨x.pktData, linktypeNull⟩).IsDatagram ip udp := by
      have hrec' := hrec
      rw [hmade.recognized_eq] at hrec'
      split at hrec'
      next => cases hrec'
      next hfrag =>
        have hdatagram := isDatagram_of_datagramOf hfrag hrec'
        unfold HandlerCall.readPacket at hdatagram
        rw [hmade.linkType] at hdatagram
        exact hdatagram
    -- such a packet has been captured as it was read
    have hnull : np.datalink x.pcapDev.pcapHandle = linktypeNull := by
      rcases hadmitted.readRight with hnull | hother
      · exact hnull
      · exact absurd hport (hother ip udp hread)
    have hcaptured : (x.capturedPacket pcpp np).IsDatagram ip udp := by
      unfold HandlerCall.capturedPacket
      rw [hnull]
      exact hread
    obtain ⟨v, hv, hdst⟩ := hagrees _ _ _ _ hcaptured
    refine ⟨x, ip, udp, ?_, hcaptured, hfilled, hadmitted.isBound, hport, ?_⟩
    · unfold CallRecord.delivering
      rw [if_pos hok, hcalls, List.getLast?_concat]
    · exact hadmitted.addressed haddresses hv hdst
  · -- a call that fails delivers nothing
    exact absurd hok hfail

/-- A packet that is handed out is admitted. -/
theorem admitted {c : CallInProgress R} {rx : Receiver} {reply : Reply} {handler : Handler R}
    (hs : s.AllAdmitted np pcpp api view) (h : ReplyEffect handler s t reply c rx)
    (hfilter : s.RespectsFilter np view (.reply reply)) (hread : s.ReadRight np pcpp (.reply reply))
    {k : ℕ} {pcapDev : PcapDev} {pktData : Bytes} (hpc : rx.pc = .handle k pcapDev pktData) :
    Admitted np pcpp view t.world.socket pcapDev pktData := by
  have hat := hs.accounted.wellFormed.atDevice c h.current_eq
  obtain ⟨hsocket, hpoll, geterr, rfl⟩ := receiveStep_handle h.step hat hpc
  have hdevice := hat.at_poll hpoll
  have hout : s.handsOut (.reply (.next 1 pktData geterr)) =
      some (pcapDev.pcapHandle, pktData) := by
    unfold Session.handsOut
    rw [h.current_eq]
    show c.receiver.pc.takes _ = _
    rw [hpoll]
    rfl
  obtain ⟨b, hb, hinstalled⟩ := hs.filters.installed hdevice.isBound pcapDev
    (List.mem_of_getElem? hdevice.getElem?)
  unfold Session.RespectsFilter at hfilter
  rw [hout, Option.all_some, hinstalled, Option.all_some] at hfilter
  rw [hsocket]
  exact ⟨hdevice.isBound, ⟨b, hb, hfilter⟩, hread _ _ hout⟩

/-- A step of `receiveDatagram` keeps the invariant. -/
theorem reply {c : CallInProgress R} {rx : Receiver} {reply : Reply}
    (hs : s.AllAdmitted np pcpp api view)
    (ht : t.Accounted (recognizePacket pcpp api))
    (h : ReplyEffect (handlerOf (recognizePacket pcpp api)) s t reply c rx)
    (hfilter : s.RespectsFilter np view (.reply reply))
    (hread : s.ReadRight np pcpp (.reply reply)) : t.AllAdmitted np pcpp api view := by
  refine ⟨ht, hs.filters.reassembles h.reassembles, ?_, ?_, ?_⟩
  · exact hs.addresses.reassembles h.reassembles
  · intro c' hc' k pcapDev pktData hpc
    rcases h.proceeds _ rfl with ⟨hcurrent, -⟩ | ⟨hcurrent, -⟩
    · rw [hcurrent] at hc'
      cases hc'
      exact hs.admitted h hfilter hread hpc
    · rw [hcurrent] at hc'
      cases hc'
  · intro x hx
    rw [h.handlerCalls_eq] at hx
    rcases List.mem_append.mp hx with hx | hx
    · exact hs.handled x hx
    · -- the packet in flight has been handled
      obtain ⟨k, pcapDev, pktData, env, hpc, rfl⟩ := mem_handlerCallOf hx
      exact ⟨hs.addresses, hs.inFlight c h.current_eq k pcapDev pktData hpc⟩

/-- **Every step keeps the invariant**, as long as the packets handed out satisfy the
filters and are read right. -/
theorem step (hok : World.FiltersSucceed np) {l : SessionLabel}
    (hs : s.AllAdmitted np pcpp api view)
    (hfilter : s.RespectsFilter np view l) (hread : s.ReadRight np pcpp l)
    (h : sessionStep np api (handlerOf (recognizePacket pcpp api)) s l = some t) :
    t.AllAdmitted np pcpp api view := by
  have ht := hs.accounted.step h
  have hfilters := filters_step hok hs.filters h
  rcases sessionStep_cases h with ⟨hd, pktData, rfl, rfl⟩ | ⟨op, w, out, rfl, hcurrent, hop, rfl⟩ |
    ⟨args, rfl, hcurrent, rfl⟩ | ⟨reply, c, rx, rfl, heffect⟩
  · exact ⟨ht, hfilters, hs.addresses, hs.inFlight, hs.handled⟩
  · refine ⟨ht, hfilters, hs.addresses.apply hop, ?_, hs.handled⟩
    intro c hc
    have hnone : c ∈ s.current := hc
    rw [hcurrent] at hnone
    cases hnone
  · refine ⟨ht, hfilters, hs.addresses, ?_, ?_⟩
    · intro c hc k pcapDev pktData hpc
      cases hc
      cases hpc
    · intro x hx
      apply hs.handled x
      unfold Session.handlerCalls at hx ⊢
      rw [hcurrent]
      exact hx
  · exact hs.reply ht heffect hfilter hread

end Session.AllAdmitted

/-- **If only loopback devices hand out what reads like a datagram for the bound port,
every delivered datagram is addressed to the socket**, in every state of a session in
which the packets handed out satisfy the installed filters. -/
theorem delivery_sound {np : Npcap} (hok : World.FiltersSucceed np) {pcpp : Pcpp}
    {view : KernelView} (hagrees : AgreesOnDestination pcpp view) (api : IPReassembly R)
    (initialized : Bool) (driver : Driver) (helpers : NpcapHelpers) {labels : List SessionLabel}
    (hfilter : Foundation.StepsMeet (sessionStep np api (packetHandlerRawPtr pcpp api))
      (Session.RespectsFilter np view) (Session.start (World.create initialized driver helpers))
      labels)
    (hread : Foundation.StepsMeet (sessionStep np api (packetHandlerRawPtr pcpp api))
      (Session.ReadRight np pcpp) (Session.start (World.create initialized driver helpers))
      labels) :
    Foundation.HoldsAlong (sessionStep np api (packetHandlerRawPtr pcpp api))
      (fun s => ∀ c ∈ s.returned, c.Sound pcpp np)
      (Session.start (World.create initialized driver helpers)) labels := by
  have hsteps := Foundation.stepsMeet_and.mpr ⟨hfilter, hread⟩
  rw [packetHandlerRawPtr_eq_handlerOf] at hsteps ⊢
  exact Foundation.holdsAlong_of_stepsMeet (I := Session.AllAdmitted np pcpp api view)
    (fun s hs => hs.sound hagrees)
    (fun s l t hs hC hst => hs.step hok hC.1 hC.2 hst)
    (Session.AllAdmitted.start np pcpp api view initialized driver helpers) hsteps

/-! ### Concrete frames -/

namespace SmallPcpp

theorem octets_le32 (b₀ b₁ b₂ b₃ : UInt8) :
    octets (le32 b₀ b₁ b₂ b₃) = [b₀.toNat, b₁.toNat, b₂.toNat, b₃.toNat] := by
  have h₀ : b₀.toNat < 256 := b₀.toNat_lt
  have h₁ : b₁.toNat < 256 := b₁.toNat_lt
  have h₂ : b₂.toNat < 256 := b₂.toNat_lt
  have h₃ : b₃.toNat < 256 := b₃.toNat_lt
  unfold octets
  rw [toNat_le32]
  simp only [List.cons.injEq, and_true]
  omega

/-- The IPv4 packet at the head of some bytes, as the driver sees it. -/
def kernelNet (b : Bytes) : Net :=
  if h : 20 ≤ b.length then
    .ip ⟨(b.take 20).map UInt8.toNat, by simp [h],
      match b.drop (4 * (b.head!.toNat % 16)) with
      | s₀ :: s₁ :: d₀ :: d₁ :: _ => some (be16 s₀ s₁, be16 d₀ d₁)
      | _ => none⟩
  else .other

/-- A frame, as the driver sees it. -/
def kernelView (linkType : LinkLayerType) (pktData : Bytes) : PacketView where
  etherSrc := if linkType = linktypeEthernet then some (((pktData.drop 6).take 6).map UInt8.toNat)
    else none
  net := match networkLayer ⟨pktData, linkType⟩ with
    | some (_, b) => kernelNet b
    | none => .other

/-- The driver and the parser agree. -/
theorem agreesOnDestination : AgreesOnDestination pcpp kernelView := by
  intro linkType pktData ip udp h
  have hip : (SmallPcpp.parse .udp ⟨pktData, linkType⟩).ipv4Layer = some ip := h.ipv4Layer
  unfold SmallPcpp.parse at hip
  split at hip
  next => cases hip
  next r hr =>
    obtain ⟨⟨n, b⟩, hnet, hparse⟩ := Option.bind_eq_some_iff.mp hr
    cases hip
    unfold kernelView
    simp only
    rw [hnet]
    simp only at hparse ⊢
    unfold parseIpv4 at hparse
    split at hparse
    next b' v _ l₀ l₁ i₀ i₁ f₀ f₁ _ p _ _ s₀ s₁ s₂ s₃ d₀ d₁ d₂ d₃ rest =>
      simp only at hparse
      split at hparse
      next =>
        cases hparse
        refine ⟨_, dif_pos ?_, ?_⟩
        · simp
        · rw [octets_le32]
          rfl
      next => cases hparse
    next => cases hparse
end SmallPcpp

instance (np : Npcap) (view : KernelView) (s : Session R) (l : SessionLabel) :
    Decidable (s.RespectsFilter np view l) :=
  inferInstanceAs (Decidable (_ = true))

/-- A UDP packet for the bound port arrives at a loopback device and is delivered. -/
theorem delivery_sound_loopback :
    let labels := boundToAny ++ .arrive 0 (loopbackFrame wholePacket) :: callStarted ++
      packetRead (loopbackFrame wholePacket) ++ [.reply .tau, .reply .tau]
    Foundation.HoldsAlong (smallStep linktypeNull)
        (fun s => ∀ c ∈ s.returned, c.Sound SmallPcpp.pcpp
          (Npcap.ofLinkTypes fun _ => linktypeNull)) smallStart labels ∧
      (Foundation.run (smallStep linktypeNull) smallStart labels).map (fun s =>
        s.returned.map fun c => (c.result, c.receiver.error.errorCode)) = some [(2, .ok)] := by
  intro labels
  refine ⟨delivery_sound (filtersSucceed_ofLinkTypes _)
    SmallPcpp.agreesOnDestination _ _ _ _ ?_ ?_, ?_⟩
  · decide +kernel
  · exact Foundation.stepsMeet_of_forall (fun s l h pktData _ => Or.inl rfl) _ _
  · decide +kernel

/-- A machine whose first device hands out raw IP packets. -/
def rawNp : Npcap := Npcap.ofLinkTypes fun h => if h = 0 then linktypeDltRaw1 else linktypeNull

/-- An IPv4 packet from 10.17.223.211:5000 to 10.0.0.2:4000.  Read as a loopback frame, it
is a UDP packet from 10.0.0.2 to port 5000 of 19.136.15.160. -/
def misreadPacket : Bytes :=
  [0x45, 0, 2, 0, 0x45, 7, 0, 0, 64, 17, 0x40, 0, 10, 17, 0xDF, 0xD3, 10, 0, 0, 2] ++
    [0x13, 0x88, 0x0F, 0xA0, 0x01, 0xEC, 0x13, 0x88, 0, 12, 0, 0, 0xD1, 0x73] ++
    List.replicate 478 0

/-- A socket is bound to 10.0.0.2:5000.  A UDP packet for another port passes the filter,
since it comes from port 5000, and is delivered. -/
theorem foreign_datagram_delivered :
    let step := sessionStep rawNp SmallPcpp.api
      (packetHandlerRawPtr SmallPcpp.pcpp SmallPcpp.api)
    let labels := .op (.bind (some [⟨"tun".toList, some [], [0x0200000A]⟩])
        (HostAddress.ofInt 0x0200000A) 5000) :: .arrive 0 misreadPacket ::
      callStarted ++ packetRead misreadPacket ++ [.reply .tau, .reply .tau]
    World.FiltersSucceed rawNp ∧ AgreesOnDestination SmallPcpp.pcpp SmallPcpp.kernelView ∧
      Foundation.StepsMeet step (Session.RespectsFilter rawNp SmallPcpp.kernelView) smallStart
        labels ∧
      ¬Foundation.HoldsAlong step
        (fun s => ∀ c ∈ s.returned, c.Sound SmallPcpp.pcpp rawNp) smallStart labels := by
  intro step labels
  refine ⟨filtersSucceed_ofLinkTypes _, SmallPcpp.agreesOnDestination, by decide +kernel, ?_⟩
  refine Foundation.not_holdsAlong (fun s => s.returned.any fun c =>
    c.receiver.error.errorCode = .ok ∧ c.delivering.any fun x => x.socket.boundPort = 5000 ∧
      (x.capturedPacket SmallPcpp.pcpp rawNp).udpLayer.all fun udp => ntohs udp.portDst = 4000)
    ?_ ?_
  · intro s hs h
    obtain ⟨c, hc, hcall⟩ := List.any_eq_true.mp hs
    obtain ⟨hok, hcall⟩ := of_decide_eq_true hcall
    obtain ⟨x, ip, udp, hdel, hcaptured, -, -, hport, -⟩ := h c hc hok
    rw [hdel, Option.any_some] at hcall
    obtain ⟨hbound, hdst⟩ := of_decide_eq_true hcall
    rw [hcaptured.udpLayer, Option.all_some] at hdst
    -- the captured packet is for port 4000
    rw [of_decide_eq_true hdst, hbound] at hport
    cases hport
  · decide +kernel

end Udpcap
