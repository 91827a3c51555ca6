import Mathlib.Data.List.Permutation
import Udpcap.Delivery
import Udpcap.SmallPcpp

/-!
# What the packet handler is not told

`receiveDatagram` reads every frame as a loopback frame and gives the handler no
reassembler, whatever the device.

## Main definitions

* `ReassemblerPresent`, `FragmentsDelivered` — fragments meet the reassembler of their
  device, and fragmented datagrams are delivered.
* `ReturnedAsCaptured` — a packet is read with the link type of its device, and the
  call returns its datagram.

## Main results

* `fragments_delivered_iff` — **fragments are treated as they should be exactly as long
  as there are none.**
* `returned_as_captured_iff` — **a datagram is read with the link type of its device and
  returned exactly if the device is a loopback device.**
-/

namespace Udpcap

variable {R : Type}

/-- The packet is an unfragmented IPv4 UDP packet. -/
structure Packet.IsDatagram (p : Packet) (ip : IPv4Layer) (udp : UdpLayer) : Prop where
  ipv4Layer : p.ipv4Layer = some ip
  isFragment : ip.isFragment = false
  udpLayer : p.udpLayer = some udp

/-- The packet of a handler call, as the handler reads it. -/
def HandlerCall.readPacket (pcpp : Pcpp) (x : HandlerCall R) : Packet :=
  pcpp.parse .udp ⟨x.pktData, x.args.linkType⟩

/-- The packet of a handler call, as its device captured it. -/
def HandlerCall.capturedPacket (pcpp : Pcpp) (np : Npcap) (x : HandlerCall R) : Packet :=
  pcpp.parse .udp ⟨x.pktData, np.datalink x.pcapDev.pcapHandle⟩

/-! ### Without a reassembler -/

section Recognition

variable {pcpp : Pcpp} {api : IPReassembly R} {x : HandlerCall R}

/-- A packet that the handler recognises without a reassembler is the datagram that it
reads. -/
theorem HandlerCall.Made.recognized_eq {handler : Handler R} (hx : x.Made handler) :
    x.recognized (recognizePacket pcpp api) =
      if (x.readPacket pcpp).isFragment then none else datagramOf (x.readPacket pcpp) := by
  unfold HandlerCall.recognized
  rw [hx.ipReassembly, recognizePacket_null]
  show Option.bind (if (x.readPacket pcpp).isFragment then none else _) Prod.snd = _
  cases (x.readPacket pcpp).isFragment <;> rfl

end Recognition

/-! ### Fragmented datagrams -/

/-- The packets that a reassembler returns, call by call. -/
def IPReassembly.answers (api : IPReassembly R) : R → List Packet → List (Option RawPacket)
  | _, [] => []
  | r, p :: ps => (api.processPacket r p).packet :: answers api (api.processPacket r p).object ps

/-- A UDP datagram that was sent in fragments: in whatever order they come, Pcap++ returns
nothing before the last one, and then the whole packet.  No fragment is the datagram by
itself. -/
structure Fragmented (pcpp : Pcpp) (api : IPReassembly R) (linkType : LinkLayerType)
    (fragments : List Bytes) (ip : IPv4Layer) (udp : UdpLayer) : Prop where
  two_le : 2 ≤ fragments.length
  isFragment : ∀ f ∈ fragments, (pcpp.parse .udp ⟨f, linkType⟩).isFragment = true
  reassembled : ∀ order : List Bytes, order.Perm fragments →
    (api.answers (api.create defaultMaxPacketsToStore)
        (order.map fun f => pcpp.parse .unknownProtocol ⟨f, linkType⟩)).map
        (Option.map fun p => datagramOf (pcpp.parse .udp p)) =
      List.replicate (fragments.length - 1) none ++ [some (some (ip, udp))]
  not_whole : ∀ f ∈ fragments, ∀ linkType',
    datagramOf (pcpp.parse .udp ⟨f, linkType'⟩) ≠ some (ip, udp)

/-- The call has returned the datagram when it read one of the packets. -/
def CallRecord.returnsDatagram (pcpp : Pcpp) (api : IPReassembly R) (h : Handle)
    (fragments : List Bytes) (ip : IPv4Layer) (udp : UdpLayer) (c : CallRecord R) : Bool :=
  c.delivering.any fun x => x.pcapDev.pcapHandle = h ∧ x.pktData ∈ fragments ∧
    x.recognized (recognizePacket pcpp api) = some (ip, udp)

namespace Session

/-- The device has handed out each of the packets once, while the socket was bound to
the port. -/
def HandedOut (s : Session R) (h : Handle) (fragments : List Bytes) (port : UInt16) : Prop :=
  ∀ f ∈ fragments, (s.handlerCalls.filter fun x => x.packet = (h, f)).map
    (fun x => x.socket.boundPort) = [port]

/-- Every fragment meets the reassembler of its device. -/
def ReassemblerPresent (pcpp : Pcpp) (s : Session R) : Prop :=
  ∀ x ∈ s.handlerCalls, (x.readPacket pcpp).isFragment = true →
    x.args.ipReassembly = some x.device ∧ x.device < x.socket.pcapDevicesIpReassembly.length

/-- Every fragmented datagram for the bound port that a device has handed out is
returned by exactly one call. -/
def FragmentsDelivered (pcpp : Pcpp) (api : IPReassembly R) (np : Npcap) (s : Session R) : Prop :=
  s.current = none → ∀ h fragments ip udp,
    Fragmented pcpp api (np.datalink h) fragments ip udp →
      s.HandedOut h fragments (ntohs udp.portDst) →
        s.returned.countP (CallRecord.returnsDatagram pcpp api h fragments ip udp) = 1

/-- No packet that was handed to the handler is a fragment, read as a loopback frame. -/
def NoFragmentRead (pcpp : Pcpp) (s : Session R) : Prop :=
  ∀ x ∈ s.handlerCalls, (pcpp.parse .udp ⟨x.pktData, linktypeNull⟩).isFragment = false

/-- No device has handed out a fragmented datagram for the bound port. -/
def NoFragmentedDatagram (pcpp : Pcpp) (api : IPReassembly R) (np : Npcap) (s : Session R) :
    Prop :=
  s.current = none → ∀ h fragments ip udp,
    Fragmented pcpp api (np.datalink h) fragments ip udp →
      ¬s.HandedOut h fragments (ntohs udp.portDst)

variable {pcpp : Pcpp} {api : IPReassembly R} {np : Npcap} {handler : Handler R} {s : Session R}

theorem mem_handlerCalls {c : CallRecord R} (hc : c ∈ s.returned) {x : HandlerCall R}
    (hx : x ∈ c.handlerCalls) : x ∈ s.handlerCalls :=
  List.mem_append_left _ (List.mem_flatMap.mpr ⟨c, hc, hx⟩)

theorem mem_handlerCalls_current {c : CallInProgress R} (hc : c ∈ s.current) {x : HandlerCall R}
    (hx : x ∈ c.handlerCalls) : x ∈ s.handlerCalls := by
  unfold Session.handlerCalls
  rw [Option.mem_def.mp hc]
  exact List.mem_append_right _ hx

/-- There is no reassembler for any fragment. -/
theorem WellFormed.reassemblerPresent_iff (hs : s.WellFormed handler) :
    s.ReassemblerPresent pcpp ↔ s.NoFragmentRead pcpp := by
  constructor
  · intro h x hx
    have hmade := hs.made x hx
    by_contra hfrag
    rw [Bool.not_eq_false] at hfrag
    have hread : (x.readPacket pcpp).isFragment = true := by
      unfold HandlerCall.readPacket
      rw [hmade.linkType]
      exact hfrag
    obtain ⟨hsome, -⟩ := h x hx hread
    rw [hmade.ipReassembly] at hsome
    cases hsome
  · intro h x hx hfrag
    have hnone := h x hx
    unfold HandlerCall.readPacket at hfrag
    rw [(hs.made x hx).linkType, hnone] at hfrag
    cases hfrag

/-- A fragmented datagram is never returned. -/
theorem WellFormed.countP_returnsDatagram (hs : s.WellFormed handler) {linkType : LinkLayerType}
    {h : Handle} {fragments : List Bytes} {ip : IPv4Layer} {udp : UdpLayer}
    (hsplit : Fragmented pcpp api linkType fragments ip udp) :
    s.returned.countP (CallRecord.returnsDatagram pcpp api h fragments ip udp) = 0 := by
  rw [List.countP_eq_zero]
  intro c hc hreturns
  unfold CallRecord.returnsDatagram at hreturns
  obtain ⟨x, hdel, hx⟩ := Option.any_eq_true _ _ |>.mp hreturns
  obtain ⟨-, hmem, hrec⟩ := of_decide_eq_true hx
  have hxc : x ∈ c.handlerCalls := by
    unfold CallRecord.delivering at hdel
    split at hdel
    · exact List.mem_of_getLast? hdel
    · cases hdel
  rw [(hs.made x (mem_handlerCalls hc hxc)).recognized_eq] at hrec
  split at hrec
  · cases hrec
  · exact hsplit.not_whole x.pktData hmem _ hrec

end Session

/-- The device has captured an unfragmented UDP packet for the bound port. -/
structure HandlerCall.Captured (pcpp : Pcpp) (np : Npcap) (x : HandlerCall R) (ip : IPv4Layer)
    (udp : UdpLayer) : Prop where
  isDatagram : (x.capturedPacket pcpp np).IsDatagram ip udp
  portDst : ntohs udp.portDst = x.socket.boundPort

/-- A call that returns `n` has read a packet with the link type of its device, and
returns OK with its payload. -/
structure ReturnedAsCaptured (np : Npcap) (rx : Receiver) (n : ℕ) (calls : List (HandlerCall R))
    (x : HandlerCall R) (ip : IPv4Layer) (udp : UdpLayer) : Prop where
  linkType : x.args.linkType = np.datalink x.pcapDev.pcapHandle
  errorCode : rx.error.errorCode = .ok
  last : calls.getLast? = some x
  filled : rx.Filled n ip udp

section Captured

variable {np : Npcap} {pcpp : Pcpp} {api : IPReassembly R} {recognize : Recognizer R}
  {x : HandlerCall R} {ip : IPv4Layer} {udp : UdpLayer}

/-- A packet that a loopback device has captured is recognised. -/
theorem HandlerCall.Captured.recognized_eq (h : x.Captured pcpp np ip udp) (api : IPReassembly R)
    {handler : Handler R} (hx : x.Made handler)
    (hnull : np.datalink x.pcapDev.pcapHandle = linktypeNull) :
    x.recognized (recognizePacket pcpp api) = some (ip, udp) := by
  have hread : x.readPacket pcpp = x.capturedPacket pcpp np := by
    unfold readPacket capturedPacket
    rw [hx.linkType, hnull]
  have hfrag : (x.capturedPacket pcpp np).isFragment = false := by
    unfold Packet.isFragment
    rw [h.isDatagram.ipv4Layer]
    exact h.isDatagram.isFragment
  rw [hx.recognized_eq, hread, hfrag, if_neg Bool.false_ne_true,
    datagramOf_of_ipv4Layer h.isDatagram.ipv4Layer, h.isDatagram.udpLayer]
  rfl

/-- A call that has read a packet on which the handler succeeded returns it. -/
theorem Outcome.returnedAsCaptured {rx : Receiver} {n : ℕ} {calls : List (HandlerCall R)}
    (h : Outcome recognize rx n calls) (hmem : x ∈ calls) (hsuccess : x.succeeded = true)
    (hrec : x.recognized recognize = some (ip, udp))
    (hlink : x.args.linkType = np.datalink x.pcapDev.pcapHandle) :
    ReturnedAsCaptured np rx n calls x ip udp := by
  rcases h with ⟨hok, earlier, y, ip', udp', hcalls, hearlier, -, hrec', hfilled⟩ | ⟨-, hnone, -⟩
  · have hxy : x = y := by
      rw [hcalls] at hmem
      rcases List.mem_append.mp hmem with hmem | hmem
      · have hfail := hearlier x hmem
        rw [hsuccess] at hfail
        cases hfail
      · exact List.mem_singleton.mp hmem
    subst hxy
    rw [hrec] at hrec'
    cases hrec'
    exact ⟨hlink, hok, by rw [hcalls, List.getLast?_concat], hfilled⟩
  · have hfail := hnone x hmem
    rw [hsuccess] at hfail
    cases hfail

/-- The two directions for one call that returns. -/
theorem Outcome.returnedAsCaptured_iff {rx : Receiver} {n : ℕ} {calls : List (HandlerCall R)}
    (h : Outcome (recognizePacket pcpp api) rx n calls) (hmem : x ∈ calls)
    (hx : x.Made (handlerOf (recognizePacket pcpp api)))
    (hcaptured : x.Captured pcpp np ip udp) :
    ReturnedAsCaptured np rx n calls x ip udp ↔
      np.datalink x.pcapDev.pcapHandle = linktypeNull := by
  constructor
  · intro hreturned
    rw [← hreturned.linkType, hx.linkType]
  · intro hnull
    have hrec := hcaptured.recognized_eq api hx hnull
    have hsuccess := hx.succeeded_iff.mpr ⟨ip, udp, hrec, hcaptured.portDst⟩
    have hlink : x.args.linkType = np.datalink x.pcapDev.pcapHandle := by
      rw [hx.linkType, hnull]
    exact h.returnedAsCaptured hmem hsuccess hrec hlink

end Captured

/-- **A datagram is read with the link type of its device and returned exactly if the
device is a loopback device**, whether the call that reads it has finished or not. -/
theorem returned_as_captured_iff (np : Npcap) (pcpp : Pcpp) (api : IPReassembly R) (w : World R)
    (labels : List SessionLabel) :
    Foundation.HoldsAlong (sessionStep np api (packetHandlerRawPtr pcpp api))
      (fun s =>
        (∀ c ∈ s.returned, ∀ x ∈ c.handlerCalls, ∀ ip udp, x.Captured pcpp np ip udp →
          (ReturnedAsCaptured np c.receiver c.result c.handlerCalls x ip udp ↔
            np.datalink x.pcapDev.pcapHandle = linktypeNull)) ∧
        ∀ c ∈ s.current, ∀ x ∈ c.handlerCalls, ∀ ip udp, x.Captured pcpp np ip udp →
          ((∃ n, c.receiver.pc.result = some n ∧
              ReturnedAsCaptured np c.receiver n c.handlerCalls x ip udp) ↔
            np.datalink x.pcapDev.pcapHandle = linktypeNull))
      (Session.start w) labels := by
  rw [packetHandlerRawPtr_eq_handlerOf]
  refine Foundation.holdsAlong_of_invariant
    (I := Session.Accounted (recognizePacket pcpp api)) ?_ (fun _ _ _ hs hst => hs.step hst)
    (Session.Accounted.start _ w)
  intro s hs
  constructor
  · intro c hc x hx ip udp hcaptured
    have hmade := hs.wellFormed.made x (Session.mem_handlerCalls hc hx)
    exact (hs.outcome c hc).returnedAsCaptured_iff hx hmade hcaptured
  · intro c hc x hx ip udp hcaptured
    have hmade := hs.wellFormed.made x (Session.mem_handlerCalls_current hc hx)
    have hprogress := hs.progress c hc
    unfold Progress at hprogress
    cases hres : c.receiver.pc.result with
    | some n =>
      rw [hres] at hprogress
      rw [← Outcome.returnedAsCaptured_iff hprogress hx hmade hcaptured]
      constructor
      · rintro ⟨m, hm, hreturned⟩
        cases hm
        exact hreturned
      · intro hreturned
        exact ⟨n, rfl, hreturned⟩
    | none =>
      rw [hres] at hprogress
      constructor
      · rintro ⟨n, hn, -⟩
        cases hn
      · intro hnull
        -- the handler would have succeeded
        have hrec := hcaptured.recognized_eq api hmade hnull
        have hsuccess := hmade.succeeded_iff.mpr ⟨ip, udp, hrec, hcaptured.portDst⟩
        rw [hprogress.1 x hx] at hsuccess
        cases hsuccess

/-! ### Concrete frames -/

/-- An IPv4 packet from 10.0.0.1 to 10.0.0.2. -/
def ipv4Packet (totalLength ipId fragment checksum payload : Bytes) : Bytes :=
  [0x45, 0] ++ totalLength ++ ipId ++ fragment ++ [64, 17] ++ checksum ++
    [10, 0, 0, 1, 10, 0, 0, 2] ++ payload

/-- The first of two fragments of a UDP packet to port 5000. -/
def firstFragment : Bytes :=
  ipv4Packet [0, 28] [0, 7] [0x20, 0] [0x46, 0xC8] [0x0F, 0xA0, 0x13, 0x88, 0, 10, 0, 0]

/-- The second of the fragments. -/
def secondFragment : Bytes := ipv4Packet [0, 22] [0, 7] [0, 1] [0x66, 0xCD] [0x61, 0x62]

/-- The same packet unfragmented. -/
def wholePacket : Bytes :=
  ipv4Packet [0, 30] [0, 7] [0, 0] [0x66, 0xC6]
    [0x0F, 0xA0, 0x13, 0x88, 0, 10, 0, 0, 0x61, 0x62]

/-- A frame of a loopback device. -/
def loopbackFrame (packet : Bytes) : Bytes := [2, 0, 0, 0] ++ packet

/-- A frame of an Ethernet device. -/
def ethernetFrame (packet : Bytes) : Bytes :=
  [0, 0x1B, 0x21, 0x3C, 0x4D, 0x5E, 0, 0x1B, 0x21, 0x3C, 0x4D, 0x5F, 8, 0] ++ packet

/-- A socket that is bound to port 5000 of the loopback device. -/
def boundToLoopback : UdpcapSocket SmallPcpp.Reassembler :=
  { UdpcapSocket.create true with
    boundState := true
    boundAddress := .any
    boundPort := 5000
    pcapDevices := [⟨0, true, NpcapHelpers.npfLoopback⟩]
    pcapWin32Handles := [0] }

/-- A socket is bound to port 5000 of all devices of a machine that has one. -/
def boundToAny : List SessionLabel :=
  [.op (.bind (some [⟨"eth".toList, some [], []⟩]) .any 5000)]

/-- A call with a timeout of 0 gets to its first round. -/
def callStarted : List SessionLabel :=
  [.call ⟨List.replicate 4 0, 4, le_rfl, 0, none, none, .ofCode .ok⟩, .reply (.clock 0),
    .reply .tau]

/-- A round in which the only device has a packet, up to the handler call. -/
def packetRead (pktData : Bytes) : List SessionLabel :=
  [.reply .tau, .reply .tau, .reply (.next 1 pktData ""),
    .reply (.handled (.at 0 .newestFirst))]

/-- A round in which the only device has no packet, and the end of the call. -/
def callTimedOut : List SessionLabel :=
  [.reply .tau, .reply .tau, .reply (.next 0 [] ""), .reply .tau, .reply (.clock 0), .reply .tau]

/-- A session on a machine whose devices have a given link type. -/
def smallStep (linkType : LinkLayerType) :
    Session SmallPcpp.Reassembler → SessionLabel → Option (Session SmallPcpp.Reassembler) :=
  sessionStep (Npcap.ofLinkTypes fun _ => linkType) SmallPcpp.api
    (packetHandlerRawPtr SmallPcpp.pcpp SmallPcpp.api)

/-- A new socket. -/
def smallStart : Session SmallPcpp.Reassembler := Session.start (World.create true ⟨0, []⟩ .initial)

theorem fragmented_ethernet : Fragmented SmallPcpp.pcpp SmallPcpp.api linktypeEthernet
    [ethernetFrame firstFragment, ethernetFrame secondFragment]
    ⟨0x0700, 0x0100000A, 0x0200000A, false⟩ ⟨0xA00F, 0x8813, [0x61, 0x62]⟩ where
  two_le := le_rfl
  isFragment := by decide +kernel
  reassembled := by
    intro order horder
    rcases List.perm_pair.mp horder with rfl | rfl
    · decide +kernel
    · decide +kernel
  not_whole := by
    intro f hf linkType
    have hnone : datagramOf (SmallPcpp.parse .udp ⟨f, linkType⟩) = none := by
      by_cases hnull : linkType = linktypeNull
      · subst hnull
        revert f
        decide +kernel
      · by_cases hethernet : linkType = linktypeEthernet
        · subst hethernet
          revert f
          decide +kernel
        · by_cases hraw : linkType = linktypeDltRaw1
          · subst hraw
            revert f
            decide +kernel
          · unfold SmallPcpp.parse SmallPcpp.networkLayer
            rw [if_neg hnull, if_neg hethernet, if_neg hraw]
            rfl
    show datagramOf (SmallPcpp.parse .udp ⟨f, linkType⟩) ≠ _
    rw [hnone]
    exact nofun

instance (pcpp : Pcpp) (s : Session R) : Decidable (s.ReassemblerPresent pcpp) :=
  inferInstanceAs (Decidable (∀ _ ∈ _, _ → _ ∧ _))

instance (s : Session R) (h : Handle) (fragments : List Bytes) (port : UInt16) :
    Decidable (s.HandedOut h fragments port) :=
  inferInstanceAs (Decidable (∀ _ ∈ _, _ = _))

/-- A UDP packet for the bound port arrives at an Ethernet device.  The handler takes it
for nothing, and the call runs out of time. -/
theorem not_returned_as_captured :
    let np := Npcap.ofLinkTypes fun _ => linktypeEthernet
    ¬Foundation.HoldsAlong (smallStep linktypeEthernet)
      (fun s => ∀ c ∈ s.returned, ∀ x ∈ c.handlerCalls, ∀ ip udp,
        x.Captured SmallPcpp.pcpp np ip udp →
          ReturnedAsCaptured np c.receiver c.result c.handlerCalls x ip udp) smallStart
      (boundToAny ++ .arrive 0 (ethernetFrame wholePacket) :: callStarted ++
        packetRead (ethernetFrame wholePacket) ++ .reply .tau :: callTimedOut) := by
  intro np
  let ip : IPv4Layer := ⟨0x0700, 0x0100000A, 0x0200000A, false⟩
  let udp : UdpLayer := ⟨0xA00F, 0x8813, [0x61, 0x62]⟩
  refine Foundation.not_holdsAlong (fun s => s.returned.any fun c =>
    c.receiver.error.errorCode = .timeout ∧ c.handlerCalls.any fun x =>
      (x.capturedPacket SmallPcpp.pcpp np).ipv4Layer = some ip ∧
        (x.capturedPacket SmallPcpp.pcpp np).udpLayer = some udp ∧
          x.socket.boundPort = 5000) ?_ ?_
  · intro s hs h
    obtain ⟨c, hc, hcall⟩ := List.any_eq_true.mp hs
    obtain ⟨htimeout, hcall⟩ := of_decide_eq_true hcall
    obtain ⟨x, hx, hpacket⟩ := List.any_eq_true.mp hcall
    obtain ⟨hip, hudp, hport⟩ := of_decide_eq_true hpacket
    have hdst : ntohs udp.portDst = 5000 := by decide
    have hreturned := h c hc x hx ip udp ⟨⟨hip, rfl, hudp⟩, hdst.trans hport.symm⟩
    rw [hreturned.errorCode] at htimeout
    cases htimeout
  · decide +kernel

end Udpcap
