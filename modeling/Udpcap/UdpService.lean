import Udpcap.EndToEnd
import Udpcap.HostOrder

/-!
# What a user sees

For its user a socket is a UDP socket: of the datagrams that come by its devices it hands
out, one for each call, those for its port and one of its addresses, as long as the filters
are current and frames do not come by while an operation runs.

## Main definitions

* `Datagram`, `frameDatagram` — a UDP datagram, and the one that a frame carries.
* `UdpcapSocket.Expects` — the datagrams that a socket should receive.
* `CallRecord.Returns` — a call returns a datagram.
* `Network.Serves` — the datagrams of a device are returned as a UDP socket returns them.

## Main results

* `stored_iff_expects` — **what a device stores for its port is what the socket expects.**
* `Network.Tracked.serves` — the same from the frames to the calls.
* `network_serves` — **every loopback device of every network is served.**
-/

namespace Udpcap

open PcapFilter

variable {R : Type}

/-! ### Datagrams -/

/-- A UDP datagram over IPv4. -/
structure Datagram where
  source : UInt32
  sourcePort : UInt16
  destination : UInt32
  destinationPort : UInt16
  payload : Bytes
  deriving DecidableEq, Repr

/-- The datagram that the layers of a packet stand for. -/
def Datagram.ofLayers (ip : IPv4Layer) (udp : UdpLayer) : Datagram :=
  ⟨ip.srcIPv4Address, ntohs udp.portSrc, ip.dstIPv4Address, ntohs udp.portDst, udp.layerPayload⟩

/-- A frame of a loopback device, as Pcap++ reads it. -/
def framePacket (pcpp : Pcpp) (pktData : Bytes) : Packet :=
  pcpp.parse .udp ⟨pktData, linktypeNull⟩

/-- The datagram that a frame of a loopback device carries as a whole. -/
def frameDatagram (pcpp : Pcpp) (pktData : Bytes) : Option Datagram :=
  if (framePacket pcpp pktData).isFragment then none
  else (datagramOf (framePacket pcpp pktData)).map fun d => .ofLayers d.1 d.2

/-- The driver and Pcap++ read the same datagram. -/
def AgreesOnDatagrams (pcpp : Pcpp) (view : KernelView) : Prop :=
  ∀ pktData d, frameDatagram pcpp pktData = some d → ∃ ip,
    (view linktypeNull pktData).net = .ip ip ∧ ip.protocol = 17 ∧ ip.isFragment = false ∧
      ip.ports = some (d.sourcePort.toNat, d.destinationPort.toNat) ∧
      ip.destination = octets d.destination

instance (s : UdpcapSocket R) (pcapDev : PcapDev) (dst : UInt32) :
    Decidable (Addressed s pcapDev dst) :=
  inferInstanceAs (Decidable (_ ∨ _))

/-- A socket should receive a datagram from a device. -/
def UdpcapSocket.Expects (s : UdpcapSocket R) (pcapDev : PcapDev) (d : Datagram) : Prop :=
  d.destinationPort = s.boundPort ∧ Addressed s pcapDev d.destination

instance (s : UdpcapSocket R) (pcapDev : PcapDev) (d : Datagram) :
    Decidable (s.Expects pcapDev d) :=
  inferInstanceAs (Decidable (_ ∧ _))

/-! ### What is stored -/

/-- The destinations that the filter lets through are those that are expected. -/
theorem wants_iff_addressed {s : UdpcapSocket R} (hs : s.Addresses) {pcapDev : PcapDev}
    {ip : IpView} {dst : UInt32} (hdst : ip.destination = octets dst) :
    s.Wants pcapDev ip ↔ Addressed s pcapDev dst := by
  have hbound : ip.destination = octets s.boundAddress.ipv4 ↔ dst = s.boundAddress.ipv4 := by
    rw [hdst]
    exact ⟨fun h => octets_injective h, fun h => by rw [h]⟩
  unfold UdpcapSocket.Wants Addressed
  rw [isMulticast_of_destination hdst, decide_eq_false_iff_not, decide_eq_true_eq, not_le, hbound]
  constructor
  · rintro (⟨hunicast, haddress⟩ | ⟨-, ⟨g, hg, hgroup⟩, hdevice⟩)
    · left
      refine ⟨hunicast, ?_⟩
      intro hany hbroadcast
      rcases haddress with h | h | h
      · exact absurd h hany
      · exact absurd h hbroadcast
      · exact h
    · right
      rw [hdst] at hgroup
      exact ⟨g, hg, hs.multicast g hg, octets_injective hgroup, hdevice⟩
  · rintro (⟨hunicast, haddress⟩ | ⟨g, hg, hmulticast, rfl, hdevice⟩)
    · left
      refine ⟨hunicast, ?_⟩
      by_contra hnone
      rw [not_or, not_or] at hnone
      exact hnone.2.2 (haddress hnone.1 hnone.2.1)
    · right
      exact ⟨le_of_isMulticast hmulticast, ⟨g, hg, hdst⟩, hdevice⟩

/-- A device whose frames are no Ethernet frames has sent none of them itself. -/
theorem not_hasSent {np : Npcap} {pcapDev : PcapDev} (v : PacketView)
    (hnull : np.datalink pcapDev.pcapHandle = linktypeNull) : ¬pcapDev.HasSent np v := by
  rintro ⟨-, mac, hmac, -⟩
  unfold deviceMac at hmac
  rw [hnull, if_neg (by decide)] at hmac
  cases hmac

/-- **What a loopback device should hand out, among the datagrams for the bound port, is what
the socket expects.** -/
theorem admits_iff_addressed {np : Npcap} {pcpp : Pcpp} {view : KernelView}
    (hagrees : AgreesOnDatagrams pcpp view) {s : UdpcapSocket R} (hs : s.Addresses)
    {pcapDev : PcapDev} (hnull : np.datalink pcapDev.pcapHandle = linktypeNull) {pktData : Bytes}
    {d : Datagram} (hd : frameDatagram pcpp pktData = some d)
    (hport : d.destinationPort = s.boundPort) :
    s.Admits np pcapDev (view linktypeNull pktData) ↔ Addressed s pcapDev d.destination := by
  obtain ⟨ip, hnet, hprotocol, -, hports, hdst⟩ := hagrees pktData d hd
  have hmay : MayHavePort s.boundPort ip :=
    ⟨hprotocol, Or.inr ⟨_, _, hports, Or.inr (by rw [hport])⟩⟩
  unfold UdpcapSocket.Admits
  rw [← wants_iff_addressed hs hdst, hnet]
  constructor
  · rintro ⟨-, ip', hip', -, hwants⟩
    cases hip'
    exact hwants
  · intro hwants
    exact ⟨not_hasSent _ hnull, ip, rfl, hmay, hwants⟩

/-! ### The service -/

/-- The datagram of a captured frame, if it is kept and the socket should receive it. -/
def Capture.datagram (pcpp : Pcpp) (x : Capture R) : Option Datagram :=
  if x.kept then
    (frameDatagram pcpp x.pktData).filter fun d => decide (x.socket.Expects x.pcapDev d)
  else none

/-- A call returns a datagram: its payload, as far as it fits, and its source. -/
structure CallRecord.Returns (c : CallRecord R) (d : Datagram) : Prop where
  errorCode : c.receiver.error.errorCode = .ok
  result : c.result = min c.receiver.args.maxLen d.payload.length
  data : c.receiver.data = d.payload.take c.result ++ c.receiver.args.data.drop c.result
  sourceAddress : c.receiver.sourceAddress =
    c.receiver.args.sourceAddress.map fun _ => HostAddress.ofInt d.source
  sourcePort : c.receiver.sourcePort = c.receiver.args.sourcePort.map fun _ => d.sourcePort

namespace Network

/-- The datagrams of a device that the socket should receive, in the order in which they
came by. -/
def expectedOn (pcpp : Pcpp) (n : Network R) (h : Handle) : List Datagram :=
  (n.captures.filter fun x => decide (x.pcapDev.pcapHandle = h)).filterMap (Capture.datagram pcpp)

/-- The calls that have succeeded with a packet of a device. -/
def callsOn (n : Network R) (h : Handle) : List (CallRecord R) :=
  n.session.returned.filter fun c =>
    c.delivering.any fun y => decide (y.pcapDev.pcapHandle = h)

/-- The calls have returned the datagrams that the socket should receive, one by one and in
order, and none is left once the buffer of the device is empty. -/
def Serves (pcpp : Pcpp) (n : Network R) (h : Handle) : Prop :=
  ∃ received pending, n.expectedOn pcpp h = received ++ pending ∧
    List.Forall₂ CallRecord.Returns (n.callsOn h) received ∧
    (n.session.current = none → n.session.queues h = [] → pending = [])

end Network

/-! ### From the frames to the calls -/

/-- The datagram of a handler call, if it is for the bound port. -/
def HandlerCall.datagram (pcpp : Pcpp) (y : HandlerCall R) : Option Datagram :=
  (frameDatagram pcpp y.pktData).filter fun d => decide (d.destinationPort = y.socket.boundPort)

section Handled

variable {pcpp : Pcpp} {api : IPReassembly R} {y : HandlerCall R}

/-- The handler takes a packet for the datagram that the frame carries. -/
theorem HandlerCall.Made.frameDatagram_eq {handler : Handler R} (hy : y.Made handler)
    (pcpp : Pcpp) (api : IPReassembly R) :
    frameDatagram pcpp y.pktData =
      (y.recognized (recognizePacket pcpp api)).map fun d => .ofLayers d.1 d.2 := by
  rw [hy.recognized_eq]
  have hread : y.readPacket pcpp = framePacket pcpp y.pktData := by
    unfold HandlerCall.readPacket framePacket
    rw [hy.linkType]
  unfold frameDatagram
  rw [hread]
  split
  · rfl
  · rfl

/-- The handler succeeds on the datagrams for the bound port. -/
theorem HandlerCall.Made.succeeded_eq (hy : y.Made (handlerOf (recognizePacket pcpp api))) :
    y.succeeded = (y.datagram pcpp).isSome := by
  unfold HandlerCall.datagram
  rw [Bool.eq_iff_iff, hy.succeeded_iff, hy.frameDatagram_eq pcpp api]
  cases y.recognized (recognizePacket pcpp api) with
  | none => simp
  | some d =>
    obtain ⟨ip, udp⟩ := d
    simp [Datagram.ofLayers, Option.filter_some]

/-- A call that succeeds returns the datagram that it has delivered. -/
theorem Outcome.returns {c : CallRecord R}
    (h : Outcome (recognizePacket pcpp api) c.receiver c.result c.handlerCalls)
    (hmade : ∀ x ∈ c.handlerCalls, x.Made (handlerOf (recognizePacket pcpp api)))
    (hy : c.delivering = some y) : ∃ d, y.datagram pcpp = some d ∧ c.Returns d := by
  unfold CallRecord.delivering at hy
  rcases h with ⟨hok, earlier, x, ip, udp, hcalls, -, hx, hrec, hfilled⟩ | ⟨hfail, -⟩
  · rw [if_pos hok, hcalls, List.getLast?_concat] at hy
    cases hy
    have hxmade := hmade y (by rw [hcalls]; exact List.mem_append_right _ List.mem_cons_self)
    have hsome := hxmade.succeeded_eq
    rw [hx] at hsome
    obtain ⟨d, hd⟩ := Option.isSome_iff_exists.mp hsome.symm
    refine ⟨d, hd, ?_⟩
    have hframe := hxmade.frameDatagram_eq pcpp api
    rw [hrec] at hframe
    have hlayers : d = .ofLayers ip udp := by
      unfold HandlerCall.datagram at hd
      rw [hframe] at hd
      exact (Option.some.inj (Option.filter_eq_some_iff.mp hd).1).symm
    subst hlayers
    refine ⟨hok, hfilled.result, ?_, hfilled.sourceAddress, hfilled.sourcePort⟩
    calc c.receiver.data
        = c.receiver.data.take c.result ++ c.receiver.data.drop c.result :=
          (List.take_append_drop _ _).symm
      _ = udp.layerPayload.take c.result ++ c.receiver.args.data.drop c.result := by
          rw [hfilled.take_data, hfilled.drop_data]
  · rw [if_neg hfail] at hy
    cases hy

end Handled

/-! ### Lists -/

theorem filterMap_filter_eq {α β : Type} {p q : α → Bool} {f g : α → Option β} {l : List α}
    (h : ∀ a ∈ l, q a = true → f a = if p a then g a else none) :
    (l.filter q).filterMap f = (l.filter fun a => p a && q a).filterMap g := by
  induction l with
  | nil => rfl
  | cons a l ih =>
    obtain ⟨ha, hl⟩ := List.forall_mem_cons.mp h
    rw [List.filter_cons, List.filter_cons]
    cases hq : q a with
    | false => simpa [hq] using ih hl
    | true =>
      have hfa := ha hq
      cases hp : p a with
      | false =>
        rw [hp] at hfa
        simpa [hq, hfa] using ih hl
      | true =>
        rw [hp] at hfa
        simp [hfa, ih hl, List.filterMap_cons]

theorem filterMap_eq_of_forall₂ {α β γ : Type} {r : α → β → Prop} {f : α → Option γ}
    {g : β → Option γ} {xs : List α} {ys : List β} (h : List.Forall₂ r xs ys)
    (hfg : ∀ x ∈ xs, ∀ y, r x y → f x = g y) : xs.filterMap f = ys.filterMap g := by
  induction h with
  | nil => rfl
  | cons hr _ ih =>
    obtain ⟨hx, hxs⟩ := List.forall_mem_cons.mp hfg
    rw [List.filterMap_cons, List.filterMap_cons, hx _ hr, ih hxs]

/-! ### The frames of a device -/

namespace Network

variable {np : Npcap} {api : IPReassembly R} {view : KernelView} {pcpp : Pcpp} {n : Network R}
  {h : Handle}

/-- What a loopback device stores for the bound port is what the socket expects. -/
theorem Tracked.datagram_eq (hn : n.Tracked np view (recognizePacket pcpp api))
    (hagrees : AgreesOnDatagrams pcpp view) {x : Capture R} (hx : x ∈ n.captures)
    (hbound : x.socket.boundState = true)
    (hnull : np.datalink x.pcapDev.pcapHandle = linktypeNull) :
    x.datagram pcpp = if x.stored then (frameDatagram pcpp x.pktData).filter
      (fun d => decide (d.destinationPort = x.socket.boundPort)) else none := by
  have hstored := hn.stored x hx hbound
  rw [hnull] at hstored
  unfold Capture.datagram
  cases hd : frameDatagram pcpp x.pktData with
  | none => simp
  | some d =>
    by_cases hport : d.destinationPort = x.socket.boundPort
    · rw [admits_iff_addressed hagrees (hn.addressed x hx) hnull hd hport] at hstored
      have hexpects : x.socket.Expects x.pcapDev d ↔
          Addressed x.socket x.pcapDev d.destination := ⟨fun h => h.2, fun h => ⟨hport, h⟩⟩
      cases hkept : x.kept with
      | false =>
        have hnot : x.stored = false := by simpa [hkept] using hstored
        simp [hnot]
      | true =>
        have hiff : x.stored = true ↔ x.socket.Expects x.pcapDev d := by
          simpa [hkept, hexpects] using hstored
        by_cases hexp : x.socket.Expects x.pcapDev d
        · simp [hiff.mpr hexp, hexp, hport, Option.filter_some]
        · have hnot : x.stored = false := by simpa using mt hiff.mp hexp
          simp [hnot, hexp, Option.filter_some]
    · have hnot : ¬x.socket.Expects x.pcapDev d := fun h => hport h.1
      simp [hport, hnot, Option.filter_some]

/-- The datagrams of a device that the socket should receive are those that are stored. -/
theorem Tracked.expectedOn_eq (hn : n.Tracked np view (recognizePacket pcpp api))
    (hagrees : AgreesOnDatagrams pcpp view) (hnull : np.datalink h = linktypeNull)
    (hbound : ∀ x ∈ n.captures, x.pcapDev.pcapHandle = h → x.socket.boundState = true) :
    n.expectedOn pcpp h = (n.storedOn h).filterMap fun x => (frameDatagram pcpp x.pktData).filter
      fun d => decide (d.destinationPort = x.socket.boundPort) := by
  refine filterMap_filter_eq ?_
  intro x hx hon
  rw [decide_eq_true_eq] at hon
  exact hn.datagram_eq hagrees hx (hbound x hx hon) (by rw [hon]; exact hnull)

/-- The datagrams of the handler calls of a device are those that are delivered, and the one
that the call in progress may hold. -/
theorem Tracked.handledOn_datagrams (hn : n.Tracked np view (recognizePacket pcpp api)) :
    ∃ held, (n.handledOn h).filterMap (HandlerCall.datagram pcpp) =
        (n.deliveredOn h).filterMap (HandlerCall.datagram pcpp) ++ held ∧
      (n.session.current = none → held = []) := by
  obtain ⟨held, heq, -, hnone⟩ := hn.delivered h
  refine ⟨held.filterMap (HandlerCall.datagram pcpp), ?_, ?_⟩
  · have hsucceeded : (n.handledOn h).filterMap (HandlerCall.datagram pcpp) =
        ((n.handledOn h).filter HandlerCall.succeeded).filterMap (HandlerCall.datagram pcpp) := by
      rw [List.filterMap_filter]
      refine List.filterMap_congr ?_
      intro y hy
      have hmade := hn.accounted.wellFormed.made y (List.mem_of_mem_filter hy)
      rw [hmade.succeeded_eq]
      cases y.datagram pcpp with
      | none => rfl
      | some d => rfl
    rw [hsucceeded, heq, List.filterMap_append]
  · intro hcurrent
    rw [hnone hcurrent]
    rfl

/-- The calls that have succeeded return what has been delivered. -/
theorem Tracked.callsOn_returns (hn : n.Tracked np view (recognizePacket pcpp api)) :
    List.Forall₂ CallRecord.Returns (n.callsOn h)
      ((n.deliveredOn h).filterMap (HandlerCall.datagram pcpp)) := by
  have hall : ∀ l : List (CallRecord R), (∀ c ∈ l, c ∈ n.session.returned) →
      List.Forall₂ CallRecord.Returns
        (l.filter fun c => c.delivering.any fun y => decide (y.pcapDev.pcapHandle = h))
        (((l.filterMap CallRecord.delivering).filter fun y =>
          decide (y.pcapDev.pcapHandle = h)).filterMap (HandlerCall.datagram pcpp)) := by
    intro l
    induction l with
    | nil => exact fun _ => .nil
    | cons c l ih =>
      intro hl
      obtain ⟨hc, hl⟩ := List.forall_mem_cons.mp hl
      cases hy : c.delivering with
      | none => simpa [hy] using ih hl
      | some y =>
        cases hon : decide (y.pcapDev.pcapHandle = h) with
        | false => simpa [hy, hon] using ih hl
        | true =>
          have hmade : ∀ x ∈ c.handlerCalls, x.Made (handlerOf (recognizePacket pcpp api)) :=
            fun x hx => hn.accounted.wellFormed.made x (Session.mem_handlerCalls hc hx)
          obtain ⟨d, hd, hreturns⟩ := (hn.accounted.outcome c hc).returns hmade hy
          have hcons := List.Forall₂.cons hreturns (ih hl)
          simpa [hy, hon, hd] using hcons
  exact hall n.session.returned fun c hc => hc

/-- **From the frames to the calls.** -/
theorem Tracked.serves (hn : n.Tracked np view (recognizePacket pcpp api))
    (hagrees : AgreesOnDatagrams pcpp view) (hnull : np.datalink h = linktypeNull)
    (hbound : ∀ x ∈ n.captures, x.pcapDev.pcapHandle = h → x.socket.boundState = true) :
    n.Serves pcpp h := by
  obtain ⟨done, waiting, hstored, hhandled, hwaiting⟩ := hn.handled h
  obtain ⟨held, hheld, hnone⟩ := hn.handledOn_datagrams (h := h)
  let stored : Capture R → Option Datagram := fun x => (frameDatagram pcpp x.pktData).filter
    fun d => decide (d.destinationPort = x.socket.boundPort)
  have hdone : done.filterMap stored = (n.handledOn h).filterMap (HandlerCall.datagram pcpp) := by
    refine filterMap_eq_of_forall₂ hhandled ?_
    intro x hx y hxy
    -- the socket has the same binding at the capture and at the handler call
    have hmem : x ∈ n.storedOn h := by
      rw [hstored]
      exact List.mem_append_left _ hx
    obtain ⟨hcapture, hon⟩ := List.mem_filter.mp hmem
    rw [Bool.and_eq_true, decide_eq_true_eq] at hon
    obtain ⟨-, -, hport⟩ := hxy.binding (hbound x hcapture hon.2)
    show (frameDatagram pcpp x.pktData).filter _ = (frameDatagram pcpp y.pktData).filter _
    rw [hxy.pktData, hport]
  refine ⟨(n.deliveredOn h).filterMap (HandlerCall.datagram pcpp),
    held ++ waiting.filterMap stored, ?_, hn.callsOn_returns, ?_⟩
  · rw [hn.expectedOn_eq hagrees hnull hbound, hstored, List.filterMap_append]
    show done.filterMap stored ++ waiting.filterMap stored = _
    rw [hdone, hheld, List.append_assoc]
  · intro hcurrent hqueue
    have hempty : n.waitingOn h = [] := by
      unfold waitingOn Session.inFlight
      rw [hcurrent, hqueue]
      rfl
    rw [hempty] at hwaiting
    rw [hnone hcurrent, List.map_eq_nil_iff.mp hwaiting]
    rfl

end Network

namespace SmallPcpp

theorem toNat_le16 (b₀ b₁ : UInt8) : (le16 b₀ b₁).toNat = b₀.toNat + 2 ^ 8 * b₁.toNat := by
  have h₀ : b₀.toNat < 2 ^ 8 := b₀.toNat_lt
  have h₁ : b₁.toNat < 2 ^ 8 := b₁.toNat_lt
  unfold le16
  rw [UInt16.toNat_or, UInt16.toNat_shiftLeft, UInt8.toNat_toUInt16, UInt8.toNat_toUInt16]
  show b₀.toNat ||| b₁.toNat <<< 8 % 2 ^ 16 = _
  rw [Nat.mod_eq_of_lt (by rw [Nat.shiftLeft_eq]; omega)]
  exact or_shiftLeft h₀

/-- `ntohs` reads the two bytes in network byte order. -/
theorem toNat_ntohs_le16 (b₀ b₁ : UInt8) : (ntohs (le16 b₀ b₁)).toNat = be16 b₀ b₁ := by
  have h₀ : b₀.toNat < 2 ^ 8 := b₀.toNat_lt
  have h₁ : b₁.toNat < 2 ^ 8 := b₁.toNat_lt
  unfold ntohs be16
  rw [UInt16.toNat_or, UInt16.toNat_shiftLeft, UInt16.toNat_shiftRight, toNat_le16]
  show (b₀.toNat + 2 ^ 8 * b₁.toNat) <<< 8 % 2 ^ 16 ||| (b₀.toNat + 2 ^ 8 * b₁.toNat) >>> 8 = _
  have hhigh : (b₀.toNat + 2 ^ 8 * b₁.toNat) <<< 8 % 2 ^ 16 = b₀.toNat <<< 8 := by
    rw [Nat.shiftLeft_eq, Nat.shiftLeft_eq]
    omega
  have hlow : (b₀.toNat + 2 ^ 8 * b₁.toNat) >>> 8 = b₁.toNat := by
    rw [Nat.shiftRight_eq_div_pow]
    omega
  rw [hhigh, hlow, Nat.or_comm, or_shiftLeft h₁]
  omega

theorem parse_datagram {raw : RawPacket} {d : IPv4Layer × UdpLayer}
    (hfrag : (SmallPcpp.parse .udp raw).isFragment = false)
    (hd : datagramOf (SmallPcpp.parse .udp raw) = some d) :
    ∃ n b r, networkLayer raw = some (n, b) ∧ parseIpv4 b = some r ∧
      r.layer.isFragment = false ∧ r.protocol = 17 ∧ parseUdp r.payload = some d.2 ∧
      r.layer = d.1 := by
  unfold SmallPcpp.parse at hfrag hd
  split at hd
  next => cases hd
  next r hr =>
    rw [hr] at hfrag
    obtain ⟨⟨n, b⟩, hnet, hparse⟩ := Option.bind_eq_some_iff.mp hr
    have hwhole : r.layer.isFragment = false := hfrag
    simp only [hwhole, true_and] at hd
    by_cases hprotocol : r.protocol = 17
    · rw [if_pos hprotocol] at hd
      cases hudp : parseUdp r.payload with
      | none =>
        rw [hudp] at hd
        cases hd
      | some udp =>
        rw [hudp] at hd
        cases hd
        exact ⟨n, b, r, hnet, hparse, hwhole, hprotocol, hudp, rfl⟩
    · rw [if_neg hprotocol] at hd
      cases hd

/-- The ports that the driver reads are those of the datagram. -/
theorem ports_of_parseUdp {b : Bytes} {total k : ℕ} {udp : UdpLayer}
    (h : parseUdp ((b.take total).drop k) = some udp) :
    ∃ s₀ s₁ d₀ d₁ rest, b.drop k = s₀ :: s₁ :: d₀ :: d₁ :: rest ∧
      udp.portSrc = le16 s₀ s₁ ∧ udp.portDst = le16 d₀ d₁ := by
  rw [List.drop_take] at h
  generalize b.drop k = l at h
  unfold parseUdp at h
  split at h
  next s₀ s₁ d₀ d₁ l₀ l₁ _ _ payload heq =>
    cases h
    have hprefix := List.take_append_drop (total - k) l
    rw [heq] at hprefix
    exact ⟨s₀, s₁, d₀, d₁, _, hprefix.symm, rfl, rfl⟩
  next => cases h

/-- The driver and the parser read the same datagram. -/
theorem agreesOnDatagrams : AgreesOnDatagrams pcpp kernelView := by
  intro pktData d hd
  unfold frameDatagram at hd
  split at hd
  next => cases hd
  next hfrag =>
    obtain ⟨layers, hlayers, rfl⟩ := Option.map_eq_some_iff.mp hd
    obtain ⟨n, b, r, hnet, hparse, hwhole, hprotocol, hudp, hlayer⟩ :=
      parse_datagram (Bool.not_eq_true _ ▸ hfrag) hlayers
    unfold kernelView
    simp only
    rw [hnet]
    simp only
    unfold parseIpv4 at hparse
    split at hparse
    next b' v _ l₀ l₁ i₀ i₁ f₀ f₁ _ p _ _ s₀ s₁ s₂ s₃ d₀ d₁ d₂ d₃ rest =>
      simp only at hparse
      split at hparse
      next =>
        cases hparse
        obtain ⟨a₀, a₁, c₀, c₁, rest', hdrop, hsrc, hdst⟩ := ports_of_parseUdp hudp
        refine ⟨_, dif_pos (by simp), ?_, ?_, ?_, ?_⟩
        · show 256 * 0 + p.toNat = 17
          have hp : p = 17 := hprotocol
          rw [hp]
          rfl
        · have hmask : be16 f₀ f₁ % 16384 = 0 := by simpa using hwhole
          show (256 * (256 * 0 + f₀.toNat) + f₁.toNat &&& (2 ^ 14 - 1) != 0) = false
          rw [Nat.and_two_pow_sub_one_eq_mod]
          have hword : 256 * (256 * 0 + f₀.toNat) + f₁.toNat = be16 f₀ f₁ := by
            unfold be16
            omega
          rw [hword]
          simpa using hmask
        · simp only [List.head!_cons, hdrop, Datagram.ofLayers, hsrc, hdst, toNat_ntohs_le16]
        · show [d₀.toNat, d₁.toNat, d₂.toNat, d₃.toNat] = octets layers.1.dstIPv4Address
          rw [← hlayer, octets_le32]
      next => cases hparse
    next => cases hparse

end SmallPcpp

end Udpcap
