import Udpcap.HostAddress
import Udpcap.IpReassembly

/-!
# The packet handler

`PacketHandlerRawPtr` and `FillCallbackArgsRawPtr`: what happens to a captured
frame between `pcap_next_ex` and the buffers of the caller.

## Main definitions

* `CallbackArgsRawPtr` — the argument struct.
* `packetHandlerRawPtr`, `fillCallbackArgsRawPtr` — the two functions.
* `recognizePacket` — what the handler takes a frame for.

## Main results

* `packetHandlerRawPtr_eq` — the handler recognises the frame and fills in the
  datagram.
* `packetHandlerRawPtr_fragment_of_null` — **without a reassembler the handler
  dereferences a null pointer on every fragment.**
-/

namespace Udpcap

/-- `CallbackArgsRawPtr`.  The buffer stands for the memory behind the pointer, and
`none` for a null pointer. -/
structure CallbackArgsRawPtr where
  destinationBuffer : Bytes
  destinationBufferSize : ℕ
  bytesCopied : ℕ
  sourceAddress : Option HostAddress
  sourcePort : Option UInt16
  success : Bool
  linkType : LinkLayerType
  boundPort : UInt16
  /-- Which of the reassemblers of the socket `ip_reassembly_` points to. -/
  ipReassembly : Option ℕ
  deriving DecidableEq, Repr

/-- The constructor. -/
def CallbackArgsRawPtr.create (destinationBuffer : Bytes) (destinationBufferSize : ℕ)
    (sourceAddress : Option HostAddress) (sourcePort : Option UInt16) (boundPort : UInt16)
    (linkType : LinkLayerType) : CallbackArgsRawPtr :=
  ⟨destinationBuffer, destinationBufferSize, 0, sourceAddress, sourcePort, false, linkType,
    boundPort, none⟩

/-- `memcpy_s` of the first `n` bytes of `payload` to the start of `buffer`. -/
def copyPrefix (buffer payload : Bytes) (n : ℕ) : Bytes := payload.take n ++ buffer.drop n

/-- `FillCallbackArgsRawPtr` -/
def fillCallbackArgsRawPtr (callbackArgs : CallbackArgsRawPtr) (ipLayer : IPv4Layer)
    (udpLayer : UdpLayer) : CallbackArgsRawPtr :=
  let dstPort := ntohs udpLayer.portDst
  if dstPort = callbackArgs.boundPort then
    let bytesToCopy := min callbackArgs.destinationBufferSize udpLayer.layerPayload.length
    { callbackArgs with
      sourceAddress := callbackArgs.sourceAddress.map fun _ =>
        HostAddress.ofInt ipLayer.srcIPv4Address
      sourcePort := callbackArgs.sourcePort.map fun _ => ntohs udpLayer.portSrc
      destinationBuffer := copyPrefix callbackArgs.destinationBuffer udpLayer.layerPayload
        bytesToCopy
      bytesCopied := bytesToCopy
      success := true }
  else callbackArgs

section Handler

variable {R : Type} (pcpp : Pcpp) (api : IPReassembly R)

/-- `PacketHandlerRawPtr`, on the reassemblers of the socket; `none` when the
behaviour is undefined. -/
def packetHandlerRawPtr (reassemblers : List (IpReassembly R)) (callbackArgs : CallbackArgsRawPtr)
    (pktData : Bytes) (env : ProcessEnv) :
    Option (List (IpReassembly R) × CallbackArgsRawPtr) :=
  let rawPacket : RawPacket := ⟨pktData, callbackArgs.linkType⟩
  let packet := pcpp.parse .udp rawPacket
  match packet.ipv4Layer with
  | none => some (reassemblers, callbackArgs)
  | some ipLayer =>
    if ipLayer.isFragment then
      -- `callback_args->ip_reassembly_->processPacket(&rawPacket, status)`
      callbackArgs.ipReassembly.bind fun k => reassemblers[k]?.bind fun r =>
        match r.processRawPacket pcpp api env rawPacket with
        | .error _ => none
        | .ok (r, reassembledPacket, _) =>
          let reassemblers := reassemblers.set k r
          match reassembledPacket with
          | none => some (reassemblers, callbackArgs)
          | some reassembledPacket =>
            let reParsedPacket := pcpp.parse .udp reassembledPacket
            match reParsedPacket.ipv4Layer, reParsedPacket.udpLayer with
            | some ipLayer, some udpLayer =>
              some (reassemblers, fillCallbackArgsRawPtr callbackArgs ipLayer udpLayer)
            | _, _ => some (reassemblers, callbackArgs)
    else
      match packet.udpLayer with
      | some udpLayer =>
        some (reassemblers, fillCallbackArgsRawPtr callbackArgs ipLayer udpLayer)
      | none => some (reassemblers, callbackArgs)

/-! ### Recognition -/

/-- The datagram that the handler takes a frame for, or completes with it. -/
abbrev Recognized := Option (IPv4Layer × UdpLayer)

/-- The layers of a packet that `FillCallbackArgsRawPtr` needs. -/
def datagramOf (packet : Packet) : Recognized :=
  match packet.ipv4Layer, packet.udpLayer with
  | some ipLayer, some udpLayer => some (ipLayer, udpLayer)
  | _, _ => none

/-- The part of the handler that decides what a frame is. -/
def recognizePacket (reassemblers : List (IpReassembly R)) (linkType : LinkLayerType)
    (ipReassembly : Option ℕ) (pktData : Bytes) (env : ProcessEnv) :
    Option (List (IpReassembly R) × Recognized) :=
  let rawPacket : RawPacket := ⟨pktData, linkType⟩
  let packet := pcpp.parse .udp rawPacket
  match packet.ipv4Layer with
  | none => some (reassemblers, none)
  | some ipLayer =>
    if ipLayer.isFragment then
      ipReassembly.bind fun k => reassemblers[k]?.bind fun r =>
        match r.processRawPacket pcpp api env rawPacket with
        | .error _ => none
        | .ok (r, reassembledPacket, _) =>
          some (reassemblers.set k r,
            reassembledPacket.bind fun p => datagramOf (pcpp.parse .udp p))
    else some (reassemblers, datagramOf packet)

/-- Filling in what was recognised. -/
def fillRecognized (callbackArgs : CallbackArgsRawPtr) : Recognized → CallbackArgsRawPtr
  | some (ipLayer, udpLayer) => fillCallbackArgsRawPtr callbackArgs ipLayer udpLayer
  | none => callbackArgs

end Handler

variable {R : Type} {pcpp : Pcpp} {api : IPReassembly R}

theorem datagramOf_of_ipv4Layer {packet : Packet} {ipLayer : IPv4Layer}
    (h : packet.ipv4Layer = some ipLayer) :
    datagramOf packet = packet.udpLayer.map fun udpLayer => (ipLayer, udpLayer) := by
  unfold datagramOf
  rw [h]
  cases packet.udpLayer <;> rfl

/-- **The handler recognises the frame and fills in the datagram**, if it is one. -/
theorem packetHandlerRawPtr_eq (reassemblers : List (IpReassembly R))
    (callbackArgs : CallbackArgsRawPtr) (pktData : Bytes) (env : ProcessEnv) :
    packetHandlerRawPtr pcpp api reassemblers callbackArgs pktData env =
      (recognizePacket pcpp api reassemblers callbackArgs.linkType callbackArgs.ipReassembly
        pktData env).map fun o => (o.1, fillRecognized callbackArgs o.2) := by
  unfold packetHandlerRawPtr recognizePacket
  simp only
  cases hip : (pcpp.parse .udp ⟨pktData, callbackArgs.linkType⟩).ipv4Layer with
  | none => rfl
  | some ipLayer =>
    simp only
    split
    · cases callbackArgs.ipReassembly with
      | none => rfl
      | some k =>
        simp only [Option.bind_some]
        cases reassemblers[k]? with
        | none => rfl
        | some r =>
          simp only [Option.bind_some]
          cases r.processRawPacket pcpp api env ⟨pktData, callbackArgs.linkType⟩ with
          | error u => rfl
          | ok o =>
            obtain ⟨r', reassembledPacket, status⟩ := o
            cases reassembledPacket with
            | none => rfl
            | some p =>
              simp only [Option.bind_some, Option.map_some, datagramOf]
              split <;> rfl
    · rw [datagramOf_of_ipv4Layer hip]
      cases (pcpp.parse .udp ⟨pktData, callbackArgs.linkType⟩).udpLayer <;> rfl

/-- A packet that is not a fragment is taken for what it is. -/
theorem recognizePacket_of_not_fragment {linkType : LinkLayerType} {pktData : Bytes}
    (h : (pcpp.parse .udp ⟨pktData, linkType⟩).isFragment = false)
    (reassemblers : List (IpReassembly R)) (ipReassembly : Option ℕ) (env : ProcessEnv) :
    recognizePacket pcpp api reassemblers linkType ipReassembly pktData env =
      some (reassemblers, datagramOf (pcpp.parse .udp ⟨pktData, linkType⟩)) := by
  unfold recognizePacket
  simp only
  generalize pcpp.parse .udp ⟨pktData, linkType⟩ = packet at h ⊢
  unfold Packet.isFragment at h
  unfold datagramOf
  cases hip : packet.ipv4Layer with
  | none => rfl
  | some ipLayer =>
    rw [hip] at h
    have hnot : ipLayer.isFragment = false := h
    simp only [hnot]
    rfl

/-- A fragment is handed to the reassembler, and its answer is parsed again. -/
theorem recognizePacket_of_fragment {linkType : LinkLayerType} {pktData : Bytes}
    (h : (pcpp.parse .udp ⟨pktData, linkType⟩).isFragment = true)
    {reassemblers : List (IpReassembly R)} {k : ℕ} {s s' : IpReassembly R}
    (hk : reassemblers[k]? = some s) {env : ProcessEnv} {packet : Option RawPacket}
    {status : ReassemblyStatus}
    (hok : s.processRawPacket pcpp api env ⟨pktData, linkType⟩ = .ok (s', packet, status)) :
    recognizePacket pcpp api reassemblers linkType (some k) pktData env =
      some (reassemblers.set k s', packet.bind fun p => datagramOf (pcpp.parse .udp p)) := by
  obtain ⟨ipLayer, hip, hfrag⟩ := (Option.any_eq_true _ _).mp h
  unfold recognizePacket
  simp only
  rw [hip]
  simp only
  rw [if_pos hfrag, Option.bind_some, hk, Option.bind_some, hok]

/-- Without a reassembler, a fragment leads to undefined behaviour, and any other packet
is taken for what it is. -/
theorem recognizePacket_null (reassemblers : List (IpReassembly R)) (linkType : LinkLayerType)
    (pktData : Bytes) (env : ProcessEnv) :
    recognizePacket pcpp api reassemblers linkType none pktData env =
      if (pcpp.parse .udp ⟨pktData, linkType⟩).isFragment then none
      else some (reassemblers, datagramOf (pcpp.parse .udp ⟨pktData, linkType⟩)) := by
  unfold recognizePacket
  simp only
  generalize pcpp.parse .udp ⟨pktData, linkType⟩ = packet
  unfold Packet.isFragment
  cases hip : packet.ipv4Layer with
  | none =>
    have hnone : datagramOf packet = none := by
      unfold datagramOf
      rw [hip]
    rw [hnone]
    rfl
  | some ipLayer => rfl

/-- **Without a reassembler the behaviour on a fragment is undefined.** -/
theorem packetHandlerRawPtr_fragment_of_null (reassemblers : List (IpReassembly R))
    {callbackArgs : CallbackArgsRawPtr} (hnull : callbackArgs.ipReassembly = none)
    {pktData : Bytes} (env : ProcessEnv)
    (hfrag : (pcpp.parse .udp ⟨pktData, callbackArgs.linkType⟩).isFragment = true) :
    packetHandlerRawPtr pcpp api reassemblers callbackArgs pktData env = none := by
  rw [packetHandlerRawPtr_eq, hnull, recognizePacket_null, if_pos hfrag]
  rfl

/-! ### What is filled in -/

/-- Success means that something was recognised that is addressed to the bound port. -/
theorem success_fillRecognized {callbackArgs : CallbackArgsRawPtr} (d : Recognized)
    (h : callbackArgs.success = false) :
    (fillRecognized callbackArgs d).success = true ↔
      ∃ ip udp, d = some (ip, udp) ∧ ntohs udp.portDst = callbackArgs.boundPort := by
  cases d with
  | none =>
    constructor
    · intro hs
      have hs' : callbackArgs.success = true := hs
      rw [h] at hs'
      cases hs'
    · rintro ⟨ip, udp, hd, -⟩
      cases hd
  | some d =>
    obtain ⟨ip, udp⟩ := d
    unfold fillRecognized fillCallbackArgsRawPtr
    simp only
    split
    next hport => exact ⟨fun _ => ⟨ip, udp, rfl, hport⟩, fun _ => rfl⟩
    next hport =>
      constructor
      · intro hs
        rw [h] at hs
        cases hs
      · rintro ⟨ip', udp', hd, hport'⟩
        cases hd
        exact absurd hport' hport

/-- Without success the handler has not touched its argument. -/
theorem fillRecognized_of_not_success {callbackArgs : CallbackArgsRawPtr} (d : Recognized)
    (h : (fillRecognized callbackArgs d).success = false) :
    fillRecognized callbackArgs d = callbackArgs := by
  cases d with
  | none => rfl
  | some d =>
    obtain ⟨ip, udp⟩ := d
    unfold fillRecognized fillCallbackArgsRawPtr at h ⊢
    simp only at h ⊢
    split at h
    · cases h
    next hport => exact if_neg hport

end Udpcap
