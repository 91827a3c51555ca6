import Udpcap.HandlerArguments
import Udpcap.TimedCall

/-!
# Data that is already there

A datagram that waits in the buffer of a device when `receiveDatagram` is called, behind
any number of other packets.

## Main definitions

* `HandlerSucceeds`, `Deliverable` — the packet handler succeeds on a packet.
* `TimedCall.Returns` — a call that is on its way to return a datagram.
* `TimedCall.HandlesNoFragment` — the packet that is handled is no fragment.
* `TimedCall.Pending` — where the datagram is, and how many rounds it is away.
* `Pc.stepsLeft` — the answers that a round still needs.

## Main results

* `packetHandlerRawPtr_loopback` — what the handler does with a packet, as it is called.
* `TimedCall.Pending.step` — **every answer brings the datagram nearer.**
* `buffered_datagram_returned_iff` — **the call returns a datagram within a bounded number of
  rounds, without looking at the clock, exactly if it handles no fragment.**
-/

namespace Udpcap

open Foundation

variable {R : Type} {pcpp : Pcpp} {api : IPReassembly R}

/-! ### The handler -/

/-- The handler would succeed on a packet. -/
def HandlerSucceeds (handler : Handler R) (socket : UdpcapSocket R) (rx : Receiver)
    (pktData : Bytes) : Prop :=
  ∃ env reassemblers callbackArgs, handler socket.pcapDevicesIpReassembly (rx.callbackArgs socket)
    pktData env = some (reassemblers, callbackArgs) ∧ callbackArgs.success = true

/-- A packet is a datagram for the port, read as a loopback frame. -/
def Deliverable (pcpp : Pcpp) (boundPort : UInt16) (pktData : Bytes) : Prop :=
  (pcpp.parse .udp ⟨pktData, linktypeNull⟩).isFragment = false ∧
    ∃ ip udp, datagramOf (pcpp.parse .udp ⟨pktData, linktypeNull⟩) = some (ip, udp) ∧
      ntohs udp.portDst = boundPort

/-- **What the handler does with a packet**, as `receiveDatagram` calls it: on a fragment
its behaviour is undefined, and otherwise it succeeds on a datagram for the bound port. -/
theorem packetHandlerRawPtr_loopback (pcpp : Pcpp) (api : IPReassembly R)
    (socket : UdpcapSocket R) (rx : Receiver) (pktData : Bytes) (env : ProcessEnv) :
    (packetHandlerRawPtr pcpp api socket.pcapDevicesIpReassembly (rx.callbackArgs socket) pktData
        env = none ↔ (pcpp.parse .udp ⟨pktData, linktypeNull⟩).isFragment = true) ∧
      ∀ reassemblers callbackArgs, packetHandlerRawPtr pcpp api socket.pcapDevicesIpReassembly
          (rx.callbackArgs socket) pktData env = some (reassemblers, callbackArgs) →
        (callbackArgs.success = true ↔ Deliverable pcpp socket.boundPort pktData) := by
  have hcall : packetHandlerRawPtr pcpp api socket.pcapDevicesIpReassembly
      (rx.callbackArgs socket) pktData env =
        (if (pcpp.parse .udp ⟨pktData, linktypeNull⟩).isFragment then none
          else some (socket.pcapDevicesIpReassembly,
            datagramOf (pcpp.parse .udp ⟨pktData, linktypeNull⟩))).map
          fun o => (o.1, fillRecognized (rx.callbackArgs socket) o.2) := by
    rw [packetHandlerRawPtr_eq]
    show (recognizePacket pcpp api socket.pcapDevicesIpReassembly linktypeNull none pktData
      env).map _ = _
    rw [recognizePacket_null]
  rw [hcall]
  unfold Deliverable
  cases (pcpp.parse .udp ⟨pktData, linktypeNull⟩).isFragment with
  | true => exact ⟨⟨fun _ => rfl, fun _ => rfl⟩, nofun⟩
  | false =>
    refine ⟨⟨nofun, nofun⟩, ?_⟩
    rintro reassemblers callbackArgs heq
    cases heq
    rw [success_fillRecognized _ rfl]
    exact ⟨fun h => ⟨rfl, h⟩, fun h => h.2⟩

/-- The handler succeeds on the packets that are datagrams for the bound port, whatever it
was called with before. -/
theorem HandlerSucceeds.deliverable {socket : UdpcapSocket R} {rx : Receiver} {pktData : Bytes}
    (h : HandlerSucceeds (packetHandlerRawPtr pcpp api) socket rx pktData) :
    Deliverable pcpp socket.boundPort pktData := by
  obtain ⟨env, reassemblers, callbackArgs, hcall, hsuccess⟩ := h
  exact ((packetHandlerRawPtr_loopback pcpp api socket rx pktData env).2 _ _ hcall).mp hsuccess

/-! ### The property -/

/-- The answers that a call with `n` devices still needs in this round, or until it has
returned. -/
def Pc.stepsLeft (n : ℕ) : Pc → ℕ
  | .start => 2 * n + 7
  | .lockLists => 2 * n + 6
  | .lockCallback => 2 * n + 5
  | .checks => 2 * n + 4
  | .poll k _ => 2 * (n - k) + 3
  | .handle k _ _ => 2 * (n - k) + 2
  | .unlockCallback => 3
  | .leaveRound _ => 2
  | .leave _ => 1
  | _ => 0

/-- The rounds that are about to begin. -/
def Pc.roundsAhead : Pc → ℕ
  | .start | .lockLists | .lockCallback => 1
  | _ => 0

/-- Pcap reports no error. -/
def TimedLabel.noPcapError : TimedLabel → Bool
  | .reply (.next errorcode _ _) => errorcode = 0 ∨ errorcode = 1
  | _ => true

namespace TimedCall

variable {s t : TimedCall R} {l : TimedLabel}

/-- A call with `n` devices that is on its way to return a datagram behind `d` other packets:
it has not looked at the clock, has begun no more rounds and got no more answers than the
datagram is away, and goes on until it returns without an error. -/
structure Returns (handler : Handler R) (n d : ℕ) (s : TimedCall R) : Prop where
  notCrashed : s.receiver.pc ≠ .crashed
  notTimed : s.receiver.pc ≠ .timeCheck ∧ ∀ ms, s.receiver.pc ≠ .wait ms
  errorCode : ∀ m, s.receiver.pc = .returned m → s.receiver.error.errorCode = .ok
  rounds : s.rounds.length ≤ d + 1
  answers : s.answers ≤ (2 * n + 3) * d + 2 * n + 7
  goesOn : (∀ m, s.receiver.pc ≠ .returned m) → ∃ reply t,
    (TimedLabel.reply reply).noPcapError = true ∧ timedStep handler s (.reply reply) = some t

/-- The packet that a step hands to the handler. -/
def handledPacket (s : TimedCall R) (l : TimedLabel) : Option Bytes :=
  match s.receiver.pc, l with
  | .handle _ _ pktData, .reply (.handled _) => some pktData
  | _, _ => none

/-- The packet that a step hands to the handler is no fragment, read as a loopback frame. -/
def HandlesNoFragment (pcpp : Pcpp) (s : TimedCall R) (l : TimedLabel) : Prop :=
  ∀ pktData ∈ s.handledPacket l, (pcpp.parse .udp ⟨pktData, linktypeNull⟩).isFragment = false

instance (pcpp : Pcpp) (s : TimedCall R) (l : TimedLabel) :
    Decidable (s.HandlesNoFragment pcpp l) :=
  inferInstanceAs (Decidable (∀ pktData ∈ s.handledPacket l, _ = false))

theorem handledPacket_eq {k : ℕ} {pcapDev : PcapDev} {pktData : Bytes}
    (hpc : s.receiver.pc = .handle k pcapDev pktData) (env : ProcessEnv) :
    s.handledPacket (.reply (.handled env)) = some pktData := by
  unfold handledPacket
  rw [hpc]

theorem handledPacket_eq_some {pktData : Bytes} (h : s.handledPacket l = some pktData) :
    ∃ k pcapDev env, s.receiver.pc = .handle k pcapDev pktData ∧ l = .reply (.handled env) := by
  unfold handledPacket at h
  split at h
  next k pcapDev pktData' env hpc =>
    cases h
    exact ⟨k, pcapDev, env, hpc, rfl⟩
  next => cases h

end TimedCall

/-! ### Where the datagram is -/

/-- The device at position `i` is still to be polled in this round. -/
def Pc.willPoll (i : ℕ) : Pc → Bool
  | .start | .lockLists | .lockCallback | .checks => true
  | .poll k _ => k ≤ i
  | .handle k _ _ => k < i
  | _ => false

/-- The device at position `i` has been polled in this round. -/
def Pc.hasPolled (i : ℕ) : Pc → Bool
  | .poll k _ => i < k
  | .handle k _ _ => i ≤ k
  | .unlockCallback => true
  | _ => false

namespace Receiver

variable {s : UdpcapSocket R}

theorem stepsLeft_toDevice (rx : Receiver) (s : UdpcapSocket R) (n k : ℕ) :
    (rx.toDevice s k).pc.stepsLeft n ≤ 2 * (n - k) + 3 ∧
      (rx.toDevice s k).pc.roundsAhead = 0 := by
  rcases rx.pc_toDevice s k with ⟨pcapDev, -, hpc⟩ | ⟨-, hpc⟩
  · rw [hpc]
    exact ⟨le_rfl, rfl⟩
  · rw [hpc]
    exact ⟨Nat.le_add_left 3 _, rfl⟩

/-- The loop comes to the devices that are still ahead. -/
theorem willPoll_toDevice (rx : Receiver) {i k : ℕ} {dev : PcapDev}
    (hdev : s.pcapDevices[i]? = some dev) (hk : k ≤ i) :
    (rx.toDevice s k).pc.willPoll i = true := by
  rcases rx.pc_toDevice s k with ⟨pcapDev, -, hpc⟩ | ⟨hend, -⟩
  · rw [hpc]
    exact decide_eq_true hk
  · rw [List.getElem?_eq_none_iff] at hend
    obtain ⟨hlt, -⟩ := List.getElem?_eq_some_iff.mp hdev
    omega

theorem hasPolled_toDevice (rx : Receiver) (s : UdpcapSocket R) {i k : ℕ} (hk : i < k) :
    (rx.toDevice s k).pc.hasPolled i = true := by
  rcases rx.pc_toDevice s k with ⟨pcapDev, -, hpc⟩ | ⟨-, hpc⟩
  · rw [hpc]
    exact decide_eq_true hk
  · rw [hpc]
    rfl

theorem fail_ne_toDevice (rx : Receiver) (s : UdpcapSocket R) (k : ℕ) (error : Error) :
    rx.toDevice s k ≠ rx.fail error := by
  intro heq
  have hresult := rx.result_toDevice s k
  rw [heq] at hresult
  cases hresult

end Receiver

section Steps

variable {handler : Handler R} {s s' : UdpcapSocket R} {rx : Receiver} {error : Error}

/-- A round is not refused on an open socket. -/
theorem not_refused (hclosed : s.pcapDevicesClosed = false) (hbound : s.boundState = true)
    (hpc : rx.pc = .checks)
    (h : receiveStep handler s rx .tau = some (s', rx.fail error)) : False := by
  have hchecks : rx.afterChecks s = rx.toDevice s 0 := by
    unfold Receiver.afterChecks
    rw [hclosed, hbound]
    rfl
  unfold receiveStep at h
  rw [hpc] at h
  have heq : rx.afterChecks s = rx.fail error := (Prod.mk.inj (Option.some.inj h)).2
  exact rx.fail_ne_toDevice s 0 error (hchecks.symm.trans heq)

/-- A poll that is answered without an error does not fail. -/
theorem not_failed {k : ℕ} {pcapDev : PcapDev} (hpc : rx.pc = .poll k pcapDev) {errorcode : Int}
    {pktData : Bytes} {geterr : String}
    (hpcap : (TimedLabel.reply (.next errorcode pktData geterr)).noPcapError = true)
    (hone : errorcode ≠ 1)
    (h : receiveStep handler s rx (.next errorcode pktData geterr) = some (s', rx.fail error)) :
    False := by
  rcases of_decide_eq_true hpcap with rfl | rfl
  · unfold receiveStep at h
    rw [hpc] at h
    have heq : rx.toDevice s (k + 1) = rx.fail error := (Prod.mk.inj (Option.some.inj h)).2
    exact rx.fail_ne_toDevice s (k + 1) error heq
  · exact hone rfl

end Steps

namespace TimedCall

variable {s t : TimedCall R} {l : TimedLabel} {reply : Reply} {socket : UdpcapSocket R}
  {rx : Receiver} {dev : PcapDev} {d : ℕ}

/-- A datagram for the bound port is in the buffer of a device, behind `d` other packets. -/
def Buffered (pcpp : Pcpp) (s : TimedCall R) (dev : PcapDev) (d : ℕ) : Prop :=
  ∃ packet, (s.queues dev.pcapHandle)[d]? = some packet ∧
    Deliverable pcpp s.socket.boundPort packet.2

/-- A datagram is `r` rounds away: its device is still ahead in this round, or behind and to
be polled in the next one, or the datagram is in the hands of the handler, or it has been
delivered. -/
inductive Pending (pcpp : Pcpp) (s : TimedCall R) : ℕ → Prop
  | ahead (i d : ℕ) (dev : PcapDev) (hdev : s.socket.pcapDevices[i]? = some dev)
    (hbuffered : s.Buffered pcpp dev d) (hpc : s.receiver.pc.willPoll i = true) : Pending pcpp s d
  | behind (i d : ℕ) (dev : PcapDev) (hdev : s.socket.pcapDevices[i]? = some dev)
    (hbuffered : s.Buffered pcpp dev d) (hpc : s.receiver.pc.hasPolled i = true)
    (hdata : s.receiver.receivedAnyData = true) : Pending pcpp s (d + 1)
  | inHand (k : ℕ) (pcapDev : PcapDev) (pktData : Bytes)
    (hpc : s.receiver.pc = .handle k pcapDev pktData)
    (hdeliverable : Deliverable pcpp s.socket.boundPort pktData) : Pending pcpp s 0
  | delivered (m : ℕ) (hpc : s.receiver.pc.result = some m)
    (hcode : s.receiver.error.errorCode = .ok) : Pending pcpp s 0

/-- A step that takes no packet leaves the datagram where it is. -/
theorem Buffered.of_takes_none (h : s.Buffered pcpp dev d)
    (hport : socket.boundPort = s.socket.boundPort) (htakes : s.receiver.pc.takes reply = none) :
    (s.proceed reply socket rx).Buffered pcpp dev d := by
  obtain ⟨packet, hpacket, hdeliverable⟩ := h
  refine ⟨packet, ?_, ?_⟩
  · rw [queues_proceed_none htakes]
    exact hpacket
  · show Deliverable pcpp socket.boundPort packet.2
    rw [hport]
    exact hdeliverable

/-- **Taking a packet brings the datagram nearer**, if it waits at that device. -/
theorem Buffered.of_takes (h : s.Buffered pcpp dev d)
    (hport : socket.boundPort = s.socket.boundPort) {k : ℕ} {pcapDev : PcapDev}
    (hpc : s.receiver.pc = .poll k pcapDev) {pktData : Bytes} {geterr : String}
    (hreply : reply = .next 1 pktData geterr) (hso : s.answersSo reply = true) :
    (d = 0 ∧ Deliverable pcpp s.socket.boundPort pktData) ∨
      (∃ d', d = d' + 1 ∧ (s.proceed reply socket rx).Buffered pcpp dev d') ∨
      (dev.pcapHandle ≠ pcapDev.pcapHandle ∧ (s.proceed reply socket rx).Buffered pcpp dev d) := by
  obtain ⟨packet, hpacket, hdeliverable⟩ := h
  subst hreply
  obtain ⟨head, later, hqueue, hhead⟩ := head_of_answersSo hpc hso
  have htakes : s.receiver.pc.takes (.next 1 pktData geterr) =
      some (pcapDev.pcapHandle, pktData) := by
    rw [hpc]
    rfl
  have hqueues : (s.proceed (.next 1 pktData geterr) socket rx).queues =
      Function.update s.queues pcapDev.pcapHandle later := by
    rw [queues_proceed_some htakes, hqueue, List.tail_cons]
  have hdeliverable' : Deliverable pcpp socket.boundPort packet.2 := by
    rw [hport]
    exact hdeliverable
  by_cases hdev : dev.pcapHandle = pcapDev.pcapHandle
  · rw [hdev, hqueue] at hpacket
    -- the packet taken is the datagram, or one of those ahead of it
    cases d with
    | zero =>
      cases hpacket
      rw [← hhead]
      exact Or.inl ⟨rfl, hdeliverable⟩
    | succ d =>
      refine Or.inr (Or.inl ⟨d, rfl, packet, ?_, hdeliverable'⟩)
      rw [hqueues, hdev, Function.update_self]
      exact hpacket
  · refine Or.inr (Or.inr ⟨hdev, packet, ?_, hdeliverable'⟩)
    rw [hqueues, Function.update_of_ne hdev]
    exact hpacket

/-! ### Steps -/

/-- The call works on a valid, bound and open socket with `n` devices. -/
structure Open (n : ℕ) (s : TimedCall R) : Prop where
  isValid : s.socket.isValid = true
  isBound : s.socket.boundState = true
  isOpen : s.socket.pcapDevicesClosed = false
  length_eq : s.socket.pcapDevices.length = n
  atDevice : s.receiver.AtDevice s.socket

variable {n r : ℕ}

theorem Open.step {handler : Handler R} (hs : s.Open n) (h : timedStep handler s l = some t) :
    t.Open n := by
  rcases timedStep_cases h with ⟨m, -, -, rfl⟩ | ⟨h', pktData, -, rfl⟩ |
    ⟨reply, socket, rx, -, -, hstep, rfl⟩
  · exact ⟨hs.isValid, hs.isBound, hs.isOpen, hs.length_eq, hs.atDevice⟩
  · exact ⟨hs.isValid, hs.isBound, hs.isOpen, hs.length_eq, hs.atDevice⟩
  · obtain ⟨-, hat⟩ := receiveStep_atDevice hstep hs.atDevice
    obtain ⟨reassemblers, rfl⟩ := receiveStep_socket hstep
    exact ⟨hs.isValid, hs.isBound, hs.isOpen, hs.length_eq, hat⟩

/-- The device that is polled or whose packet is handled stands at its position. -/
theorem Open.lt_of_device (hs : s.Open n) {k : ℕ} {pcapDev : PcapDev}
    (hat : Receiver.DeviceAt s.socket k pcapDev) : k < n := by
  rw [← hs.length_eq]
  exact (List.getElem?_eq_some_iff.mp hat.getElem?).1

/-- The handler does not fail on what is no fragment. -/
theorem HandlesNoFragment.handler_ne_none {env : ProcessEnv}
    (hfrag : s.HandlesNoFragment pcpp (.reply (.handled env))) {k : ℕ} {pcapDev : PcapDev}
    {pktData : Bytes} (hpc : s.receiver.pc = .handle k pcapDev pktData) :
    packetHandlerRawPtr pcpp api s.socket.pcapDevicesIpReassembly
      (s.receiver.callbackArgs s.socket) pktData env ≠ none := by
  intro hhandler
  have hnot := hfrag pktData (handledPacket_eq hpc env)
  rw [(packetHandlerRawPtr_loopback pcpp api s.socket s.receiver pktData env).1.mp hhandler]
    at hnot
  cases hnot

/-- An answer has brought the datagram nearer: the rounds that have begun and those that are
needed are no more than before, and the answers that are needed are fewer. -/
def Nearer (pcpp : Pcpp) (n r : ℕ) (s t : TimedCall R) : Prop :=
  ∃ r', t.Pending pcpp r' ∧
    t.rounds.length + t.receiver.pc.roundsAhead + r' ≤
      s.rounds.length + s.receiver.pc.roundsAhead + r ∧
    t.receiver.pc.stepsLeft n + (2 * n + 3) * r' < s.receiver.pc.stepsLeft n + (2 * n + 3) * r

/-- A step within a round. -/
theorem Nearer.of_le {r' : ℕ} (hpending : (s.proceed reply socket rx).Pending pcpp r')
    (hr : r' ≤ r) (hlock : s.receiver.pc ≠ .lockCallback)
    (hahead : rx.pc.roundsAhead ≤ s.receiver.pc.roundsAhead)
    (hsteps : rx.pc.stepsLeft n < s.receiver.pc.stepsLeft n) :
    Nearer pcpp n r s (s.proceed reply socket rx) := by
  refine ⟨r', hpending, ?_, ?_⟩
  · rw [rounds_proceed _ _ _ hlock]
    show s.rounds.length + rx.pc.roundsAhead + r' ≤ _
    omega
  · have hmul : (2 * n + 3) * r' ≤ (2 * n + 3) * r := Nat.mul_le_mul_left _ hr
    show rx.pc.stepsLeft n + _ < _
    omega

/-- Taking a packet. -/
theorem Nearer.of_take {r' k : ℕ} {pcapDev : PcapDev} {pktData : Bytes}
    (hpoll : s.receiver.pc = .poll k pcapDev) (hrx : rx.pc = .handle k pcapDev pktData)
    (hpending : (s.proceed reply socket rx).Pending pcpp r') (hr : r' ≤ r) :
    Nearer pcpp n r s (s.proceed reply socket rx) := by
  refine .of_le hpending hr (by rw [hpoll]; exact nofun) ?_ ?_
  · rw [hrx]
    exact Nat.zero_le _
  · rw [hrx, hpoll]
    exact Nat.lt_succ_self _

/-- Moving on to a device. -/
theorem Nearer.of_toDevice {k : ℕ} (hrx : rx.pc = (s.receiver.toDevice s.socket k).pc)
    (hlock : s.receiver.pc ≠ .lockCallback) (hfar : 2 * (n - k) + 3 < s.receiver.pc.stepsLeft n)
    (hpending : (s.proceed reply socket rx).Pending pcpp r) :
    Nearer pcpp n r s (s.proceed reply socket rx) := by
  obtain ⟨hleft, hrounds⟩ := s.receiver.stepsLeft_toDevice s.socket n k
  refine .of_le hpending le_rfl hlock ?_ ?_
  · rw [hrx, hrounds]
    exact Nat.zero_le _
  · rw [hrx]
    exact lt_of_le_of_lt hleft hfar

/-- A datagram that the handler has filled in is delivered. -/
theorem nearer_success {k : ℕ} {pcapDev : PcapDev} {pktData : Bytes}
    (hpc : s.receiver.pc = .handle k pcapDev pktData) (hlt : k < n)
    {callbackArgs : CallbackArgsRawPtr} (hsuccess : callbackArgs.success = true) :
    Nearer pcpp n r s
      (s.proceed reply socket (s.receiver.afterHandler s.socket k callbackArgs)) := by
  rcases s.receiver.pc_afterHandler s.socket k callbackArgs with ⟨-, hleave, hcode⟩ | ⟨hfail, -⟩
  · have hresult : (s.receiver.afterHandler s.socket k callbackArgs).pc.result =
        some callbackArgs.bytesCopied := by
      rw [hleave]
      rfl
    have hok : (s.receiver.afterHandler s.socket k callbackArgs).error.errorCode = .ok := by
      rw [hcode]
      rfl
    refine .of_le (.delivered callbackArgs.bytesCopied hresult hok) (Nat.zero_le _)
      (by rw [hpc]; exact nofun) ?_ ?_
    · rw [hleave]
      exact Nat.zero_le _
    · rw [hleave, hpc]
      show 2 < 2 * (n - k) + 2
      omega
  · rw [hsuccess] at hfail
    cases hfail

theorem socket_of_receiveStep {handler : Handler R}
    (hstep : receiveStep handler s.socket s.receiver reply = some (socket, rx)) :
    socket.boundPort = s.socket.boundPort ∧ socket.pcapDevices = s.socket.pcapDevices := by
  obtain ⟨reassemblers, rfl⟩ := receiveStep_socket hstep
  exact ⟨rfl, rfl⟩

section Answers

variable {i : ℕ} (hopen : s.Open n) (hpcap : (TimedLabel.reply reply).noPcapError = true)
  (hfrag : s.HandlesNoFragment pcpp (.reply reply)) (hso : s.answersSo reply = true)
  (hstep : receiveStep (packetHandlerRawPtr pcpp api) s.socket s.receiver reply =
    some (socket, rx))
include hopen hpcap hfrag hso hstep

/-- An answer while the device of the datagram is ahead. -/
theorem nearer_ahead (hdev : s.socket.pcapDevices[i]? = some dev)
    (hbuffered : s.Buffered pcpp dev d) (hwill : s.receiver.pc.willPoll i = true) :
    Nearer pcpp n d s (s.proceed reply socket rx) := by
  obtain ⟨hport, hdevices⟩ := socket_of_receiveStep hstep
  have hdev' : socket.pcapDevices[i]? = some dev := hdevices ▸ hdev
  have hahead : s.receiver.pc.takes reply = none → rx.pc.willPoll i = true →
      (s.proceed reply socket rx).Pending pcpp d := fun htakes hpc =>
    .ahead i d dev hdev' (hbuffered.of_takes_none hport htakes) hpc
  have hat := hopen.atDevice
  cases receiveStep_case hstep with
  | invalid reply waitUntil hpc hvalid =>
    rw [hopen.isValid] at hvalid
    cases hvalid
  | valid reply waitUntil hpc =>
    refine .of_le (hahead (by rw [hpc]; rfl) rfl) le_rfl (by rw [hpc]; exact nofun) ?_ ?_
    · rw [hpc]
      exact le_rfl
    · rw [hpc]
      exact Nat.lt_succ_self _
  | lockLists hpc =>
    refine .of_le (hahead (by rw [hpc]; rfl) rfl) le_rfl (by rw [hpc]; exact nofun) ?_ ?_
    · rw [hpc]
      exact le_rfl
    · rw [hpc]
      exact Nat.lt_succ_self _
  | lockCallback hpc =>
    -- the round that was ahead is counted among those that have begun
    refine ⟨d, hahead (by rw [hpc]; rfl) rfl, ?_, ?_⟩
    · have hrounds : (s.proceed .tau s.socket { s.receiver with
          receivedAnyData := false
          pc := .checks }).rounds = s.now :: s.rounds := if_pos hpc
      rw [hrounds, hpc]
      exact le_rfl
    · rw [hpc]
      exact Nat.add_lt_add_right (Nat.lt_succ_self _) _
  | refuse error hpc => exact (not_refused hopen.isOpen hopen.isBound hpc hstep).elim
  | first hpc =>
    refine .of_toDevice rfl (by rw [hpc]; exact nofun) ?_
      (hahead (by rw [hpc]; rfl) (s.receiver.willPoll_toDevice hdev (Nat.zero_le i)))
    rw [hpc]
    exact Nat.lt_succ_self _
  | take k pcapDev pktData geterr hpc =>
    have hdevice := hat.at_poll hpc
    rw [hpc] at hwill
    have hle : k ≤ i := of_decide_eq_true hwill
    rcases hbuffered.of_takes hport hpc rfl hso with ⟨rfl, hdeliverable⟩ | ⟨d', rfl, hleft⟩ |
      ⟨hne, hleft⟩
    · exact .of_take hpc rfl (.inHand k pcapDev pktData rfl hdeliverable) le_rfl
    · -- the device shares its buffer with the one at position `i`, or is that one
      by_cases hk : k < i
      · exact .of_take hpc rfl (.ahead i d' dev hdev' hleft (decide_eq_true hk)) (Nat.le_succ d')
      · exact .of_take hpc rfl
          (.behind i d' dev hdev' hleft (decide_eq_true (not_lt.mp hk)) rfl) le_rfl
    · have hk : k ≠ i := by
        rintro rfl
        have heq := hdevice.getElem?
        rw [hdev] at heq
        cases heq
        exact hne rfl
      exact .of_take hpc rfl
        (.ahead i d dev hdev' hleft (decide_eq_true (lt_of_le_of_ne hle hk))) le_rfl
  | skip k pcapDev pktData geterr hpc =>
    -- a buffer without a packet is not the one that holds the datagram
    have hempty := empty_of_answersSo hpc hso
    have hdevice := hat.at_poll hpc
    have hlt := hopen.lt_of_device hdevice
    rw [hpc] at hwill
    have hle : k ≤ i := of_decide_eq_true hwill
    have hk : k ≠ i := by
      rintro rfl
      have heq := hdevice.getElem?
      rw [hdev] at heq
      cases heq
      obtain ⟨packet, hpacket, -⟩ := hbuffered
      rw [hempty] at hpacket
      cases hpacket
    refine .of_toDevice rfl (by rw [hpc]; exact nofun) ?_ (hahead (by rw [hpc]; rfl)
      (s.receiver.willPoll_toDevice hdev (Nat.succ_le_of_lt (lt_of_le_of_ne hle hk))))
    rw [hpc]
    show _ < 2 * (n - k) + 3
    omega
  | pollError k pcapDev errorcode pktData geterr error hpc hone =>
    exact (not_failed hpc hpcap hone hstep).elim
  | crash k pcapDev pktData env hpc hhandler =>
    exact (hfrag.handler_ne_none hpc hhandler).elim
  | handle k pcapDev pktData env reassemblers callbackArgs hpc hhandler =>
    have hlt := hopen.lt_of_device (hat.at_handle hpc)
    rw [hpc] at hwill
    have hk : k < i := of_decide_eq_true hwill
    rcases s.receiver.pc_afterHandler s.socket k callbackArgs with ⟨hsuccess, -⟩ | ⟨-, hnext, -⟩
    · exact nearer_success hpc hlt hsuccess
    · refine .of_toDevice hnext (by rw [hpc]; exact nofun) ?_ (hahead (by rw [hpc]; rfl) ?_)
      · rw [hpc]
        show _ < 2 * (n - k) + 2
        omega
      · rw [hnext]
        exact s.receiver.willPoll_toDevice hdev hk
  | again hpc | noData hpc | timeout _ hpc | wait _ hpc | wake _ _ _ _ hpc | waitTimeout _ _ hpc
  | leaveRound _ hpc | leave _ hpc =>
    rw [hpc] at hwill
    cases hwill

/-- An answer while the device of the datagram is behind. -/
theorem nearer_behind (hdev : s.socket.pcapDevices[i]? = some dev)
    (hbuffered : s.Buffered pcpp dev d) (hpolled : s.receiver.pc.hasPolled i = true)
    (hdata : s.receiver.receivedAnyData = true) :
    Nearer pcpp n (d + 1) s (s.proceed reply socket rx) := by
  obtain ⟨hport, hdevices⟩ := socket_of_receiveStep hstep
  have hdev' : socket.pcapDevices[i]? = some dev := hdevices ▸ hdev
  have hleft : s.receiver.pc.takes reply = none →
      (s.proceed reply socket rx).Buffered pcpp dev d := fun htakes =>
    hbuffered.of_takes_none hport htakes
  have hat := hopen.atDevice
  cases receiveStep_case hstep with
  | take k pcapDev pktData geterr hpc =>
    rw [hpc] at hpolled
    have hk : i ≤ k := le_of_lt (of_decide_eq_true hpolled)
    rcases hbuffered.of_takes hport hpc rfl hso with ⟨rfl, hdeliverable⟩ | ⟨d', rfl, hnear⟩ |
      ⟨-, hnear⟩
    · exact .of_take hpc rfl (.inHand k pcapDev pktData rfl hdeliverable) (Nat.zero_le _)
    · exact .of_take hpc rfl (.behind i d' dev hdev' hnear (decide_eq_true hk) rfl) (Nat.le_succ _)
    · exact .of_take hpc rfl (.behind i d dev hdev' hnear (decide_eq_true hk) rfl) le_rfl
  | skip k pcapDev pktData geterr hpc =>
    have hlt := hopen.lt_of_device (hat.at_poll hpc)
    rw [hpc] at hpolled
    have hk : i < k := of_decide_eq_true hpolled
    refine .of_toDevice rfl (by rw [hpc]; exact nofun) ?_ (.behind i d dev hdev'
      (hleft (by rw [hpc]; rfl)) (s.receiver.hasPolled_toDevice s.socket (Nat.lt_succ_of_lt hk))
      hdata)
    rw [hpc]
    show _ < 2 * (n - k) + 3
    omega
  | pollError k pcapDev errorcode pktData geterr error hpc hone =>
    exact (not_failed hpc hpcap hone hstep).elim
  | crash k pcapDev pktData env hpc hhandler =>
    exact (hfrag.handler_ne_none hpc hhandler).elim
  | handle k pcapDev pktData env reassemblers callbackArgs hpc hhandler =>
    have hlt := hopen.lt_of_device (hat.at_handle hpc)
    rw [hpc] at hpolled
    have hk : i ≤ k := of_decide_eq_true hpolled
    rcases s.receiver.pc_afterHandler s.socket k callbackArgs with ⟨hsuccess, -⟩ |
      ⟨-, hnext, hkept⟩
    · exact nearer_success hpc hlt hsuccess
    · refine .of_toDevice hnext (by rw [hpc]; exact nofun) ?_
        (.behind i d dev hdev' (hleft (by rw [hpc]; rfl)) ?_ ?_)
      · rw [hpc]
        show _ < 2 * (n - k) + 2
        omega
      · show (s.receiver.afterHandler s.socket k callbackArgs).pc.hasPolled i = true
        rw [hnext]
        exact s.receiver.hasPolled_toDevice s.socket (Nat.lt_succ_of_le hk)
      · show (s.receiver.afterHandler s.socket k callbackArgs).receivedAnyData = true
        rw [hkept]
        exact hdata
  | again hpc =>
    -- the next round polls the device again
    refine ⟨d, .ahead i d dev hdev' (hleft (by rw [hpc]; rfl)) rfl, ?_, ?_⟩
    · rw [rounds_proceed _ _ _ (by rw [hpc]; exact nofun), hpc]
      show s.rounds.length + 1 + d ≤ s.rounds.length + 0 + (d + 1)
      omega
    · rw [hpc]
      show 2 * n + 5 + (2 * n + 3) * d < 3 + (2 * n + 3) * (d + 1)
      rw [Nat.mul_succ]
      omega
  | noData hpc hnone =>
    rw [hdata] at hnone
    cases hnone
  | invalid _ _ hpc | valid _ _ hpc | lockLists hpc | lockCallback hpc | refuse _ hpc | first hpc
  | timeout _ hpc | wait _ hpc | wake _ _ _ _ hpc | waitTimeout _ _ hpc | leaveRound _ hpc
  | leave _ hpc =>
    rw [hpc] at hpolled
    cases hpolled

omit hpcap hso in
/-- The handler succeeds on the datagram. -/
theorem nearer_inHand {k : ℕ} {pcapDev : PcapDev} {pktData : Bytes}
    (hpc : s.receiver.pc = .handle k pcapDev pktData)
    (hdeliverable : Deliverable pcpp s.socket.boundPort pktData) :
    Nearer pcpp n 0 s (s.proceed reply socket rx) := by
  cases receiveStep_case hstep with
  | crash k' pcapDev' pktData' env hpc' hhandler =>
    exact (hfrag.handler_ne_none hpc' hhandler).elim
  | handle k' pcapDev' pktData' env reassemblers callbackArgs hpc' hhandler =>
    have heq := hpc.symm.trans hpc'
    cases heq
    have hsuccess := ((packetHandlerRawPtr_loopback pcpp api s.socket s.receiver pktData env).2
      _ _ hhandler).mpr hdeliverable
    exact nearer_success hpc (hopen.lt_of_device (hopen.atDevice.at_handle hpc)) hsuccess
  | invalid _ _ hpc' | valid _ _ hpc' | lockLists hpc' | lockCallback hpc' | refuse _ hpc'
  | first hpc' | take _ _ _ _ hpc' | skip _ _ _ _ hpc' | pollError _ _ _ _ _ _ hpc' | again hpc'
  | noData hpc' | timeout _ hpc' | wait _ hpc' | wake _ _ _ _ hpc' | waitTimeout _ _ hpc'
  | leaveRound _ hpc' | leave _ hpc' =>
    rw [hpc] at hpc'
    cases hpc'

omit hopen hpcap hfrag hso in
/-- A call that has its datagram returns. -/
theorem nearer_delivered {m : ℕ} (hresult : s.receiver.pc.result = some m)
    (hcode : s.receiver.error.errorCode = .ok) :
    Nearer pcpp n 0 s (s.proceed reply socket rx) := by
  cases receiveStep_case hstep with
  | leaveRound m' hpc | leave m' hpc =>
    refine .of_le (.delivered m' rfl hcode) le_rfl (by rw [hpc]; exact nofun) (Nat.zero_le _) ?_
    rw [hpc]
    exact Nat.lt_succ_self _
  | invalid _ _ hpc | valid _ _ hpc | lockLists hpc | lockCallback hpc | refuse _ hpc
  | first hpc | take _ _ _ _ hpc | skip _ _ _ _ hpc | pollError _ _ _ _ _ _ hpc
  | crash _ _ _ _ hpc | handle _ _ _ _ _ _ hpc | again hpc
  | noData hpc | timeout _ hpc | wait _ hpc | wake _ _ _ _ hpc | waitTimeout _ _ hpc =>
    rw [hpc] at hresult
    cases hresult

/-- **Every answer brings the datagram nearer.** -/
theorem Pending.step (hpending : s.Pending pcpp r) :
    Nearer pcpp n r s (s.proceed reply socket rx) := by
  cases hpending with
  | ahead i d dev hdev hbuffered hwill =>
    exact nearer_ahead hopen hpcap hfrag hso hstep hdev hbuffered hwill
  | behind i d dev hdev hbuffered hpolled hdata =>
    exact nearer_behind hopen hpcap hfrag hso hstep hdev hbuffered hpolled hdata
  | inHand k pcapDev pktData hpc hdeliverable =>
    exact nearer_inHand hopen hfrag hstep hpc hdeliverable
  | delivered m hresult hcode => exact nearer_delivered hstep hresult hcode

end Answers

/-! ### Runs -/

theorem Buffered.arrive {d : ℕ} (h : s.Buffered pcpp dev d) (h' : Handle) (packet : Int × Bytes) :
    TimedCall.Buffered pcpp
      { s with queues := Function.update s.queues h' (s.queues h' ++ [packet]) } dev d := by
  obtain ⟨p, hp, hdeliverable⟩ := h
  refine ⟨p, ?_, hdeliverable⟩
  show (Function.update s.queues h' _ dev.pcapHandle)[d]? = some p
  by_cases hdev : dev.pcapHandle = h'
  · rw [hdev] at hp ⊢
    obtain ⟨hlt, -⟩ := List.getElem?_eq_some_iff.mp hp
    rw [Function.update_self, List.getElem?_append_left hlt]
    exact hp
  · rw [Function.update_of_ne hdev]
    exact hp

/-- What happens around the call leaves the datagram where it is. -/
theorem Pending.congr (h : s.Pending pcpp r) (hsocket : t.socket = s.socket)
    (hreceiver : t.receiver = s.receiver)
    (hbuffered : ∀ (dev : PcapDev) (d : ℕ), s.Buffered pcpp dev d → t.Buffered pcpp dev d) :
    t.Pending pcpp r := by
  cases h with
  | ahead i d dev hdev hleft hpc =>
    exact .ahead i _ dev (hsocket ▸ hdev) (hbuffered dev _ hleft) (hreceiver ▸ hpc)
  | behind i d dev hdev hleft hpc hdata =>
    exact .behind i d dev (hsocket ▸ hdev) (hbuffered dev d hleft) (hreceiver ▸ hpc)
      (hreceiver ▸ hdata)
  | inHand k pcapDev pktData hpc hdeliverable =>
    exact .inHand k pcapDev pktData (hreceiver ▸ hpc) (hsocket ▸ hdeliverable)
  | delivered m hpc hcode => exact .delivered m (hreceiver ▸ hpc) (hreceiver ▸ hcode)

/-- The invariant: the datagram is pending, and the rounds and answers that it still needs
are within the bounds. -/
structure Arriving (pcpp : Pcpp) (n d : ℕ) (s : TimedCall R) : Prop where
  isOpen : s.Open n
  pending : ∃ r, s.Pending pcpp r ∧ s.rounds.length + s.receiver.pc.roundsAhead + r ≤ d + 1 ∧
    s.answers + s.receiver.pc.stepsLeft n + (2 * n + 3) * r ≤ (2 * n + 3) * d + 2 * n + 7

theorem Arriving.step (hs : s.Arriving pcpp n d) (hpcap : l.noPcapError = true)
    (hfrag : s.HandlesNoFragment pcpp l)
    (h : timedStep (packetHandlerRawPtr pcpp api) s l = some t) : t.Arriving pcpp n d := by
  refine ⟨hs.isOpen.step h, ?_⟩
  obtain ⟨r, hpending, hrounds, hanswers⟩ := hs.pending
  rcases timedStep_cases h with ⟨m, -, -, rfl⟩ | ⟨h', pktData, -, rfl⟩ |
    ⟨reply, socket, rx, rfl, hso, hstep, rfl⟩
  · exact ⟨r, hpending.congr rfl rfl fun _ _ hleft => hleft, hrounds, hanswers⟩
  · exact ⟨r, hpending.congr rfl rfl fun _ _ hleft => hleft.arrive h' _, hrounds, hanswers⟩
  · obtain ⟨r', hpending', hrounds', hanswers'⟩ :=
      hpending.step hs.isOpen hpcap hfrag hso hstep
    refine ⟨r', hpending', hrounds'.trans hrounds, ?_⟩
    show s.answers + 1 + rx.pc.stepsLeft n + (2 * n + 3) * r' ≤ _
    have hless : rx.pc.stepsLeft n + (2 * n + 3) * r' <
        s.receiver.pc.stepsLeft n + (2 * n + 3) * r := hanswers'
    omega

/-- A call that works for a pending datagram does not look at the clock. -/
theorem Pending.pc_ne (h : s.Pending pcpp r) :
    s.receiver.pc ≠ .crashed ∧ s.receiver.pc ≠ .timeCheck ∧ (∀ ms, s.receiver.pc ≠ .wait ms) ∧
      ∀ m, s.receiver.pc = .returned m → s.receiver.error.errorCode = .ok := by
  cases h with
  | ahead i d dev _ _ hwill =>
    refine ⟨?_, ?_, fun ms => ?_, fun m => ?_⟩ <;> intro hpc <;> rw [hpc] at hwill <;> cases hwill
  | behind i d dev _ _ hpolled =>
    refine ⟨?_, ?_, fun ms => ?_, fun m => ?_⟩ <;> intro hpc <;> rw [hpc] at hpolled <;>
      cases hpolled
  | inHand k pcapDev pktData hhandle =>
    refine ⟨?_, ?_, fun ms => ?_, fun m => ?_⟩ <;> intro hpc <;> rw [hpc] at hhandle <;>
      cases hhandle
  | delivered m hresult hcode =>
    refine ⟨?_, ?_, fun ms => ?_, fun m => fun _ => hcode⟩ <;> intro hpc <;>
      rw [hpc] at hresult <;> cases hresult

/-- A call that polls or returns can go on without an error of pcap. -/
theorem exists_reply (handler : Handler R) (hcrashed : s.receiver.pc ≠ .crashed)
    (htime : s.receiver.pc ≠ .timeCheck) (hwait : ∀ ms, s.receiver.pc ≠ .wait ms)
    (hreturned : ∀ m, s.receiver.pc ≠ .returned m) :
    ∃ reply o, (TimedLabel.reply reply).noPcapError = true ∧ s.answersSo reply = true ∧
      receiveStep handler s.socket s.receiver reply = some o := by
  unfold receiveStep
  cases hpc : s.receiver.pc with
  | start =>
    by_cases hpos : 0 ≤ s.receiver.args.timeoutMs
    · exact ⟨.clock s.now, _, rfl, decide_eq_true rfl, if_pos hpos⟩
    · exact ⟨.tau, _, rfl, rfl, if_pos (not_le.mp hpos)⟩
  | poll k pcapDev =>
    cases hqueue : s.queues pcapDev.pcapHandle with
    | nil =>
      refine ⟨.next 0 [] "", _, rfl, ?_, rfl⟩
      unfold answersSo
      simp [hpc, hqueue]
    | cons head later =>
      refine ⟨.next 1 head.2 "", _, rfl, ?_, rfl⟩
      unfold answersSo
      simp [hpc, hqueue]
  | handle k pcapDev pktData =>
    let env : ProcessEnv := .at 0 .oldestFirst
    cases hhandler : handler s.socket.pcapDevicesIpReassembly (s.receiver.callbackArgs s.socket)
      pktData env with
    | none =>
      refine ⟨.handled env, (s.socket, { s.receiver with pc := .crashed }), rfl, rfl, ?_⟩
      simp only
      rw [hhandler]
    | some o =>
      refine ⟨.handled env, ({ s.socket with pcapDevicesIpReassembly := o.1 },
        s.receiver.afterHandler s.socket k o.2), rfl, rfl, ?_⟩
      simp only
      rw [hhandler]
  | lockLists | lockCallback | checks | unlockCallback | leaveRound | leave =>
    exact ⟨.tau, _, rfl, rfl, rfl⟩
  | timeCheck => exact absurd hpc htime
  | wait ms => exact absurd hpc (hwait ms)
  | returned m => exact absurd hpc (hreturned m)
  | crashed => exact absurd hpc hcrashed

theorem Arriving.returns (hs : s.Arriving pcpp n d) (handler : Handler R) :
    s.Returns handler n d := by
  obtain ⟨r, hpending, hrounds, hanswers⟩ := hs.pending
  obtain ⟨hcrashed, htime, hwait, hcode⟩ := hpending.pc_ne
  refine ⟨hcrashed, ⟨htime, hwait⟩, hcode, by omega, by omega, ?_⟩
  intro hreturned
  obtain ⟨reply, o, hpcap, hso, hstep⟩ := exists_reply handler hcrashed htime hwait hreturned
  exact ⟨reply, _, hpcap, timedStep_reply hso hstep⟩

/-- The datagram is in its buffer when the call starts. -/
theorem arriving_start {socket : UdpcapSocket R} (hvalid : socket.isValid = true)
    (hbound : socket.boundState = true) (hopen : socket.pcapDevicesClosed = false)
    (args : ReceiveArgs) (now : Int64) {queues : Handle → List (Int × Bytes)}
    (hdev : dev ∈ socket.pcapDevices) {packet : Int × Bytes}
    (hpacket : (queues dev.pcapHandle)[d]? = some packet)
    (hdeliverable : Deliverable pcpp socket.boundPort packet.2) :
    (start socket args now queues).Arriving pcpp socket.pcapDevices.length d := by
  obtain ⟨i, hi⟩ := List.getElem?_of_mem hdev
  refine ⟨⟨hvalid, hbound, hopen, rfl, trivial⟩, d, ?_, ?_, ?_⟩
  · exact .ahead i d dev hi ⟨packet, hpacket, hdeliverable⟩ rfl
  · show 0 + 1 + d ≤ d + 1
    omega
  · show 0 + (2 * socket.pcapDevices.length + 7) + (2 * socket.pcapDevices.length + 3) * d ≤
      (2 * socket.pcapDevices.length + 3) * d + 2 * socket.pcapDevices.length + 7
    omega

/-- **A fragment that is handled ends the call.** -/
theorem crashes (pcpp : Pcpp) (api : IPReassembly R) (hl : ¬s.HandlesNoFragment pcpp l) :
    ∃ t, timedStep (packetHandlerRawPtr pcpp api) s l = some t ∧ t.receiver.pc = .crashed := by
  unfold HandlesNoFragment at hl
  push Not at hl
  obtain ⟨pktData, hhandled, hfrag⟩ := hl
  rw [ne_eq, Bool.not_eq_false] at hfrag
  obtain ⟨k, pcapDev, env, hpc, rfl⟩ := handledPacket_eq_some hhandled
  have hnone := (packetHandlerRawPtr_loopback pcpp api s.socket s.receiver pktData env).1.mpr hfrag
  have hstep : receiveStep (packetHandlerRawPtr pcpp api) s.socket s.receiver (.handled env) =
      some (s.socket, { s.receiver with pc := .crashed }) := by
    unfold receiveStep
    rw [hpc]
    simp only
    rw [hnone]
  exact ⟨_, timedStep_reply rfl hstep, rfl⟩

end TimedCall

/-- **A call on an open socket, in one of whose buffers a datagram for it waits behind `d`
other packets, returns a datagram within `d + 1` rounds and a bounded number of answers,
without looking at the clock, exactly if it handles no fragment.** -/
theorem buffered_datagram_returned_iff (pcpp : Pcpp) (api : IPReassembly R)
    (socket : UdpcapSocket R) (hvalid : socket.isValid = true) (hbound : socket.isBound = true)
    (hopen : socket.isClosed = false) (args : ReceiveArgs) (now : Int64)
    {queues : Handle → List (Int × Bytes)} {dev : PcapDev} (hdev : dev ∈ socket.pcapDevices)
    {d : ℕ} {packet : Int × Bytes} (hpacket : (queues dev.pcapHandle)[d]? = some packet)
    (hsucceeds : HandlerSucceeds (packetHandlerRawPtr pcpp api) socket (.create args) packet.2)
    {labels : List TimedLabel} (hpcap : ∀ l ∈ labels, l.noPcapError = true) :
    let handler := packetHandlerRawPtr pcpp api
    let start := TimedCall.start socket args now queues
    HoldsAlong (timedStep handler) (TimedCall.Returns handler socket.pcapDevices.length d) start
        labels ↔
      StepsMeet (timedStep handler) (TimedCall.HandlesNoFragment pcpp) start labels := by
  intro handler start
  constructor
  · refine HoldsAlong.stepsMeet ?_
    intro s l hs hl
    obtain ⟨t, hst, hcrashed⟩ := TimedCall.crashes pcpp api hl
    exact ⟨t, hst, fun ht => ht.notCrashed hcrashed⟩
  · intro hfrag
    have hstart : start.Arriving pcpp socket.pcapDevices.length d :=
      TimedCall.arriving_start hvalid hbound hopen args now hdev hpacket hsucceeds.deliverable
    have hboth : StepsMeet (timedStep handler)
        (fun s l => l.noPcapError = true ∧ s.HandlesNoFragment pcpp l) start labels :=
      stepsMeet_and.mpr ⟨stepsMeet_of_forall_mem hpcap start, hfrag⟩
    exact holdsAlong_of_stepsMeet (fun s hs => hs.returns handler)
      (fun s l t hs hl hst => hs.step hl.1 hl.2 hst) hstart hboth

/-- A call with a timeout of 0 and a buffer of 4 bytes. -/
def pollingCall : ReceiveArgs := ⟨[0, 0, 0, 0], 4, by decide, 0, none, none, .ofCode .ok⟩

/-- A call polls the loopback device, takes a packet from it and handles it. -/
def takesOne (pktData : Bytes) : List TimedLabel :=
  [.reply .tau, .reply .tau, .reply (.next 1 pktData ""), .reply (.handled (.at 0 .oldestFirst))]

/-- Behind a packet to port 5001, a datagram for the socket is returned in the second round. -/
theorem buffered_datagram_returned_second :
    let handler := packetHandlerRawPtr SmallPcpp.pcpp SmallPcpp.api
    let other := loopbackFrame (ipv4Packet [0, 30] [0, 7] [0, 0] [0x66, 0xC6]
      [0x0F, 0xA0, 0x13, 0x89, 0, 10, 0, 0, 0x61, 0x62])
    let start := TimedCall.start boundToLoopback pollingCall 0 fun h =>
      if h = 0 then [(0, other), (0, loopbackFrame wholePacket)] else []
    let labels := [.reply (.clock 0), .reply .tau] ++ takesOne other ++ [.reply .tau] ++
      takesOne (loopbackFrame wholePacket) ++ [.reply .tau, .reply .tau]
    (run (timedStep handler) start labels).map (fun s =>
        (s.receiver.pc, s.receiver.error.errorCode, s.receiver.data, s.rounds.length)) =
          some (.returned 2, .ok, [0x61, 0x62, 0, 0], 2) ∧
      HoldsAlong (timedStep handler) (TimedCall.Returns handler 1 1) start labels := by
  intro handler other start labels
  have hdev : ⟨0, true, NpcapHelpers.npfLoopback⟩ ∈ boundToLoopback.pcapDevices := by decide
  have hpacket : (start.queues 0)[1]? = some (0, loopbackFrame wholePacket) := rfl
  have hsucceeds : HandlerSucceeds handler boundToLoopback (.create pollingCall)
      (loopbackFrame wholePacket) := ⟨.at 0 .oldestFirst, _, _, rfl, by decide +kernel⟩
  refine ⟨by decide +kernel, ?_⟩
  refine (buffered_datagram_returned_iff SmallPcpp.pcpp SmallPcpp.api boundToLoopback rfl rfl rfl
    pollingCall 0 hdev hpacket hsucceeds ?_).mpr ?_
  · decide
  · decide +kernel

/-- Behind a fragment, the datagram is never reached: the call crashes. -/
theorem buffered_datagram_lost :
    let handler := packetHandlerRawPtr SmallPcpp.pcpp SmallPcpp.api
    let datagram := loopbackFrame wholePacket
    let fragment := loopbackFrame firstFragment
    HandlerSucceeds handler boundToLoopback (.create pollingCall) datagram ∧
      (run (timedStep handler)
        (TimedCall.start boundToLoopback pollingCall 0 fun h =>
          if h = 0 then [(0, fragment), (0, datagram)] else [])
        ([.reply (.clock 0), .reply .tau] ++ takesOne fragment)).map (fun s =>
          (s.receiver.pc, s.queues 0)) = some (.crashed, [(0, datagram)]) := by
  intro handler datagram fragment
  refine ⟨⟨.at 0 .oldestFirst, _, _, rfl, by decide +kernel⟩, by decide +kernel⟩

end Udpcap
