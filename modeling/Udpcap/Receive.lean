import Udpcap.Error
import Udpcap.PacketHandler
import Udpcap.Socket

/-!
# Receiving a datagram

`UdpcapSocketPrivate::receiveDatagram` as a system that takes one step for every
lock operation and for every question it asks of the outside world: the clock,
`pcap_next_ex`, the packet handler and `WaitForMultipleObjects`.

## Main definitions

* `ReceiveArgs` — the arguments of a call.
* `Pc`, `Receiver` — where a call is, and its local variables.
* `Reply` — what the outside world answers.
* `receiveStep` — one step.
* `ReceiveCase` — what a step is, case by case.
* `Receiver.Quiet` — a step that does not touch the caller's memory.
* `Receiver.AtDevice` — a call works on the devices of a bound socket.

## Main results

* `receiveStep_case` — a step is one of the cases; what follows looks at them only.
* `receiveStep_cases` — **only the packet handler touches the caller's memory**, and
  a call that ends without its success ends with an error.
* `receiveStep_atDevice` — **a call works on the devices of a bound socket**, and
  handles next the packet that it took.
* `receiveStep_timeout` — a call ends with a timeout only at the deadline, or when a wait
  has timed out.

The handler is a parameter: some results are about the call alone.
-/

namespace Udpcap

/-! ### Constants and machine integers -/

/-- A signed 64-bit integer. -/
def int64 (n : Int) : Int := n.bmod (2 ^ 64)

/-- `steady_clock::time_point::max()`, in nanoseconds. -/
def timePointMax : Int := 2 ^ 63 - 1

def waitObject0 : UInt32 := 0

def waitAbandoned0 : UInt32 := 0x80

def waitTimeout : UInt32 := 258

def waitFailed : UInt32 := 0xFFFFFFFF

def infinite : UInt32 := 0xFFFFFFFF

def maximumWaitObjects : UInt32 := 64

/-! ### A call -/

/-- The arguments of `receiveDatagram`: the memory behind the pointers, `none` for a
null pointer. -/
structure ReceiveArgs where
  data : Bytes
  maxLen : ℕ
  /-- The caller provides a buffer of at least `max_len` bytes. -/
  maxLen_le : maxLen ≤ data.length
  timeoutMs : Int
  sourceAddress : Option HostAddress
  sourcePort : Option UInt16
  error : Error
  deriving DecidableEq

/-- The next thing that a call does. -/
inductive Pc
  /-- Compute the deadline, and check that the socket is valid. -/
  | start
  /-- Lock `pcap_devices_lists_mutex_`. -/
  | lockLists
  /-- Start a round: lock `pcap_devices_callback_mutex_`. -/
  | lockCallback
  /-- Check `pcap_devices_closed_` and `bound_state_`. -/
  | checks
  /-- Call `pcap_next_ex` on the device at position `k`. -/
  | poll (k : ℕ) (pcapDev : PcapDev)
  /-- Call the packet handler with a packet of the device at position `k`. -/
  | handle (k : ℕ) (pcapDev : PcapDev) (pktData : Bytes)
  /-- End the round: unlock `pcap_devices_callback_mutex_`. -/
  | unlockCallback
  /-- Compare the clock with the deadline. -/
  | timeCheck
  /-- Call `WaitForMultipleObjects`. -/
  | wait (ms : UInt32)
  /-- Return from within the round: unlock `pcap_devices_callback_mutex_`. -/
  | leaveRound (result : ℕ)
  /-- Return: unlock `pcap_devices_lists_mutex_`. -/
  | leave (result : ℕ)
  | returned (result : ℕ)
  /-- The handler had undefined behaviour. -/
  | crashed
  deriving DecidableEq, Repr

/-- A call with its local variables and what its pointers point to. -/
structure Receiver where
  args : ReceiveArgs
  pc : Pc
  waitUntil : Int
  receivedAnyData : Bool
  data : Bytes
  sourceAddress : Option HostAddress
  sourcePort : Option UInt16
  error : Error
  deriving DecidableEq

/-- What the outside world answers. -/
inductive Reply
  /-- Nothing is asked. -/
  | tau
  /-- A reading of the steady clock, in nanoseconds. -/
  | clock (now : Int)
  /-- The result of `pcap_next_ex`, the packet, and the text of `pcap_geterr`. -/
  | next (errorcode : Int) (pktData : Bytes) (geterr : String)
  /-- The packet handler has run. -/
  | handled (env : ProcessEnv)
  /-- The result of `WaitForMultipleObjects`, and the text of `GetLastError`. -/
  | wait (waitResult : UInt32) (lastError : String)

/-- The packet handler, on the reassemblers of the socket; `none` when its behaviour
is undefined. -/
abbrev Handler (R : Type) :=
  List (IpReassembly R) → CallbackArgsRawPtr → Bytes → ProcessEnv →
    Option (List (IpReassembly R) × CallbackArgsRawPtr)

namespace Receiver

variable {R : Type}

/-- A call that is about to start. -/
def create (args : ReceiveArgs) : Receiver :=
  ⟨args, .start, 0, false, args.data, args.sourceAddress, args.sourcePort, args.error⟩

/-- `error = code; return 0`, where both locks are held. -/
def fail (rx : Receiver) (error : Error) : Receiver :=
  { rx with error := error, pc := .leaveRound 0 }

/-- The deadline of a call with a timeout, in signed 64-bit nanoseconds. -/
def deadline (now timeoutMs : Int) : Int := int64 (now + int64 (timeoutMs * 1000000))

/-- The deadline is computed. -/
def afterStart (rx : Receiver) (s : UdpcapSocket R) (waitUntil : Int) : Receiver :=
  if !s.isValid then
    { rx with
      waitUntil := waitUntil
      error := rx.error.assignCode .npcapNotInitialized
      pc := .returned 0 }
  else { rx with waitUntil := waitUntil, pc := .lockLists }

/-- The loop over the devices stands in front of position `k`, or at its end. -/
def toDevice (rx : Receiver) (s : UdpcapSocket R) (k : ℕ) : Receiver :=
  { rx with pc := match s.pcapDevices[k]? with
    | some pcapDev => .poll k pcapDev
    | none => .unlockCallback }

/-- The checks at the start of a round. -/
def afterChecks (rx : Receiver) (s : UdpcapSocket R) : Receiver :=
  if s.pcapDevicesClosed then rx.fail (rx.error.assignCode .socketClosed)
  else if !s.boundState then rx.fail (rx.error.assignCode .notBound)
  else rx.toDevice s 0

/-- `pcap_next_ex` has returned. -/
def afterNext (rx : Receiver) (s : UdpcapSocket R) (k : ℕ) (pcapDev : PcapDev) (errorcode : Int)
    (pktData : Bytes) (geterr : String) : Receiver :=
  if errorcode = 1 then { rx with receivedAnyData := true, pc := .handle k pcapDev pktData }
  else if errorcode = 0 then rx.toDevice s (k + 1)
  else if errorcode = pcapErrorNotActivated then
    rx.fail ⟨.notBound, "Internal error: PCAP handle not activated"⟩
  else if errorcode = pcapError then rx.fail ⟨.genericError, geterr⟩
  else rx.fail ⟨.genericError, "Internal error: Unknown error code " ++ toString errorcode⟩

/-- The argument struct of the packet handler. -/
def callbackArgs (rx : Receiver) (s : UdpcapSocket R) : CallbackArgsRawPtr :=
  .create rx.data rx.args.maxLen rx.sourceAddress rx.sourcePort s.boundPort linktypeNull

/-- The packet handler has returned. -/
def afterHandler (rx : Receiver) (s : UdpcapSocket R) (k : ℕ) (callbackArgs : CallbackArgsRawPtr) :
    Receiver :=
  let rx := { rx with
    data := callbackArgs.destinationBuffer
    sourceAddress := callbackArgs.sourceAddress
    sourcePort := callbackArgs.sourcePort }
  if callbackArgs.success then
    { rx with error := rx.error.assignCode .ok, pc := .leaveRound callbackArgs.bytesCopied }
  else rx.toDevice s (k + 1)

/-- The round is over. -/
def afterRound (rx : Receiver) : Receiver :=
  { rx with pc := if rx.receivedAnyData then .lockCallback else .timeCheck }

/-- The time left, in milliseconds, as an unsigned 32-bit integer. -/
def remainingTimeToWaitMs (rx : Receiver) (now : Int) : UInt32 :=
  if rx.args.timeoutMs < 0 then infinite
  else UInt32.ofNat (((int64 (rx.waitUntil - now)).tdiv 1000000) % 2 ^ 32).toNat

/-- The clock is read. -/
def afterTimeCheck (rx : Receiver) (now : Int) : Receiver :=
  if rx.waitUntil ≤ now then { rx with error := rx.error.assignCode .timeout, pc := .leave 0 }
  else { rx with pc := .wait (rx.remainingTimeToWaitMs now) }

/-- The number of handles that `WaitForMultipleObjects` is called with. -/
def numHandles (s : UdpcapSocket R) : UInt32 :=
  let numHandles := UInt32.ofNat s.pcapWin32Handles.length
  if maximumWaitObjects < numHandles then maximumWaitObjects else numHandles

/-- `WaitForMultipleObjects` has returned. -/
def afterWait (rx : Receiver) (s : UdpcapSocket R) (waitResult : UInt32) (lastError : String) :
    Receiver :=
  let n := numHandles s
  if waitObject0 ≤ waitResult ∧ waitResult ≤ waitObject0 + n - 1 then
    { rx with pc := .lockCallback }
  else if waitAbandoned0 ≤ waitResult ∧ waitResult ≤ waitAbandoned0 + n - 1 then
    -- the error is set, but the loop goes on
    { rx with
      error := ⟨.genericError,
        "Internal error \"WAIT_ABANDONED\" while waiting for data: " ++ lastError⟩
      pc := .lockCallback }
  else if waitResult = waitTimeout then
    { rx with error := rx.error.assignCode .timeout, pc := .leave 0 }
  else { rx with pc := .lockCallback }

end Receiver

/-- One step of `receiveDatagram`; `none` when the answer is not to the question. -/
def receiveStep {R : Type} (handler : Handler R) (s : UdpcapSocket R) (rx : Receiver)
    (reply : Reply) : Option (UdpcapSocket R × Receiver) :=
  match rx.pc, reply with
  | .start, .clock now =>
    if 0 ≤ rx.args.timeoutMs then
      some (s, rx.afterStart s (Receiver.deadline now rx.args.timeoutMs))
    else none
  | .start, .tau =>
    if rx.args.timeoutMs < 0 then some (s, rx.afterStart s timePointMax) else none
  | .lockLists, .tau => some (s, { rx with pc := .lockCallback })
  | .lockCallback, .tau => some (s, { rx with receivedAnyData := false, pc := .checks })
  | .checks, .tau => some (s, rx.afterChecks s)
  | .poll k pcapDev, .next errorcode pktData geterr =>
    some (s, rx.afterNext s k pcapDev errorcode pktData geterr)
  | .handle k _ pktData, .handled env =>
    match handler s.pcapDevicesIpReassembly (rx.callbackArgs s) pktData env with
    | none => some (s, { rx with pc := .crashed })
    | some (reassemblers, callbackArgs) =>
      some ({ s with pcapDevicesIpReassembly := reassemblers }, rx.afterHandler s k callbackArgs)
  | .unlockCallback, .tau => some (s, rx.afterRound)
  | .timeCheck, .clock now => some (s, rx.afterTimeCheck now)
  | .wait _, .wait waitResult lastError => some (s, rx.afterWait s waitResult lastError)
  | .leaveRound result, .tau => some (s, { rx with pc := .leave result })
  | .leave result, .tau => some (s, { rx with pc := .returned result })
  | _, _ => none

/-! ### What a step changes -/

/-- What a call is about to return. -/
def Pc.result : Pc → Option ℕ
  | .leaveRound n | .leave n | .returned n => some n
  | _ => none

/-- The packet that a call has taken and not yet handled. -/
def Pc.inFlight : Pc → Option (Handle × Bytes)
  | .handle _ pcapDev pktData => some (pcapDev.pcapHandle, pktData)
  | _ => none

/-- A round is in progress, and knows what it has received. -/
def Pc.inRound : Pc → Bool
  | .checks | .poll .. | .handle .. | .unlockCallback => true
  | _ => false

/-- The packet that a step takes from a device. -/
def Pc.takes : Pc → Reply → Option (Handle × Bytes)
  | .poll _ pcapDev, .next errorcode pktData _ =>
    if errorcode = 1 then some (pcapDev.pcapHandle, pktData) else none
  | _, _ => none

namespace Receiver

variable {R : Type} {s : UdpcapSocket R}

/-- A step that does not touch the caller's memory, apart from the error; if it ends
the call, it does so with an error. -/
structure Quiet (rx rx' : Receiver) : Prop where
  args : rx'.args = rx.args
  data : rx'.data = rx.data
  sourceAddress : rx'.sourceAddress = rx.sourceAddress
  sourcePort : rx'.sourcePort = rx.sourcePort
  result : (rx.pc.result = none ∧ rx'.pc.result = none) ∨
    (rx.pc.result = none ∧ rx'.pc.result = some 0 ∧ rx'.error.errorCode ≠ .ok) ∨
    (rx'.pc.result = rx.pc.result ∧ rx'.error = rx.error)

theorem quiet_fail (rx : Receiver) (h : rx.pc.result = none) (error : Error)
    (herror : error.errorCode ≠ .ok) : rx.Quiet (rx.fail error) :=
  ⟨rfl, rfl, rfl, rfl, Or.inr (Or.inl ⟨h, rfl, herror⟩)⟩

theorem result_toDevice (rx : Receiver) (s : UdpcapSocket R) (k : ℕ) :
    (rx.toDevice s k).pc.result = none := by
  unfold toDevice
  cases s.pcapDevices[k]? <;> rfl

/-- The loop polls the device, or it has come to its end. -/
theorem pc_toDevice (rx : Receiver) (s : UdpcapSocket R) (k : ℕ) :
    (∃ pcapDev, s.pcapDevices[k]? = some pcapDev ∧ (rx.toDevice s k).pc = .poll k pcapDev) ∨
      (s.pcapDevices[k]? = none ∧ (rx.toDevice s k).pc = .unlockCallback) := by
  unfold toDevice
  cases s.pcapDevices[k]? with
  | none => exact Or.inr ⟨rfl, rfl⟩
  | some pcapDev => exact Or.inl ⟨pcapDev, rfl, rfl⟩

/-- Once the handler has returned, the call returns or goes on with the next device. -/
theorem pc_afterHandler (rx : Receiver) (s : UdpcapSocket R) (k : ℕ)
    (callbackArgs : CallbackArgsRawPtr) :
    (callbackArgs.success = true ∧
        (rx.afterHandler s k callbackArgs).pc = .leaveRound callbackArgs.bytesCopied ∧
        (rx.afterHandler s k callbackArgs).error = rx.error.assignCode .ok) ∨
      (callbackArgs.success = false ∧
        (rx.afterHandler s k callbackArgs).pc = (rx.toDevice s (k + 1)).pc ∧
        (rx.afterHandler s k callbackArgs).receivedAnyData = rx.receivedAnyData) := by
  unfold afterHandler
  simp only
  cases callbackArgs.success with
  | true => exact Or.inl ⟨rfl, rfl, rfl⟩
  | false => exact Or.inr ⟨rfl, rfl, rfl⟩

theorem inRound_toDevice (rx : Receiver) (s : UdpcapSocket R) (k : ℕ) :
    (rx.toDevice s k).pc.inRound = true := by
  rcases rx.pc_toDevice s k with ⟨pcapDev, -, hpc⟩ | ⟨-, hpc⟩
  · rw [hpc]
    rfl
  · rw [hpc]
    rfl

theorem inRound_afterHandler (rx : Receiver) (s : UdpcapSocket R) (k : ℕ)
    (callbackArgs : CallbackArgsRawPtr) :
    (rx.afterHandler s k callbackArgs).pc.inRound = true ∨
      (rx.afterHandler s k callbackArgs).pc.result = some callbackArgs.bytesCopied := by
  rcases rx.pc_afterHandler s k callbackArgs with ⟨-, hleave, -⟩ | ⟨-, hnext, -⟩
  · rw [hleave]
    exact Or.inr rfl
  · rw [hnext]
    exact Or.inl (rx.inRound_toDevice s (k + 1))

theorem quiet_toDevice (rx : Receiver) (h : rx.pc.result = none) (s : UdpcapSocket R) (k : ℕ) :
    rx.Quiet (rx.toDevice s k) :=
  ⟨rfl, rfl, rfl, rfl, Or.inl ⟨h, result_toDevice rx s k⟩⟩

/-! ### The devices -/

/-- The socket is bound, and a device stands at a position. -/
structure DeviceAt (s : UdpcapSocket R) (k : ℕ) (pcapDev : PcapDev) : Prop where
  isBound : s.boundState = true
  isOpen : s.pcapDevicesClosed = false
  getElem? : s.pcapDevices[k]? = some pcapDev

/-- A call works on the devices of a bound socket. -/
def AtDevice (s : UdpcapSocket R) (rx : Receiver) : Prop :=
  match rx.pc with
  | .poll k pcapDev | .handle k pcapDev _ => DeviceAt s k pcapDev
  | _ => True

theorem AtDevice.congr {s' : UdpcapSocket R} {rx : Receiver} (h : rx.AtDevice s)
    (hbound : s'.boundState = s.boundState) (hopen : s'.pcapDevicesClosed = s.pcapDevicesClosed)
    (hdevices : s'.pcapDevices = s.pcapDevices) : rx.AtDevice s' := by
  have hcongr : ∀ k pcapDev, DeviceAt s k pcapDev → DeviceAt s' k pcapDev := fun k pcapDev hk =>
    ⟨hbound.trans hk.isBound, hopen.trans hk.isOpen, hdevices ▸ hk.getElem?⟩
  unfold AtDevice at h ⊢
  cases hpc : rx.pc with
  | poll k pcapDev =>
    rw [hpc] at h
    exact hcongr k pcapDev h
  | handle k pcapDev pktData =>
    rw [hpc] at h
    exact hcongr k pcapDev h
  | _ => trivial

theorem AtDevice.at_poll {rx : Receiver} (h : rx.AtDevice s) {k : ℕ} {pcapDev : PcapDev}
    (hpc : rx.pc = .poll k pcapDev) : DeviceAt s k pcapDev := by
  unfold AtDevice at h
  rw [hpc] at h
  exact h

theorem AtDevice.at_handle {rx : Receiver} (h : rx.AtDevice s) {k : ℕ} {pcapDev : PcapDev}
    {pktData : Bytes} (hpc : rx.pc = .handle k pcapDev pktData) : DeviceAt s k pcapDev := by
  unfold AtDevice at h
  rw [hpc] at h
  exact h

/-- The same, where no packet is waiting to be handled. -/
def Onward (s : UdpcapSocket R) (rx : Receiver) : Prop := rx.pc.inFlight = none ∧ rx.AtDevice s

theorem onward_toDevice (rx : Receiver) (hbound : s.boundState = true)
    (hopen : s.pcapDevicesClosed = false) (k : ℕ) : (rx.toDevice s k).Onward s := by
  unfold toDevice Onward AtDevice
  cases hk : s.pcapDevices[k]? with
  | none => exact ⟨rfl, trivial⟩
  | some pcapDev => exact ⟨rfl, hbound, hopen, hk⟩

theorem onward_afterHandler (rx : Receiver) {k : ℕ} {pcapDev : PcapDev}
    (hat : DeviceAt s k pcapDev) (callbackArgs : CallbackArgsRawPtr) :
    (rx.afterHandler s k callbackArgs).Onward s := by
  unfold afterHandler
  simp only
  split
  · exact ⟨rfl, trivial⟩
  · exact onward_toDevice _ hat.isBound hat.isOpen (k + 1)

end Receiver

/-! ### Steps, case by case -/

/-- **What a step of `receiveDatagram` is**: the position before it, the answer, what is
known then, and the state after it. -/
inductive ReceiveCase {R : Type} (handler : Handler R) (s : UdpcapSocket R) (rx : Receiver) :
    Reply → UdpcapSocket R → Receiver → Prop
  | invalid (reply : Reply) (waitUntil : Int) (hpc : rx.pc = .start) (hvalid : s.isValid = false) :
    ReceiveCase handler s rx reply s { rx with
      waitUntil := waitUntil
      error := rx.error.assignCode .npcapNotInitialized
      pc := .returned 0 }
  | valid (reply : Reply) (waitUntil : Int) (hpc : rx.pc = .start) (hvalid : s.isValid = true) :
    ReceiveCase handler s rx reply s { rx with waitUntil := waitUntil, pc := .lockLists }
  | lockLists (hpc : rx.pc = .lockLists) :
    ReceiveCase handler s rx .tau s { rx with pc := .lockCallback }
  | lockCallback (hpc : rx.pc = .lockCallback) :
    ReceiveCase handler s rx .tau s { rx with receivedAnyData := false, pc := .checks }
  | refuse (error : Error) (hpc : rx.pc = .checks) (hcode : error.errorCode ≠ .ok)
    (hclosed : s.pcapDevicesClosed = true → error.errorCode = .socketClosed) :
    ReceiveCase handler s rx .tau s (rx.fail error)
  | first (hpc : rx.pc = .checks) (hopen : s.pcapDevicesClosed = false)
    (hbound : s.boundState = true) : ReceiveCase handler s rx .tau s (rx.toDevice s 0)
  | take (k : ℕ) (pcapDev : PcapDev) (pktData : Bytes) (geterr : String)
    (hpc : rx.pc = .poll k pcapDev) : ReceiveCase handler s rx (.next 1 pktData geterr) s
      { rx with receivedAnyData := true, pc := .handle k pcapDev pktData }
  | skip (k : ℕ) (pcapDev : PcapDev) (pktData : Bytes) (geterr : String)
    (hpc : rx.pc = .poll k pcapDev) :
    ReceiveCase handler s rx (.next 0 pktData geterr) s (rx.toDevice s (k + 1))
  | pollError (k : ℕ) (pcapDev : PcapDev) (errorcode : Int) (pktData : Bytes) (geterr : String)
    (error : Error) (hpc : rx.pc = .poll k pcapDev) (hone : errorcode ≠ 1)
    (hcode : error.errorCode ≠ .ok) :
    ReceiveCase handler s rx (.next errorcode pktData geterr) s (rx.fail error)
  | crash (k : ℕ) (pcapDev : PcapDev) (pktData : Bytes) (env : ProcessEnv)
    (hpc : rx.pc = .handle k pcapDev pktData)
    (hhandler : handler s.pcapDevicesIpReassembly (rx.callbackArgs s) pktData env = none) :
    ReceiveCase handler s rx (.handled env) s { rx with pc := .crashed }
  | handle (k : ℕ) (pcapDev : PcapDev) (pktData : Bytes) (env : ProcessEnv)
    (reassemblers : List (IpReassembly R)) (callbackArgs : CallbackArgsRawPtr)
    (hpc : rx.pc = .handle k pcapDev pktData)
    (hhandler : handler s.pcapDevicesIpReassembly (rx.callbackArgs s) pktData env =
      some (reassemblers, callbackArgs)) :
    ReceiveCase handler s rx (.handled env) { s with pcapDevicesIpReassembly := reassemblers }
      (rx.afterHandler s k callbackArgs)
  | again (hpc : rx.pc = .unlockCallback) (hdata : rx.receivedAnyData = true) :
    ReceiveCase handler s rx .tau s { rx with pc := .lockCallback }
  | noData (hpc : rx.pc = .unlockCallback) (hdata : rx.receivedAnyData = false) :
    ReceiveCase handler s rx .tau s { rx with pc := .timeCheck }
  | timeout (now : Int) (hpc : rx.pc = .timeCheck) (htime : rx.waitUntil ≤ now) :
    ReceiveCase handler s rx (.clock now) s { rx with
      error := rx.error.assignCode .timeout
      pc := .leave 0 }
  | wait (now : Int) (hpc : rx.pc = .timeCheck) (htime : now < rx.waitUntil) :
    ReceiveCase handler s rx (.clock now) s { rx with pc := .wait (rx.remainingTimeToWaitMs now) }
  | wake (ms waitResult : UInt32) (lastError : String) (error : Error) (hpc : rx.pc = .wait ms) :
    ReceiveCase handler s rx (.wait waitResult lastError) s { rx with
      error := error
      pc := .lockCallback }
  | waitTimeout (ms : UInt32) (lastError : String) (hpc : rx.pc = .wait ms) :
    ReceiveCase handler s rx (.wait waitTimeout lastError) s { rx with
      error := rx.error.assignCode .timeout
      pc := .leave 0 }
  | leaveRound (n : ℕ) (hpc : rx.pc = .leaveRound n) :
    ReceiveCase handler s rx .tau s { rx with pc := .leave n }
  | leave (n : ℕ) (hpc : rx.pc = .leave n) :
    ReceiveCase handler s rx .tau s { rx with pc := .returned n }

section Steps

variable {R : Type} {handler : Handler R} {s s' : UdpcapSocket R} {rx rx' : Receiver}
  {reply : Reply}

namespace ReceiveCase

theorem afterStart (reply : Reply) (waitUntil : Int) (hpc : rx.pc = .start) :
    ReceiveCase handler s rx reply s (rx.afterStart s waitUntil) := by
  unfold Receiver.afterStart
  cases hvalid : s.isValid with
  | false => exact .invalid reply waitUntil hpc hvalid
  | true => exact .valid reply waitUntil hpc hvalid

theorem afterChecks (hpc : rx.pc = .checks) :
    ReceiveCase handler s rx .tau s (rx.afterChecks s) := by
  unfold Receiver.afterChecks
  cases hclosed : s.pcapDevicesClosed with
  | true => exact .refuse _ hpc nofun fun _ => rfl
  | false =>
    cases hbound : s.boundState with
    | false =>
      refine .refuse _ hpc nofun ?_
      intro htrue
      rw [hclosed] at htrue
      cases htrue
    | true => exact .first hpc hclosed hbound

theorem afterNext {k : ℕ} {pcapDev : PcapDev} (hpc : rx.pc = .poll k pcapDev) (errorcode : Int)
    (pktData : Bytes) (geterr : String) :
    ReceiveCase handler s rx (.next errorcode pktData geterr) s
      (rx.afterNext s k pcapDev errorcode pktData geterr) := by
  unfold Receiver.afterNext
  by_cases hone : errorcode = 1
  · subst hone
    exact .take k pcapDev pktData geterr hpc
  · rw [if_neg hone]
    by_cases hzero : errorcode = 0
    · subst hzero
      exact .skip k pcapDev pktData geterr hpc
    · rw [if_neg hzero]
      split
      · exact .pollError k pcapDev errorcode pktData geterr _ hpc hone nofun
      · split
        · exact .pollError k pcapDev errorcode pktData geterr _ hpc hone nofun
        · exact .pollError k pcapDev errorcode pktData geterr _ hpc hone nofun

theorem afterRound (hpc : rx.pc = .unlockCallback) :
    ReceiveCase handler s rx .tau s rx.afterRound := by
  unfold Receiver.afterRound
  by_cases hdata : rx.receivedAnyData = true
  · rw [if_pos hdata]
    exact .again hpc hdata
  · rw [if_neg hdata]
    exact .noData hpc (Bool.not_eq_true _ ▸ hdata)

theorem afterTimeCheck (hpc : rx.pc = .timeCheck) (now : Int) :
    ReceiveCase handler s rx (.clock now) s (rx.afterTimeCheck now) := by
  unfold Receiver.afterTimeCheck
  by_cases htime : rx.waitUntil ≤ now
  · rw [if_pos htime]
    exact .timeout now hpc htime
  · rw [if_neg htime]
    exact .wait now hpc (not_le.mp htime)

theorem afterWait {ms : UInt32} (hpc : rx.pc = .wait ms) (waitResult : UInt32)
    (lastError : String) : ReceiveCase handler s rx (.wait waitResult lastError) s
      (rx.afterWait s waitResult lastError) := by
  unfold Receiver.afterWait
  simp only
  split
  · exact .wake ms waitResult lastError rx.error hpc
  · split
    · exact .wake ms waitResult lastError _ hpc
    · split
      next htimeout =>
        subst htimeout
        exact .waitTimeout ms lastError hpc
      next => exact .wake ms waitResult lastError rx.error hpc

end ReceiveCase

/-- **A step of `receiveDatagram` is one of the cases.** -/
theorem receiveStep_case (h : receiveStep handler s rx reply = some (s', rx')) :
    ReceiveCase handler s rx reply s' rx' := by
  unfold receiveStep at h
  split at h
  case h_1 now hpc =>
    split at h
    · cases h
      exact .afterStart _ _ hpc
    · cases h
  case h_2 hpc =>
    split at h
    · cases h
      exact .afterStart _ _ hpc
    · cases h
  case h_3 hpc =>
    cases h
    exact .lockLists hpc
  case h_4 hpc =>
    cases h
    exact .lockCallback hpc
  case h_5 hpc =>
    cases h
    exact .afterChecks hpc
  case h_6 k pcapDev errorcode pktData geterr hpc =>
    cases h
    exact .afterNext hpc errorcode pktData geterr
  case h_7 k pcapDev pktData env hpc =>
    split at h
    next hhandler =>
      cases h
      exact .crash k pcapDev pktData env hpc hhandler
    next reassemblers callbackArgs hhandler =>
      cases h
      exact .handle k pcapDev pktData env reassemblers callbackArgs hpc hhandler
  case h_8 hpc =>
    cases h
    exact .afterRound hpc
  case h_9 now hpc =>
    cases h
    exact .afterTimeCheck hpc now
  case h_10 ms waitResult lastError hpc =>
    cases h
    exact .afterWait hpc waitResult lastError
  case h_11 n hpc =>
    cases h
    exact .leaveRound n hpc
  case h_12 n hpc =>
    cases h
    exact .leave n hpc
  case h_13 => cases h

/-- **Only the packet handler touches the caller's memory**, and only it can end a
call without an error. -/
theorem receiveStep_cases (h : receiveStep handler s rx reply = some (s', rx')) :
    (∃ k pcapDev pktData env, rx.pc = .handle k pcapDev pktData ∧ reply = .handled env ∧
      ((handler s.pcapDevicesIpReassembly (rx.callbackArgs s) pktData env = none ∧ s' = s ∧
          rx' = { rx with pc := .crashed }) ∨
        ∃ reassemblers callbackArgs,
          handler s.pcapDevicesIpReassembly (rx.callbackArgs s) pktData env =
              some (reassemblers, callbackArgs) ∧
            s' = { s with pcapDevicesIpReassembly := reassemblers } ∧
            rx' = rx.afterHandler s k callbackArgs)) ∨
      (rx.pc.inFlight = none ∧ s' = s ∧ rx.Quiet rx') := by
  cases receiveStep_case h with
  | crash k pcapDev pktData env hpc hhandler =>
    exact Or.inl ⟨k, pcapDev, pktData, env, hpc, rfl, Or.inl ⟨hhandler, rfl, rfl⟩⟩
  | handle k pcapDev pktData env reassemblers callbackArgs hpc hhandler =>
    exact Or.inl ⟨k, pcapDev, pktData, env, hpc, rfl,
      Or.inr ⟨reassemblers, callbackArgs, hhandler, rfl, rfl⟩⟩
  | invalid reply waitUntil hpc _ | timeout now hpc _ | waitTimeout ms lastError hpc =>
    have hin : rx.pc.inFlight = none := by rw [hpc]; rfl
    have hresult : rx.pc.result = none := by rw [hpc]; rfl
    exact Or.inr ⟨hin, rfl, rfl, rfl, rfl, rfl, Or.inr (Or.inl ⟨hresult, rfl, nofun⟩)⟩
  | refuse error hpc hcode _ | pollError k pcapDev errorcode pktData geterr error hpc _ hcode =>
    have hin : rx.pc.inFlight = none := by rw [hpc]; rfl
    have hresult : rx.pc.result = none := by rw [hpc]; rfl
    exact Or.inr ⟨hin, rfl, rx.quiet_fail hresult error hcode⟩
  | first hpc _ _ | skip k pcapDev pktData geterr hpc =>
    have hin : rx.pc.inFlight = none := by rw [hpc]; rfl
    have hresult : rx.pc.result = none := by rw [hpc]; rfl
    exact Or.inr ⟨hin, rfl, rx.quiet_toDevice hresult s _⟩
  | leaveRound n hpc | leave n hpc =>
    have hin : rx.pc.inFlight = none := by rw [hpc]; rfl
    have hresult : some n = rx.pc.result := by rw [hpc]; rfl
    exact Or.inr ⟨hin, rfl, rfl, rfl, rfl, rfl, Or.inr (Or.inr ⟨hresult, rfl⟩)⟩
  | valid reply waitUntil hpc _ | lockLists hpc | lockCallback hpc | again hpc _ | noData hpc _
  | take k pcapDev pktData geterr hpc | wait now hpc _ | wake ms waitResult lastError error hpc =>
    have hin : rx.pc.inFlight = none := by rw [hpc]; rfl
    have hresult : rx.pc.result = none := by rw [hpc]; rfl
    exact Or.inr ⟨hin, rfl, rfl, rfl, rfl, rfl, Or.inl ⟨hresult, rfl⟩⟩

/-- **A call works on the devices of a bound socket**, and handles next the packet
that it took. -/
theorem receiveStep_atDevice (h : receiveStep handler s rx reply = some (s', rx'))
    (hat : rx.AtDevice s) : rx'.pc.inFlight = rx.pc.takes reply ∧ rx'.AtDevice s' := by
  cases receiveStep_case h with
  | first hpc hopen hbound =>
    rw [hpc]
    exact rx.onward_toDevice hbound hopen 0
  | take k pcapDev pktData geterr hpc =>
    rw [hpc]
    exact ⟨rfl, hat.at_poll hpc⟩
  | skip k pcapDev pktData geterr hpc =>
    have hdevice := hat.at_poll hpc
    rw [hpc]
    exact rx.onward_toDevice hdevice.isBound hdevice.isOpen (k + 1)
  | pollError k pcapDev errorcode pktData geterr error hpc hone =>
    rw [hpc]
    unfold Pc.takes
    simp only
    rw [if_neg hone]
    exact ⟨rfl, trivial⟩
  | handle k pcapDev pktData env reassemblers callbackArgs hpc hhandler =>
    obtain ⟨hin, hat'⟩ := rx.onward_afterHandler (hat.at_handle hpc) callbackArgs
    rw [hpc]
    exact ⟨hin, hat'.congr rfl rfl rfl⟩
  | invalid _ _ hpc | valid _ _ hpc | lockLists hpc | lockCallback hpc | refuse _ hpc
  | crash _ _ _ _ hpc | again hpc | noData hpc | timeout _ hpc | wait _ hpc | wake _ _ _ _ hpc
  | waitTimeout _ _ hpc | leaveRound _ hpc | leave _ hpc =>
    rw [hpc]
    exact ⟨rfl, trivial⟩

/-- A call that is about to handle a packet has just taken it. -/
theorem receiveStep_handle (h : receiveStep handler s rx reply = some (s', rx'))
    (hat : rx.AtDevice s) {k : ℕ} {pcapDev : PcapDev} {pktData : Bytes}
    (hpc : rx'.pc = .handle k pcapDev pktData) :
    s' = s ∧ rx.pc = .poll k pcapDev ∧ ∃ geterr, reply = .next 1 pktData geterr := by
  have htakes := (receiveStep_atDevice h hat).1
  rw [hpc] at htakes
  cases receiveStep_case h with
  | take k' pcapDev' pktData' geterr hpoll =>
    cases hpc
    exact ⟨rfl, hpoll, geterr, rfl⟩
  | pollError k' pcapDev' errorcode pktData' geterr error hpoll => cases hpc
  | skip k' pcapDev' pktData' geterr hpoll =>
    rw [hpoll] at htakes
    cases htakes
  | invalid _ _ hpc' | valid _ _ hpc' | lockLists hpc' | lockCallback hpc' | refuse _ hpc'
  | first hpc' | crash _ _ _ _ hpc' | handle _ _ _ _ _ _ hpc' | again hpc' | noData hpc'
  | timeout _ hpc' | wait _ hpc' | wake _ _ _ _ hpc' | waitTimeout _ _ hpc' | leaveRound _ hpc'
  | leave _ hpc' =>
    rw [hpc'] at htakes
    cases htakes

/-- Only the reassemblers of the socket change. -/
theorem receiveStep_socket (h : receiveStep handler s rx reply = some (s', rx')) :
    ∃ reassemblers, s' = { s with pcapDevicesIpReassembly := reassemblers } := by
  rcases receiveStep_cases h with
    ⟨k, pcapDev, pktData, env, -, -, ⟨-, heq, -⟩ | ⟨reassemblers, callbackArgs, -, heq, -⟩⟩ |
    ⟨-, heq, -⟩
  · exact ⟨_, heq⟩
  · exact ⟨reassemblers, heq⟩
  · exact ⟨_, heq⟩

/-- The deadline is computed in the first step, and stays; the arguments stay anyway. -/
theorem receiveStep_args (h : receiveStep handler s rx reply = some (s', rx')) :
    rx'.args = rx.args ∧ (rx.pc ≠ .start → rx'.waitUntil = rx.waitUntil) := by
  cases receiveStep_case h with
  | invalid reply waitUntil hpc | valid reply waitUntil hpc =>
    exact ⟨rfl, fun hne => absurd hpc hne⟩
  | handle k pcapDev pktData env reassemblers callbackArgs hpc =>
    unfold Receiver.afterHandler
    simp only
    split <;> exact ⟨rfl, fun _ => rfl⟩
  | lockLists | lockCallback | refuse | first | take | skip | pollError | crash | again | noData
  | timeout | wait | wake | waitTimeout | leaveRound | leave => exact ⟨rfl, fun _ => rfl⟩

/-- The first step computes the deadline. -/
theorem receiveStep_start (h : receiveStep handler s rx reply = some (s', rx'))
    (hpc : rx.pc = .start) :
    (0 ≤ rx.args.timeoutMs ∧ ∃ now, reply = .clock now ∧
        rx'.waitUntil = Receiver.deadline now rx.args.timeoutMs) ∨
      (rx.args.timeoutMs < 0 ∧ rx'.waitUntil = timePointMax) := by
  have hwait : ∀ waitUntil, (rx.afterStart s waitUntil).waitUntil = waitUntil := by
    intro waitUntil
    unfold Receiver.afterStart
    split <;> rfl
  unfold receiveStep at h
  rw [hpc] at h
  cases reply with
  | clock now =>
    simp only at h
    split at h
    next hpos =>
      cases h
      exact Or.inl ⟨hpos, now, rfl, hwait _⟩
    next => cases h
  | tau =>
    simp only at h
    split at h
    next hneg =>
      cases h
      exact Or.inr ⟨hneg, hwait _⟩
    next => cases h
  | next | handled | wait => cases h

theorem Receiver.timeout_afterChecks (rx : Receiver) (s : UdpcapSocket R)
    (hresult : (rx.afterChecks s).pc.result ≠ none) :
    (rx.afterChecks s).error.errorCode ≠ .timeout := by
  unfold Receiver.afterChecks at hresult ⊢
  split
  · exact nofun
  · split
    · exact nofun
    next hclosed hbound =>
      rw [if_neg hclosed, if_neg hbound, Receiver.result_toDevice] at hresult
      exact absurd rfl hresult

theorem Receiver.timeout_afterNext (rx : Receiver) (s : UdpcapSocket R) (k : ℕ)
    (pcapDev : PcapDev) (errorcode : Int) (pktData : Bytes) (geterr : String)
    (hresult : (rx.afterNext s k pcapDev errorcode pktData geterr).pc.result ≠ none) :
    (rx.afterNext s k pcapDev errorcode pktData geterr).error.errorCode ≠ .timeout := by
  unfold Receiver.afterNext at hresult ⊢
  split
  next hone =>
    rw [if_pos hone] at hresult
    exact absurd rfl hresult
  next hone =>
    rw [if_neg hone] at hresult
    split
    next hzero =>
      rw [if_pos hzero, Receiver.result_toDevice] at hresult
      exact absurd rfl hresult
    next =>
      split
      · exact nofun
      · split <;> exact nofun

/-- **A call ends with a timeout only at the deadline, or when a wait has timed out.** -/
theorem receiveStep_timeout (h : receiveStep handler s rx reply = some (s', rx'))
    (hresult : rx'.pc.result ≠ none) (hcode : rx'.error.errorCode = .timeout) :
    (rx.pc.result ≠ none ∧ rx.error.errorCode = .timeout) ∨
      (∃ now, rx.pc = .timeCheck ∧ reply = .clock now ∧ rx.waitUntil ≤ now) ∨
      ∃ ms lastError, rx.pc = .wait ms ∧ reply = .wait waitTimeout lastError := by
  cases receiveStep_case h with
  | refuse error hpc =>
    unfold receiveStep at h
    rw [hpc] at h
    have heq : rx.afterChecks s = rx.fail error := (Prod.mk.inj (Option.some.inj h)).2
    rw [← heq] at hresult hcode
    exact absurd hcode (rx.timeout_afterChecks s hresult)
  | pollError k pcapDev errorcode pktData geterr error hpc =>
    unfold receiveStep at h
    rw [hpc] at h
    have heq : rx.afterNext s k pcapDev errorcode pktData geterr = rx.fail error :=
      (Prod.mk.inj (Option.some.inj h)).2
    rw [← heq] at hresult hcode
    exact absurd hcode (rx.timeout_afterNext s k pcapDev errorcode pktData geterr hresult)
  | handle k pcapDev pktData env reassemblers callbackArgs hpc =>
    unfold Receiver.afterHandler at hresult hcode
    simp only at hresult hcode
    split at hcode
    next => cases hcode
    next hfail =>
      rw [if_neg hfail, Receiver.result_toDevice] at hresult
      exact absurd rfl hresult
  | timeout now hpc htime => exact Or.inr (Or.inl ⟨now, hpc, rfl, htime⟩)
  | waitTimeout ms lastError hpc => exact Or.inr (Or.inr ⟨ms, lastError, hpc, rfl⟩)
  | leaveRound n hpc | leave n hpc =>
    refine Or.inl ⟨?_, hcode⟩
    rw [hpc]
    exact nofun
  | first hpc =>
    rw [Receiver.result_toDevice] at hresult
    exact absurd rfl hresult
  | skip k pcapDev pktData geterr hpc =>
    rw [Receiver.result_toDevice] at hresult
    exact absurd rfl hresult
  | invalid => cases hcode
  | valid | lockLists | lockCallback | take | crash | again | noData | wait | wake =>
    exact absurd rfl hresult

/-- The first step is followed by locking the lists. -/
theorem receiveStep_lockLists (h : receiveStep handler s rx reply = some (s', rx'))
    (hpc : rx'.pc = .start ∨ rx'.pc = .lockLists) : rx.pc = .start := by
  have hround : rx'.pc.inRound = false ∧ rx'.pc.result = none := by
    rcases hpc with hpc | hpc <;> rw [hpc] <;> exact ⟨rfl, rfl⟩
  cases receiveStep_case h with
  | valid reply waitUntil hstart => exact hstart
  | first =>
    rw [rx.inRound_toDevice s 0] at hround
    cases hround.1
  | skip k =>
    rw [rx.inRound_toDevice s (k + 1)] at hround
    cases hround.1
  | handle k pcapDev pktData env reassemblers callbackArgs =>
    rcases rx.inRound_afterHandler s k callbackArgs with hnext | hleave
    · rw [hnext] at hround
      cases hround.1
    · rw [hleave] at hround
      cases hround.2
  | invalid | lockLists | lockCallback | refuse | take | pollError | crash | again | noData
  | timeout | wait | wake | waitTimeout | leaveRound | leave =>
    rcases hpc with hpc | hpc <;> cases hpc

theorem receiveStep_unlockCallback (h : receiveStep handler s rx reply = some (s', rx'))
    (hpc : rx.pc = .unlockCallback) : reply = .tau := by
  unfold receiveStep at h
  rw [hpc] at h
  cases reply with
  | tau => rfl
  | clock | next | handled | wait => cases h

/-- A wait begins when the clock has been read. -/
theorem receiveStep_wait (h : receiveStep handler s rx reply = some (s', rx')) {ms : UInt32}
    (hpc : rx'.pc = .wait ms) :
    rx.pc = .timeCheck ∧ ∃ now, reply = .clock now ∧ now < rx.waitUntil ∧
      ms = rx.remainingTimeToWaitMs now := by
  cases receiveStep_case h with
  | wait now hcheck htime =>
    cases hpc
    exact ⟨hcheck, now, rfl, htime, rfl⟩
  | first =>
    have hround := rx.inRound_toDevice s 0
    rw [hpc] at hround
    cases hround
  | skip k =>
    have hround := rx.inRound_toDevice s (k + 1)
    rw [hpc] at hround
    cases hround
  | handle k pcapDev pktData env reassemblers callbackArgs =>
    rcases rx.inRound_afterHandler s k callbackArgs with hnext | hleave
    · rw [hpc] at hnext
      cases hnext
    · rw [hpc] at hleave
      cases hleave
  | invalid | valid | lockLists | lockCallback | refuse | take | pollError | crash | again | noData
  | timeout | wake | waitTimeout | leaveRound | leave => cases hpc

/-- A round begins at first, after a round that has received data, and after a wait. -/
theorem receiveStep_lockCallback (h : receiveStep handler s rx reply = some (s', rx'))
    (hpc : rx'.pc = .lockCallback) :
    s' = s ∧ rx.pc.takes reply = none ∧ (rx.pc = .lockLists ∨
      (rx.pc = .unlockCallback ∧ rx.receivedAnyData = true) ∨ ∃ ms, rx.pc = .wait ms) := by
  cases receiveStep_case h with
  | lockLists hlists =>
    rw [hlists]
    exact ⟨rfl, rfl, Or.inl rfl⟩
  | again hunlock hdata =>
    rw [hunlock]
    exact ⟨rfl, rfl, Or.inr (Or.inl ⟨rfl, hdata⟩)⟩
  | wake ms waitResult lastError error hwait =>
    rw [hwait]
    exact ⟨rfl, rfl, Or.inr (Or.inr ⟨ms, rfl⟩)⟩
  | first =>
    have hround := rx.inRound_toDevice s 0
    rw [hpc] at hround
    cases hround
  | skip k =>
    have hround := rx.inRound_toDevice s (k + 1)
    rw [hpc] at hround
    cases hround
  | handle k pcapDev pktData env reassemblers callbackArgs =>
    rcases rx.inRound_afterHandler s k callbackArgs with hnext | hleave
    · rw [hpc] at hnext
      cases hnext
    · rw [hpc] at hleave
      cases hleave
  | invalid | valid | lockCallback | refuse | take | pollError | crash | noData | timeout | wait
  | waitTimeout | leaveRound | leave => cases hpc

end Steps

end Udpcap
