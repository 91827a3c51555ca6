import Mathlib.Data.Finset.Insert
import Udpcap.Foundation.Refinement
import Udpcap.Session
import Udpcap.SmallPcpp
import Udpcap.SocketSpec

/-!
# What a user of a socket sees

An abstract machine for the calls of one socket: what each call returns, given the calls so
far, and what is left open because it depends on Npcap or asio.  Any session of the socket
is one of its runs.  The machine is that of the code, not that of the documentation: groups
can be left after `close`, and a call may end with an exception of the kickstart.

## Main definitions

* `Phase`, `ApiState` — the state of the machine.
* `ApiEvent` — a call with its result.
* `ApiState.answer`, `ApiState.MayReceive` — what the machine answers.
* `ApiStep` — one step.
* `ApiState.Describes` — how the machine reflects the state of the socket.

## Main results

* `describes_apply` — **every operation is a step of the machine.**
* `receives_step` — a call of `receiveDatagram` is on the way to a result that the machine
  allows.
* `session_allowed` — the machine allows whatever is seen of a session.
-/

namespace Udpcap

open Foundation

variable {R : Type} {np : Npcap} {api : IPReassembly R} {handler : Handler R}

/-! ### The machine -/

/-- What has become of a socket. -/
inductive Phase
  /-- It was neither bound nor closed so far. -/
  | fresh
  | bound (localAddress : HostAddress) (localPort : UInt16)
  | closed
  deriving DecidableEq, Repr

namespace Phase

def isBound : Phase → Bool
  | .bound _ _ => true
  | _ => false

def isClosed : Phase → Bool
  | .closed => true
  | _ => false

def localAddress : Phase → HostAddress
  | .bound localAddress _ => localAddress
  | _ => .invalid

def localPort : Phase → UInt16
  | .bound _ localPort => localPort
  | _ => 0

end Phase

/-- The state of a socket, as its user knows it.  The groups outlast `close`. -/
structure ApiState where
  isValid : Bool
  phase : Phase
  groups : Finset HostAddress
  multicastLoopbackEnabled : Bool
  /-- The size that was set last. -/
  receiveBufferSize : Option Int

/-- A call that has returned. -/
inductive ApiEvent
  | op (op : Op) (result : OpResult)
  | received (result : ℕ) (code : ErrorCode)
  deriving DecidableEq, Repr

namespace ApiState

/-- A new socket. -/
def create (initialized : Bool) : ApiState := ⟨initialized, .fresh, ∅, true, none⟩

/-- `bind` gets as far as opening devices. -/
def mayBind (a : ApiState) (localAddress : HostAddress) : Bool :=
  a.isValid && !a.phase.isBound && localAddress.isValid

/-- The answer to a call of an operation, where `opened` says whether `bind` has opened the
devices of the address, and `throws` whether a kickstart ends with an exception. -/
def answer (a : ApiState) (opened throws : Bool) : Op → ApiState × OpResult
  | .bind _ localAddress localPort =>
    if a.mayBind localAddress && opened then
      ({ a with phase := .bound localAddress localPort }, .returned true)
    else (a, .returned false)
  | .setReceiveBufferSize bufferSize =>
    if a.isValid && !a.phase.isBound && decide (maxPacketSize ≤ bufferSize) then
      ({ a with receiveBufferSize := some bufferSize }, .returned true)
    else (a, .returned false)
  | .joinMulticastGroup g =>
    if a.isValid && g.isMulticast && a.phase.isBound && decide (g ∉ a.groups) then
      ({ a with groups := insert g a.groups },
        if a.multicastLoopbackEnabled && throws then .threw else .returned true)
    else (a, .returned false)
  | .leaveMulticastGroup g =>
    if a.isValid && decide (g ∈ a.groups) then
      ({ a with groups := a.groups.erase g }, .returned true)
    else (a, .returned false)
  | .setMulticastLoopbackEnabled enabled =>
    ({ a with multicastLoopbackEnabled := enabled },
      if enabled && !a.multicastLoopbackEnabled && throws then .threw else .finished)
  | .close => ({ a with phase := .closed }, .finished)

/-- Which devices are opened: for `Any` those that are enumerated, if there are any; for
the address of an adapter, one that is enumerated must have it. -/
def MayOpen (opened : Bool) : Op → Prop
  | .bind alldevs localAddress _ =>
    (localAddress = .any → (opened = true ↔ alldevs.getD [] ≠ [])) ∧
      (opened = true → localAddress.isLoopback = true ∨ localAddress = .any ∨
        ∃ dev ∈ alldevs.getD [], localAddress.toInt ∈ dev.addresses)
  | _ => True

/-- What a call of `receiveDatagram` may return. -/
def MayReceive (a : ApiState) (result : ℕ) (code : ErrorCode) : Prop :=
  if !a.isValid then result = 0 ∧ code = .npcapNotInitialized
  else match a.phase with
    | .fresh => result = 0 ∧ code = .notBound
    | .closed => result = 0 ∧ code = .socketClosed
    | .bound _ _ => code = .ok ∨
        (result = 0 ∧ (code = .timeout ∨ code = .genericError ∨ code = .notBound))

end ApiState

/-- One step of the machine. -/
inductive ApiStep : ApiState → ApiEvent → ApiState → Prop
  | op (a : ApiState) (op : Op) (opened throws : Bool) (hopen : ApiState.MayOpen opened op) :
    ApiStep a (.op op (a.answer opened throws op).2) (a.answer opened throws op).1
  | received (a : ApiState) (result : ℕ) (code : ErrorCode) (h : a.MayReceive result code) :
    ApiStep a (.received result code) a

/-- How the machine reflects the state of the socket, as far as its user can ask for it, and
what it needs to know besides. -/
structure ApiState.Describes (a : ApiState) (s : UdpcapSocket R) : Prop where
  isValid : s.isValid = a.isValid
  isBound : s.isBound = a.phase.isBound
  isClosed : s.isClosed = a.phase.isClosed
  localAddress : s.localAddress = a.phase.localAddress
  localPort : s.localPort = a.phase.localPort
  multicastLoopbackEnabled : s.multicastLoopbackEnabled = a.multicastLoopbackEnabled
  receiveBufferSize : s.receiveBufferSize = a.receiveBufferSize.getD (-1)
  mem_groups : ∀ g, g ∈ s.multicastGroups ↔ g ∈ a.groups
  multicast : ∀ g ∈ s.multicastGroups, g.isMulticast = true

/-! ### What is seen of a session -/

/-- What is seen of a step of a session from `s` to `t`: the result of an operation, and the
result of `receiveDatagram` once it returns. -/
def Session.seen (np : Npcap) (api : IPReassembly R) (s t : Session R) :
    SessionLabel → Option ApiEvent
  | .op op => (s.world.apply np api op).map fun o => .op op o.2
  | .reply _ =>
    if t.returned.length = s.returned.length then none
    else t.returned.getLast?.map fun r => .received r.result r.receiver.error.errorCode
  | .arrive .. | .call _ => none

/-- A step of a session, with what is seen of it. -/
def seenStep (np : Npcap) (api : IPReassembly R) (handler : Handler R) (s : Session R)
    (l : SessionLabel) : Option (Session R × Option ApiEvent) :=
  (sessionStep np api handler s l).map fun t => (t, s.seen np api t l)

/-! ### Operations -/

namespace ApiState.Describes

variable {a : ApiState} {s s' : UdpcapSocket R} {w w' : World R}

theorem create (initialized : Bool) :
    (ApiState.create initialized).Describes (UdpcapSocket.create initialized : UdpcapSocket R) :=
  ⟨rfl, rfl, rfl, rfl, rfl, rfl, rfl, by simp [UdpcapSocket.create, ApiState.create],
    by simp [UdpcapSocket.create]⟩

/-- The machine does not know the devices. -/
theorem of_devices (h : a.Describes s) (pcapDevices : List PcapDev) (handles : List Handle)
    (reassemblers : List (IpReassembly R)) : a.Describes { s with
      pcapDevices := pcapDevices
      pcapWin32Handles := handles
      pcapDevicesIpReassembly := reassemblers } :=
  ⟨h.isValid, h.isBound, h.isClosed, h.localAddress, h.localPort, h.multicastLoopbackEnabled,
    h.receiveBufferSize, h.mem_groups, h.multicast⟩

theorem contains_iff (h : a.Describes s) {g : HostAddress} (hg : g.valid = true) :
    StdSet.contains HostAddress.lt g s.multicastGroups = true ↔ g ∈ a.groups := by
  have hvalid : ∀ b ∈ s.multicastGroups, b.valid = true :=
    fun b hb => HostAddress.valid_of_isMulticast (h.multicast b hb)
  rw [StdSet.contains_iff_mem (HostAddress.separates_of_valid hg hvalid), h.mem_groups]

end ApiState.Describes

/-! ### Which devices are opened -/

namespace World

variable {w w' : World R}

theorem findDevice_mem (np : Npcap) (ip : HostAddress) (devices : List PcapIf) (w : World R)
    {dev : DeviceName × List Char} (h : (w.findDevice np ip devices).2 = some dev)
    (hname : dev.1 ≠ []) : ∃ d ∈ devices, ip.toInt ∈ d.addresses := by
  induction devices generalizing w with
  | nil =>
    cases h
    exact absurd rfl hname
  | cons d devices ih =>
    rw [findDevice] at h
    simp only at h
    split at h
    · obtain ⟨d', hd', hip⟩ := ih _ h
      exact ⟨d', List.mem_cons_of_mem _ hd', hip⟩
    · split at h
      next hip => exact ⟨d, List.mem_cons_self, hip⟩
      next =>
        obtain ⟨d', hd', hip⟩ := ih _ h
        exact ⟨d', List.mem_cons_of_mem _ hd', hip⟩

theorem getDeviceByIp_mem (np : Npcap) (w : World R) (alldevs : DeviceList) (ip : HostAddress)
    {dev : DeviceName × List Char} (h : (w.getDeviceByIp np alldevs ip).2 = some dev)
    (hname : dev.1 ≠ []) : ∃ d ∈ alldevs.getD [], ip.toInt ∈ d.addresses := by
  unfold getDeviceByIp at h
  split at h
  · cases h
    exact absurd rfl hname
  · exact findDevice_mem np ip _ w h hname

/-- There are as many devices as are enumerated. -/
theorem length_getAllDevices {alldevs : DeviceList} {devices : List (DeviceName × List Char)}
    (h : getAllDevices alldevs = some devices) : devices.length = (alldevs.getD []).length := by
  unfold getAllDevices at h
  generalize alldevs.getD [] = list at h
  induction list generalizing devices with
  | nil =>
    cases h
    rfl
  | cons dev list ih =>
    rw [List.mapM_cons] at h
    obtain ⟨names, -, h⟩ := Option.bind_eq_some_iff.mp h
    obtain ⟨later, hlater, h⟩ := Option.bind_eq_some_iff.mp h
    cases h
    rw [List.length_cons, List.length_cons, ih hlater]

/-- **Which devices are opened**, as far as the machine knows. -/
theorem mayOpen_openDevices {alldevs : DeviceList} {localAddress : HostAddress} {ok : Bool}
    (h : w.openDevices np api alldevs localAddress = some (w', ok)) (localPort : UInt16) :
    ApiState.MayOpen ok (.bind alldevs localAddress localPort) := by
  have hnot : HostAddress.eq localAddress .any = false → localAddress ≠ .any := by
    rintro hany rfl
    cases hany
  unfold ApiState.MayOpen
  cases openDevices_case h with
  | loopback hloopback =>
    refine ⟨?_, fun _ => Or.inl hloopback⟩
    rintro rfl
    cases hloopback
  | noDevices _ _ hdevices =>
    have hlength := length_getAllDevices hdevices
    refine ⟨fun _ => ⟨nofun, ?_⟩, nofun⟩
    intro hne
    exact absurd (List.length_eq_zero_iff.mp hlength.symm) hne
  | all devices _ hany hdevices hne =>
    have hlength := length_getAllDevices hdevices
    refine ⟨fun _ => ⟨fun _ => ?_, fun _ => rfl⟩,
      fun _ => Or.inr (Or.inl (HostAddress.eq_iff.mp hany))⟩
    intro hnil
    rw [hnil] at hlength
    exact hne (List.length_eq_zero_iff.mp hlength)
  | notFound dev _ hany => exact ⟨fun heq => absurd heq (hnot hany), nofun⟩
  | adapterFails dev v _ hany => exact ⟨fun heq => absurd heq (hnot hany), nofun⟩
  | adapterOpens dev v _ hany hfind hname =>
    exact ⟨fun heq => absurd heq (hnot hany), fun _ =>
      Or.inr (Or.inr (getDeviceByIp_mem np w alldevs localAddress hfind hname))⟩

end World

/-! ### Every operation is a step -/

/-- An operation is answered as the machine answers it. -/
def Answers (a : ApiState) (op : Op) (s : UdpcapSocket R) (out : OpResult) : Prop :=
  ∃ opened throws, ApiState.MayOpen opened op ∧ (a.answer opened throws op).2 = out ∧
    (a.answer opened throws op).1.Describes s

namespace ApiState.Describes

variable {a : ApiState} {w w' : World R}

theorem bind (h : a.Describes w.socket) {alldevs : DeviceList} {localAddress : HostAddress}
    {localPort : UInt16} {ok : Bool}
    (hbind : w.bind np api alldevs localAddress localPort = some (w', ok)) :
    Answers a (.bind alldevs localAddress localPort) w'.socket (.returned ok) := by
  have hbound : w.socket.boundState = a.phase.isBound := h.isBound
  cases hmay : a.mayBind localAddress with
  | false =>
    have hrefused : w.bind np api alldevs localAddress localPort = some (w, false) := by
      unfold ApiState.mayBind at hmay
      unfold World.bind
      rw [h.isValid, hbound]
      cases hvalid : a.isValid <;> cases hphase : a.phase.isBound <;>
        cases haddress : localAddress.isValid <;> simp [hvalid, hphase, haddress] at hmay ⊢
    rw [hbind] at hrefused
    cases hrefused
    refine ⟨decide (localAddress = .any ∧ alldevs.getD [] ≠ []), false, ?_, ?_, ?_⟩
    · refine ⟨fun hany => by simp [hany], fun hopen => Or.inr (Or.inl ?_)⟩
      exact (of_decide_eq_true hopen).1
    · simp [ApiState.answer, hmay]
    · simpa [ApiState.answer, hmay] using h
  | true =>
    unfold ApiState.mayBind at hmay
    rw [Bool.and_eq_true, Bool.and_eq_true, Bool.not_eq_true'] at hmay
    obtain ⟨⟨hvalid, hunbound⟩, haddress⟩ := hmay
    unfold World.bind at hbind
    rw [h.isValid, hvalid, hbound, hunbound, haddress] at hbind
    obtain ⟨⟨v, opened⟩, hopen, heq⟩ := Option.map_eq_some_iff.mp hbind
    obtain ⟨devices, hopens⟩ := World.openDevices_opens hopen
    have hmay : a.mayBind localAddress = true := by
      simp [ApiState.mayBind, hvalid, hunbound, haddress]
    have hv : a.Describes v.socket := by
      rw [hopens.socket_eq]
      exact h.of_devices _ _ _
    refine ⟨opened, false, World.mayOpen_openDevices hopen localPort, ?_⟩
    cases opened with
    | false =>
      cases heq
      simp only [ApiState.answer, Bool.and_false, Bool.false_eq_true, if_false, true_and]
      exact hv
    | true =>
      cases heq
      simp only [ApiState.answer, hmay, Bool.and_true, if_true, true_and]
      rw [World.finishBind_socket]
      exact ⟨hv.isValid, rfl, rfl, rfl, rfl, hv.multicastLoopbackEnabled, hv.receiveBufferSize,
        hv.mem_groups, hv.multicast⟩

theorem setReceiveBufferSize (h : a.Describes w.socket) (n : Int) :
    Answers a (.setReceiveBufferSize n) (w.setReceiveBufferSize n).1.socket
      (.returned (w.setReceiveBufferSize n).2) := by
  have hbound : w.socket.boundState = a.phase.isBound := h.isBound
  refine ⟨false, false, trivial, ?_⟩
  unfold World.setReceiveBufferSize ApiState.answer
  rw [h.isValid, hbound]
  cases hvalid : a.isValid with
  | false => exact ⟨rfl, h⟩
  | true =>
    cases hphase : a.phase.isBound with
    | true => exact ⟨rfl, h⟩
    | false =>
      by_cases hsize : n < maxPacketSize
      · simp only [hsize, not_le.mpr hsize, Bool.not_true, Bool.not_false, Bool.and_true,
          Bool.false_eq_true, decide_false, Bool.and_false, if_true, if_false, true_and]
        exact h
      · simp only [hsize, not_lt.mp hsize, Bool.not_true, Bool.not_false, Bool.and_true,
          Bool.false_eq_true, decide_true, if_true, if_false, true_and]
        exact ⟨hvalid ▸ h.isValid, hphase ▸ h.isBound, h.isClosed, h.localAddress, h.localPort,
          h.multicastLoopbackEnabled, rfl, h.mem_groups, h.multicast⟩

theorem joinGranted_iff (h : a.Describes w.socket) (g : HostAddress) : w.JoinGranted g ↔
    (a.isValid && g.isMulticast && a.phase.isBound && decide (g ∉ a.groups)) = true := by
  simp only [Bool.and_eq_true, decide_eq_true_eq, and_assoc]
  constructor
  · rintro ⟨hvalid, hg, hmulticast, hbound, hnew⟩
    refine ⟨h.isValid ▸ hvalid, hmulticast, h.isBound ▸ hbound, ?_⟩
    rw [← h.contains_iff hg, hnew]
    exact Bool.false_ne_true
  · rintro ⟨hvalid, hmulticast, hphase, hnew⟩
    have hg := HostAddress.valid_of_isMulticast hmulticast
    refine ⟨h.isValid.trans hvalid, hg, hmulticast, h.isBound.trans hphase, ?_⟩
    rw [← h.contains_iff hg, Bool.not_eq_true] at hnew
    exact hnew

theorem joinMulticastGroup (h : a.Describes w.socket) (np : Npcap) (g : HostAddress) :
    Answers a (.joinMulticastGroup g) (w.joinMulticastGroup np g).1.socket
      (w.joinMulticastGroup np g).2 := by
  refine ⟨false, (w.joined np g).kickstartThrows np, trivial, ?_⟩
  simp only [ApiState.answer]
  by_cases hgranted : w.JoinGranted g
  · have hmulticast := hgranted.isMulticast
    rw [if_pos ((h.joinGranted_iff g).mp hgranted), World.joinMulticastGroup_of_granted np hgranted]
    have hsocket : (if w.socket.multicastLoopbackEnabled then
        ((w.joined np g).kickstartLoopbackMulticast np).1 else w.joined np g).socket =
          { w.socket with
            multicastGroups := StdSet.emplace HostAddress.lt g w.socket.multicastGroups } := by
      split <;> simp
    have hsep := HostAddress.separates_of_valid (HostAddress.valid_of_isMulticast hmulticast)
      fun b hb => HostAddress.valid_of_isMulticast (h.multicast b hb)
    rw [hsocket]
    refine ⟨?_, h.isValid, h.isBound, h.isClosed, h.localAddress, h.localPort,
      h.multicastLoopbackEnabled, h.receiveBufferSize, ?_, ?_⟩
    · simp [World.JoinThrows, h.multicastLoopbackEnabled]
    · intro k
      rw [StdSet.mem_emplace hsep, Finset.mem_insert, h.mem_groups]
    · intro k hk
      rcases (StdSet.mem_emplace hsep).mp hk with rfl | hk
      · exact hmulticast
      · exact h.multicast k hk
  · rw [if_neg fun hjoin => hgranted ((h.joinGranted_iff g).mpr hjoin),
      World.joinMulticastGroup_of_refused np hgranted]
    exact ⟨rfl, h⟩

theorem leaveMulticastGroup (h : a.Describes w.socket) (g : HostAddress) :
    Answers a (.leaveMulticastGroup g) (w.leaveMulticastGroup np g).1.socket
      (.returned (w.leaveMulticastGroup np g).2) := by
  refine ⟨false, false, trivial, ?_⟩
  have hanswer : (w.leaveMulticastGroup np g).2 = true ↔
      (a.isValid && decide (g ∈ a.groups)) = true := by
    rw [World.leaveMulticastGroup_eq_true, h.isValid]
    simp only [Bool.and_eq_true, decide_eq_true_eq]
    constructor
    · rintro ⟨hvalid, hg, hmem⟩
      exact ⟨hvalid, (h.contains_iff hg).mp hmem⟩
    · rintro ⟨hvalid, hmem⟩
      have hg := HostAddress.valid_of_isMulticast (h.multicast g ((h.mem_groups g).mpr hmem))
      exact ⟨hvalid, hg, (h.contains_iff hg).mpr hmem⟩
  simp only [ApiState.answer]
  rcases w.leaveMulticastGroup_cases np g with ⟨hfalse, heq⟩ | ⟨htrue, hvalid, v, hv, heq⟩
  · rw [hfalse] at hanswer
    rw [if_neg fun hleave => Bool.false_ne_true (hanswer.mpr hleave), hfalse, heq]
    exact ⟨rfl, h⟩
  · have hsep := HostAddress.separates_of_valid hvalid
      fun b hb => HostAddress.valid_of_isMulticast (h.multicast b hb)
    rw [if_pos (hanswer.mp htrue), htrue, heq, World.updateAllCaptureFilters_socket, hv]
    refine ⟨rfl, h.isValid, h.isBound, h.isClosed, h.localAddress, h.localPort,
      h.multicastLoopbackEnabled, h.receiveBufferSize, ?_, ?_⟩
    · intro k
      rw [StdSet.mem_erase hsep, Finset.mem_erase, h.mem_groups, and_comm]
    · intro k hk
      exact h.multicast k ((StdSet.mem_erase hsep).mp hk).1

theorem setMulticastLoopbackEnabled (h : a.Describes w.socket) (np : Npcap) (enabled : Bool) :
    Answers a (.setMulticastLoopbackEnabled enabled)
      (w.setMulticastLoopbackEnabled np enabled).1.socket
      (w.setMulticastLoopbackEnabled np enabled).2 := by
  have hflag : ∀ s : UdpcapSocket R, s = { w.socket with multicastLoopbackEnabled := enabled } →
      { a with multicastLoopbackEnabled := enabled }.Describes s := by
    rintro s rfl
    exact ⟨h.isValid, h.isBound, h.isClosed, h.localAddress, h.localPort, rfl,
      h.receiveBufferSize, h.mem_groups, h.multicast⟩
  rcases w.setMulticastLoopbackEnabled_cases np enabled with
    ⟨hsame, heq⟩ | ⟨v, hv, -, heq⟩ | ⟨v, hv, rfl, hdisabled, -, heq⟩
  · rw [heq]
    refine ⟨false, false, trivial, by simp [ApiState.answer], hflag _ ?_⟩
    rw [← hsame]
  · rw [heq]
    refine ⟨false, false, trivial, by simp [ApiState.answer], hflag _ ?_⟩
    rw [World.updateAllCaptureFilters_socket, hv]
  · rw [heq]
    refine ⟨false, true, trivial, ?_, hflag _ ?_⟩
    · simp [ApiState.answer, ← h.multicastLoopbackEnabled, hdisabled]
    · rw [World.kickstartLoopbackMulticast_socket, hv]

theorem close (h : a.Describes w.socket) : Answers a .close w.close.socket .finished := by
  refine ⟨false, false, trivial, rfl, ?_⟩
  rw [World.close_socket]
  exact ⟨h.isValid, rfl, rfl, rfl, rfl, h.multicastLoopbackEnabled, h.receiveBufferSize,
    h.mem_groups, h.multicast⟩

end ApiState.Describes

/-- **Every operation is a step of the machine.** -/
theorem describes_apply {a : ApiState} {w w' : World R} (h : a.Describes w.socket) {op : Op}
    {out : OpResult} (hop : w.apply np api op = some (w', out)) :
    Answers a op w'.socket out := by
  cases op with
  | bind alldevs localAddress localPort =>
    obtain ⟨⟨v, ok⟩, hbind, heq⟩ := Option.map_eq_some_iff.mp hop
    cases heq
    exact h.bind hbind
  | setReceiveBufferSize n =>
    cases hop
    exact h.setReceiveBufferSize n
  | joinMulticastGroup g =>
    have hjoin := h.joinMulticastGroup np g
    rw [Option.some.inj hop] at hjoin
    exact hjoin
  | leaveMulticastGroup g =>
    cases hop
    exact h.leaveMulticastGroup g
  | setMulticastLoopbackEnabled enabled =>
    have hset := h.setMulticastLoopbackEnabled np enabled
    rw [Option.some.inj hop] at hset
    exact hset
  | close =>
    cases hop
    exact h.close

/-! ### Receiving -/

/-- A round is in progress, or over without a result. -/
def Pc.atWork : Pc → Bool
  | .poll .. | .handle .. | .unlockCallback | .timeCheck | .wait _ => true
  | _ => false

/-- A call of `receiveDatagram` is on the way to a result that the machine allows. -/
structure Receiver.OnTheWay (a : ApiState) (rx : Receiver) : Prop where
  valid : rx.pc ≠ .start → rx.pc.result = none → a.isValid = true
  bound : rx.pc.atWork = true → a.phase.isBound = true
  allowed : ∀ n, rx.pc.result = some n → a.MayReceive n rx.error.errorCode

theorem ApiState.mayReceive_bound {a : ApiState} (hvalid : a.isValid = true)
    (hbound : a.phase.isBound = true) {n : ℕ} {code : ErrorCode} : a.MayReceive n code ↔
      code = .ok ∨ (n = 0 ∧ (code = .timeout ∨ code = .genericError ∨ code = .notBound)) := by
  unfold ApiState.MayReceive
  rw [hvalid]
  cases hphase : a.phase with
  | fresh | closed =>
    rw [hphase] at hbound
    cases hbound
  | bound localAddress localPort => rfl

namespace Receiver.OnTheWay

variable {a : ApiState} {s s' : UdpcapSocket R} {rx rx' : Receiver} {reply : Reply}

/-- A call that goes on with a bound socket. -/
theorem goesOn (hvalid : a.isValid = true) (hbound : a.phase.isBound = true)
    (hresult : rx.pc.result = none) : rx.OnTheWay a where
  valid := fun _ _ => hvalid
  bound := fun _ => hbound
  allowed := by
    intro n hn
    rw [hresult] at hn
    cases hn

/-- A call that ends without a datagram. -/
theorem ends {n : ℕ} (hresult : rx.pc.result = some n) (hwork : rx.pc.atWork = false)
    (hallowed : a.MayReceive n rx.error.errorCode) : rx.OnTheWay a where
  valid := by
    intro _ hnone
    rw [hresult] at hnone
    cases hnone
  bound := by
    intro htrue
    rw [hwork] at htrue
    cases htrue
  allowed := by
    intro m hm
    rw [hresult] at hm
    cases hm
    exact hallowed

theorem afterStart (h : a.Describes s) (waitUntil : Int) :
    (rx.afterStart s waitUntil).OnTheWay a := by
  unfold Receiver.afterStart
  rw [h.isValid]
  cases hvalid : a.isValid with
  | false =>
    refine ends rfl rfl ?_
    simp [ApiState.MayReceive, hvalid, Error.assignCode]
  | true => exact ⟨fun _ _ => hvalid, nofun, nofun⟩

theorem afterChecks (h : a.Describes s) (hvalid : a.isValid = true) :
    (rx.afterChecks s).OnTheWay a := by
  have hbound : s.boundState = a.phase.isBound := h.isBound
  have hclosed : s.pcapDevicesClosed = a.phase.isClosed := h.isClosed
  unfold Receiver.afterChecks
  rw [hbound, hclosed]
  cases hphase : a.phase with
  | fresh =>
    refine ends (n := 0) rfl rfl ?_
    simp [ApiState.MayReceive, hvalid, hphase, Error.assignCode, Receiver.fail, Phase.isClosed,
      Phase.isBound]
  | closed =>
    refine ends (n := 0) rfl rfl ?_
    simp [ApiState.MayReceive, hvalid, hphase, Error.assignCode, Receiver.fail, Phase.isClosed]
  | bound localAddress localPort =>
    have hwork : a.phase.isBound = true := by rw [hphase]; rfl
    exact goesOn hvalid hwork (Receiver.result_toDevice rx s 0)

theorem afterNext (hvalid : a.isValid = true) (hbound : a.phase.isBound = true) (k : ℕ)
    (pcapDev : PcapDev) (errorcode : Int) (pktData : Bytes) (geterr : String) :
    (rx.afterNext s k pcapDev errorcode pktData geterr).OnTheWay a := by
  unfold Receiver.afterNext
  split
  · exact goesOn hvalid hbound rfl
  · split
    · exact goesOn hvalid hbound (Receiver.result_toDevice rx s (k + 1))
    · split
      · refine ends (n := 0) rfl rfl ((ApiState.mayReceive_bound hvalid hbound).mpr ?_)
        simp [Receiver.fail]
      · split
        · refine ends (n := 0) rfl rfl ((ApiState.mayReceive_bound hvalid hbound).mpr ?_)
          simp [Receiver.fail]
        · refine ends (n := 0) rfl rfl ((ApiState.mayReceive_bound hvalid hbound).mpr ?_)
          simp [Receiver.fail]

theorem afterHandler (hvalid : a.isValid = true) (hbound : a.phase.isBound = true) (k : ℕ)
    (callbackArgs : CallbackArgsRawPtr) : (rx.afterHandler s k callbackArgs).OnTheWay a := by
  unfold Receiver.afterHandler
  simp only
  split
  · refine ends rfl rfl ((ApiState.mayReceive_bound hvalid hbound).mpr ?_)
    exact Or.inl rfl
  · exact goesOn hvalid hbound (Receiver.result_toDevice _ s (k + 1))

/-- **A call is on the way to a result that the machine allows.** -/
theorem step (h : a.Describes s) (hrx : rx.OnTheWay a)
    (hstep : receiveStep handler s rx reply = some (s', rx')) : rx'.OnTheWay a := by
  -- what is known where the call works with the devices
  have hwork : rx.pc.atWork = true → a.isValid = true ∧ a.phase.isBound = true := by
    intro hw
    refine ⟨hrx.valid ?_ ?_, hrx.bound hw⟩
    · intro hpc
      rw [hpc] at hw
      cases hw
    · cases hpc : rx.pc <;> rw [hpc] at hw <;> first | rfl | cases hw
  have htimeout : ∀ pc : Pc, pc.atWork = true → rx.pc = pc →
      ({ rx with error := rx.error.assignCode .timeout, pc := .leave 0 } : Receiver).OnTheWay
        a := by
    rintro pc hpc rfl
    obtain ⟨hvalid, hbound⟩ := hwork hpc
    refine ends (n := 0) rfl rfl ((ApiState.mayReceive_bound hvalid hbound).mpr ?_)
    exact Or.inr ⟨rfl, Or.inl rfl⟩
  unfold receiveStep at hstep
  split at hstep
  case h_1 =>
    split at hstep
    · cases hstep
      exact afterStart h _
    · cases hstep
  case h_2 =>
    split at hstep
    · cases hstep
      exact afterStart h _
    · cases hstep
  case h_3 hpc =>
    cases hstep
    have hvalid := hrx.valid (by rw [hpc]; nofun) (by rw [hpc]; rfl)
    exact ⟨fun _ _ => hvalid, nofun, nofun⟩
  case h_4 hpc =>
    cases hstep
    have hvalid := hrx.valid (by rw [hpc]; nofun) (by rw [hpc]; rfl)
    exact ⟨fun _ _ => hvalid, nofun, nofun⟩
  case h_5 hpc =>
    cases hstep
    exact afterChecks h (hrx.valid (by rw [hpc]; nofun) (by rw [hpc]; rfl))
  case h_6 k pcapDev errorcode pktData geterr hpc =>
    cases hstep
    obtain ⟨hvalid, hbound⟩ := hwork (by rw [hpc]; rfl)
    exact afterNext hvalid hbound k pcapDev errorcode pktData geterr
  case h_7 k pcapDev pktData env hpc =>
    obtain ⟨hvalid, hbound⟩ := hwork (by rw [hpc]; rfl)
    split at hstep
    · cases hstep
      exact goesOn hvalid hbound rfl
    · cases hstep
      exact afterHandler hvalid hbound k _
  case h_8 hpc =>
    cases hstep
    obtain ⟨hvalid, hbound⟩ := hwork (by rw [hpc]; rfl)
    refine goesOn hvalid hbound ?_
    unfold Receiver.afterRound
    simp only
    split <;> rfl
  case h_9 now hpc =>
    cases hstep
    obtain ⟨hvalid, hbound⟩ := hwork (by rw [hpc]; rfl)
    unfold Receiver.afterTimeCheck
    split
    · exact htimeout .timeCheck rfl hpc
    · exact goesOn hvalid hbound rfl
  case h_10 ms waitResult lastError hpc =>
    cases hstep
    obtain ⟨hvalid, hbound⟩ := hwork (by rw [hpc]; rfl)
    unfold Receiver.afterWait
    simp only
    split
    · exact goesOn hvalid hbound rfl
    · split
      · exact goesOn hvalid hbound rfl
      · split
        · exact htimeout (.wait ms) rfl hpc
        · exact goesOn hvalid hbound rfl
  case h_11 n hpc | h_12 n hpc =>
    cases hstep
    exact ends rfl rfl (hrx.allowed n (by rw [hpc]; rfl))
  case h_13 => cases hstep

end Receiver.OnTheWay

/-! ### Sessions -/

/-- How the machine reflects a session. -/
structure ApiState.Reflects (a : ApiState) (s : Session R) : Prop where
  describes : a.Describes s.world.socket
  onTheWay : ∀ c ∈ s.current, c.receiver.OnTheWay a

/-- **A step of a session is a step of the machine, or not seen at all.** -/
theorem ApiState.Reflects.step {a : ApiState} {s t : Session R} {l : SessionLabel}
    {b : Option ApiEvent} (h : a.Reflects s) (hstep : seenStep np api handler s l = some (t, b)) :
    (b = none ∧ a.Reflects t) ∨ ∃ c a', b = some c ∧ ApiStep a c a' ∧ a'.Reflects t := by
  obtain ⟨t', hsession, heq⟩ := Option.map_eq_some_iff.mp hstep
  cases heq
  rcases sessionStep_cases hsession with ⟨k, pktData, rfl, rfl⟩ |
    ⟨op, w, out, rfl, hcurrent, hop, rfl⟩ | ⟨args, rfl, -, rfl⟩ | ⟨reply, c, rx, rfl, heffect⟩
  · exact Or.inl ⟨rfl, h.describes, h.onTheWay⟩
  · right
    obtain ⟨opened, throws, hopen, hout, hdescribes⟩ := describes_apply h.describes hop
    refine ⟨.op op out, (a.answer opened throws op).1, ?_, ?_, hdescribes, ?_⟩
    · simp [Session.seen, hop]
    · rw [← hout]
      exact .op a op opened throws hopen
    · intro c hc
      have hnone : s.current = some c := hc
      rw [hcurrent] at hnone
      cases hnone
  · refine Or.inl ⟨rfl, h.describes, ?_⟩
    intro c hc
    cases hc
    exact ⟨fun hpc => absurd rfl hpc, nofun, nofun⟩
  · have hway := (h.onTheWay c heffect.current_eq).step h.describes heffect.step
    obtain ⟨reassemblers, hsocket⟩ := receiveStep_socket heffect.step
    have hdescribes : a.Describes t.world.socket := by
      rw [hsocket]
      exact h.describes.of_devices _ _ reassemblers
    rcases heffect.proceeds _ rfl with ⟨hcurrent, hreturned⟩ | ⟨hcurrent, n, hpc, hreturned⟩
    · left
      refine ⟨?_, hdescribes, ?_⟩
      · simp [Session.seen, hreturned]
      · intro c' hc'
        rw [hcurrent] at hc'
        cases hc'
        exact hway
    · right
      refine ⟨.received n rx.error.errorCode, a, ?_, ?_, hdescribes, ?_⟩
      · simp [Session.seen, hreturned]
      · exact .received a n _ (hway.allowed n (by rw [hpc]; rfl))
      · intro c' hc'
        rw [hcurrent] at hc'
        cases hc'

/-- **Whatever is seen of a session, the machine allows it**: every operation returns what
the calls so far determine, up to whether devices could be opened and whether a kickstart
throws, and `receiveDatagram` fails with the error that fits the state of the socket; and the
socket reports the state of the machine at the end. -/
theorem session_allowed (np : Npcap) (api : IPReassembly R) (handler : Handler R)
    (initialized : Bool) (driver : Driver) (helpers : NpcapHelpers) (labels : List SessionLabel)
    (t : Session R) (events : List ApiEvent)
    (h : observe (seenStep np api handler)
      (Session.start (World.create initialized driver helpers)) labels = some (t, events)) :
    ∃ a, Allows ApiStep (ApiState.create initialized) events a ∧ a.Describes t.world.socket := by
  have hstart : (ApiState.create initialized).Reflects
      (Session.start (World.create initialized driver helpers) : Session R) :=
    ⟨.create initialized, fun c hc => absurd hc (Option.not_mem_none c)⟩
  obtain ⟨a, hallows, hreflects⟩ := allows_of_simulation
    (R := fun (s : Session R) (a : ApiState) => a.Reflects s)
    (fun _ _ _ _ _ hs hst => hs.step hst) hstart h
  exact ⟨a, hallows, hreflects.describes⟩

/-- A socket is bound to the loopback device, joins a group, is closed, leaves the group,
and `receiveDatagram` is called. -/
theorem session_allowed_after_close :
    let np := Npcap.ofLinkTypes fun _ => linktypeNull
    let handler := packetHandlerRawPtr SmallPcpp.pcpp SmallPcpp.api
    let start : Session SmallPcpp.Reassembler :=
      Session.start (World.create true ⟨0, []⟩ .initial)
    let group := HostAddress.ofInt 0x010000EF
    let ops : List Op := [.bind none .localHost 5000, .joinMulticastGroup group, .close,
      .leaveMulticastGroup group]
    let args : ReceiveArgs := ⟨[], 0, le_rfl, -1, none, none, .ofCode .ok⟩
    let labels : List SessionLabel :=
      ops.map .op ++ .call args :: List.replicate 6 (.reply .tau)
    let events : List ApiEvent := [.op (.bind none .localHost 5000) (.returned true),
      .op (.joinMulticastGroup group) (.returned true), .op .close .finished,
      .op (.leaveMulticastGroup group) (.returned true), .received 0 .socketClosed]
    ∃ t, observe (seenStep np SmallPcpp.api handler) start labels = some (t, events) ∧
      ∃ a, Allows ApiStep (ApiState.create true) events a ∧ a.Describes t.world.socket := by
  intro np handler start group ops args labels events
  have hevents : (observe (seenStep np SmallPcpp.api handler) start labels).map Prod.snd =
      some events := by decide +kernel
  obtain ⟨⟨t, events'⟩, hobserve, heq⟩ := Option.map_eq_some_iff.mp hevents
  rw [show events' = events from heq] at hobserve
  exact ⟨t, hobserve, session_allowed np SmallPcpp.api handler true ⟨0, []⟩ .initial labels t events
    hobserve⟩

end Udpcap
