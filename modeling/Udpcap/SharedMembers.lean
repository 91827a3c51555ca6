import Udpcap.CloseProtocol
import Udpcap.Foundation.Footprint

/-!
# What the functions of a socket share

The members that a step of `receiveDatagram`, of `close` and of the three functions for
multicast groups reads and writes.

## Main definitions

* `Member` — what the functions share.
* `Pc.footprint`, `CloserPc.footprint`, `membershipFootprint` — what they read and write.
* `MembershipCall.body` — the functions for multicast groups, access by access.
* `MembershipCall.apply` — the same functions as operations of the socket.

## Main results

* `exec_membershipCall` — undisturbed, access by access they do what they do as a whole.
* `receiveStep_within`, `closerStep_within`, `body_within` — **the footprints are right.**
-/

namespace Udpcap

open Foundation

variable {R : Type}

/-! ### What the threads share -/

/-- A data member of `UdpcapSocketPrivate`, or what its functions change outside of it. -/
inductive Member
  | isValid
  | boundState
  | boundAddress
  | boundPort
  | multicastGroups
  | multicastLoopbackEnabled
  | pcapDevicesClosed
  | pcapDevices
  | pcapWin32Handles
  | pcapDevicesIpReassembly
  | receiveBufferSize
  /-- What Npcap has been asked for. -/
  | driver
  /-- The globals of `npcap_helpers.cpp`. -/
  | helpers
  deriving DecidableEq, Repr

/-- The cells of a socket and its environment. -/
def worldCells (R : Type) : Cells Member (World R) where
  Value
    | .isValid | .boundState | .multicastLoopbackEnabled | .pcapDevicesClosed => Bool
    | .boundAddress => HostAddress
    | .boundPort => UInt16
    | .multicastGroups => List HostAddress
    | .pcapDevices => List PcapDev
    | .pcapWin32Handles => List Handle
    | .pcapDevicesIpReassembly => List (IpReassembly R)
    | .receiveBufferSize => Int
    | .driver => Driver
    | .helpers => NpcapHelpers
  read
    | .isValid => fun w => w.socket.isValid
    | .boundState => fun w => w.socket.boundState
    | .boundAddress => fun w => w.socket.boundAddress
    | .boundPort => fun w => w.socket.boundPort
    | .multicastGroups => fun w => w.socket.multicastGroups
    | .multicastLoopbackEnabled => fun w => w.socket.multicastLoopbackEnabled
    | .pcapDevicesClosed => fun w => w.socket.pcapDevicesClosed
    | .pcapDevices => fun w => w.socket.pcapDevices
    | .pcapWin32Handles => fun w => w.socket.pcapWin32Handles
    | .pcapDevicesIpReassembly => fun w => w.socket.pcapDevicesIpReassembly
    | .receiveBufferSize => fun w => w.socket.receiveBufferSize
    | .driver => fun w => w.driver
    | .helpers => fun w => w.helpers
  ext := by
    rintro ⟨⟨⟩, driver, helpers⟩ ⟨⟨⟩, driver', helpers'⟩ h
    have hdriver := h .driver
    have hhelpers := h .helpers
    simp only at hdriver hhelpers
    simp only [World.mk.injEq, UdpcapSocket.mk.injEq]
    exact ⟨⟨h .isValid, h .boundState, h .boundAddress, h .boundPort, h .multicastGroups,
      h .multicastLoopbackEnabled, h .pcapDevicesClosed, h .pcapDevices, h .pcapWin32Handles,
      h .pcapDevicesIpReassembly, h .receiveBufferSize⟩, hdriver, hhelpers⟩

/-! ### What a call of `receiveDatagram` touches -/

/-- The members that the checks at the start of a round read: the bound state only when the
socket is not closed, the devices only when it is bound. -/
def checksReads (s : UdpcapSocket R) : List Member :=
  if s.pcapDevicesClosed then [.pcapDevicesClosed]
  else if !s.boundState then [.pcapDevicesClosed, .boundState]
  else [.pcapDevicesClosed, .boundState, .pcapDevices]

/-- The members that the next step of a call reads and writes. -/
def Pc.footprint (s : UdpcapSocket R) : Pc → Footprint Member
  | .start => ⟨[.isValid], []⟩
  | .checks => ⟨checksReads s, []⟩
  | .poll .. => ⟨[.boundPort, .pcapDevices], []⟩
  | .handle .. => ⟨[.boundPort, .pcapDevices], [.pcapDevicesIpReassembly]⟩
  | .wait _ => ⟨[.pcapWin32Handles], []⟩
  | .lockLists | .lockCallback | .unlockCallback | .timeCheck | .leaveRound _ | .leave _
  | .returned _ | .crashed => .empty

/-- A step of `receiveDatagram`, on the socket and its environment. -/
def receiveWorld (handler : Handler R) (rx : Receiver) (reply : Reply) (w : World R) :
    Option (World R × Receiver) :=
  (receiveStep handler w.socket rx reply).map fun o => ({ w with socket := o.1 }, o.2)

/-- The step on another socket, when its outcome on the first one is known. -/
def Pc.replay (t u : World R) : Pc → World R
  | .handle .. => { t with socket.pcapDevicesIpReassembly := u.socket.pcapDevicesIpReassembly }
  | _ => t

namespace Receiver

variable {s t : UdpcapSocket R}

theorem toDevice_congr (rx : Receiver) (h : t.pcapDevices = s.pcapDevices) (k : ℕ) :
    rx.toDevice t k = rx.toDevice s k := by simp [toDevice, h]

theorem afterNext_congr (rx : Receiver) (h : t.pcapDevices = s.pcapDevices) (k : ℕ)
    (pcapDev : PcapDev) (errorcode : Int) (pktData : Bytes) (geterr : String) :
    rx.afterNext t k pcapDev errorcode pktData geterr =
      rx.afterNext s k pcapDev errorcode pktData geterr := by
  simp [afterNext, rx.toDevice_congr h]

theorem afterHandler_congr (rx : Receiver) (h : t.pcapDevices = s.pcapDevices) (k : ℕ)
    (callbackArgs : CallbackArgsRawPtr) :
    rx.afterHandler t k callbackArgs = rx.afterHandler s k callbackArgs := by
  simp [afterHandler, toDevice_congr _ h]

theorem afterWait_congr (rx : Receiver) (h : t.pcapWin32Handles = s.pcapWin32Handles)
    (waitResult : UInt32) (lastError : String) :
    rx.afterWait t waitResult lastError = rx.afterWait s waitResult lastError := by
  have hn : numHandles t = numHandles s := by
    unfold numHandles
    rw [h]
  unfold afterWait
  rw [hn]

/-- The checks at the start of a round depend on nothing else. -/
theorem afterChecks_congr (rx : Receiver) {w u : World R}
    (h : (worldCells R).Agree ⟨checksReads w.socket, []⟩ w u) :
    rx.afterChecks u.socket = rx.afterChecks w.socket := by
  have hread : ∀ m ∈ checksReads w.socket, (worldCells R).read m w = (worldCells R).read m u :=
    fun m hm => h m (Or.inl hm)
  have hclosed : w.socket.pcapDevicesClosed = u.socket.pcapDevicesClosed := by
    refine hread .pcapDevicesClosed ?_
    unfold checksReads
    split_ifs <;> simp
  unfold checksReads at hread
  unfold afterChecks
  rw [← hclosed]
  split_ifs at hread ⊢ with hw hbound hbound' hbound'
  · rfl
  · rfl
  · have := hread .boundState (by simp)
    simp_all [worldCells]
  · have := hread .boundState (by simp)
    simp_all [worldCells]
  · exact rx.toDevice_congr (hread .pcapDevices (by simp)).symm 0

end Receiver

/-- On a socket with the same footprint, a step does the same. -/
theorem receiveWorld_replay (handler : Handler R) (rx : Receiver) (reply : Reply) {w u : World R}
    (h : (worldCells R).Agree (rx.pc.footprint w.socket) w u) :
    receiveWorld handler rx reply u =
      (receiveWorld handler rx reply w).map fun o => (rx.pc.replay u o.1, o.2) := by
  unfold receiveWorld receiveStep
  cases hpc : rx.pc with
  | start =>
    rw [hpc] at h
    have hvalid : w.socket.isValid = u.socket.isValid :=
      h .isValid (Or.inl (List.mem_singleton_self _))
    cases reply with
    | tau => simp only [Receiver.afterStart, hvalid]; split <;> rfl
    | clock now => simp only [Receiver.afterStart, hvalid]; split <;> rfl
    | _ => rfl
  | checks =>
    rw [hpc] at h
    cases reply with
    | tau => simp [rx.afterChecks_congr h, Pc.replay]
    | _ => rfl
  | poll k pcapDev =>
    rw [hpc] at h
    have hdevices : u.socket.pcapDevices = w.socket.pcapDevices :=
      (h .pcapDevices (Or.inl (by simp [Pc.footprint]))).symm
    cases reply with
    | next errorcode pktData geterr => simp [rx.afterNext_congr hdevices, Pc.replay]
    | _ => rfl
  | handle k pcapDev pktData =>
    rw [hpc] at h
    have hdevices : u.socket.pcapDevices = w.socket.pcapDevices :=
      (h .pcapDevices (Or.inl (by simp [Pc.footprint]))).symm
    have hport : u.socket.boundPort = w.socket.boundPort :=
      (h .boundPort (Or.inl (by simp [Pc.footprint]))).symm
    have hreassemblers :
        u.socket.pcapDevicesIpReassembly = w.socket.pcapDevicesIpReassembly :=
      (h .pcapDevicesIpReassembly (Or.inr (by simp [Pc.footprint]))).symm
    cases reply with
    | handled env =>
      have hargs : rx.callbackArgs u.socket = rx.callbackArgs w.socket := by
        unfold Receiver.callbackArgs
        rw [hport]
      simp only [hreassemblers, hargs]
      cases handler w.socket.pcapDevicesIpReassembly (rx.callbackArgs w.socket) pktData env with
      | none => simp [Pc.replay, ← hreassemblers]
      | some o => simp [Pc.replay, rx.afterHandler_congr hdevices]
    | _ => rfl
  | wait ms =>
    rw [hpc] at h
    have hhandles : u.socket.pcapWin32Handles = w.socket.pcapWin32Handles :=
      (h .pcapWin32Handles (Or.inl (List.mem_singleton_self _))).symm
    cases reply with
    | wait waitResult lastError => simp [rx.afterWait_congr hhandles, Pc.replay]
    | _ => rfl
  | lockLists | lockCallback | unlockCallback | timeCheck | leaveRound _ | leave _ | returned _
  | crashed =>
    cases reply <;> rfl

/-- **A step of `receiveDatagram` keeps to its footprint.** -/
theorem receiveStep_within (handler : Handler R) (rx : Receiver) (reply : Reply) (w : World R) :
    Within (worldCells R) (rx.pc.footprint w.socket) (receiveWorld handler rx reply) w := by
  refine Within.of_replay (fun u v => rx.pc.replay u v) (fun u v m hm => ?_) (fun u v m hm => ?_)
    fun u hu => receiveWorld_replay handler rx reply hu
  · cases hpc : rx.pc with
    | handle k pcapDev pktData =>
      rw [hpc] at hm
      obtain rfl := List.mem_singleton.mp hm
      rfl
    | _ =>
      rw [hpc] at hm
      cases hm
  · cases hpc : rx.pc with
    | handle k pcapDev pktData =>
      rw [hpc] at hm
      cases m with
      | pcapDevicesIpReassembly => exact absurd (List.mem_singleton_self _) hm
      | _ => rfl
    | _ => rfl

/-! ### What `close` touches -/

/-- The members that the next step of `close` reads and writes. -/
def CloserPc.footprint : CloserPc → Footprint Member
  | .setClosed => ⟨[], [.pcapDevicesClosed]⟩
  | .closing _ => ⟨[.pcapDevices], []⟩
  | .clearDevices => ⟨[], [.pcapDevices]⟩
  | .clearHandles => ⟨[], [.pcapWin32Handles]⟩
  | .clearReassembly => ⟨[], [.pcapDevicesIpReassembly]⟩
  | .resetBoundState => ⟨[], [.boundState]⟩
  | .resetBoundPort => ⟨[], [.boundPort]⟩
  | .resetBoundAddress => ⟨[], [.boundAddress]⟩
  | .idle | .lockShared | .lockCallback | .unlockCallback | .unlockShared | .lockUnique
  | .unlockUnique => .empty

/-- A step of `close`, on the socket and its environment; the rest of the state is part of its
result. -/
def closerWorld (s : Concurrent R) (w : World R) : Option (World R × Concurrent R) :=
  (Concurrent.closerStep { s with socket := w.socket }).map fun t =>
    ({ w with socket := t.socket }, { t with socket := s.socket })

/-- The step on another socket, when its outcome on the first one is known. -/
def CloserPc.replay (t u : World R) : CloserPc → World R
  | .setClosed => { t with socket.pcapDevicesClosed := u.socket.pcapDevicesClosed }
  | .clearDevices => { t with socket.pcapDevices := u.socket.pcapDevices }
  | .clearHandles => { t with socket.pcapWin32Handles := u.socket.pcapWin32Handles }
  | .clearReassembly =>
    { t with socket.pcapDevicesIpReassembly := u.socket.pcapDevicesIpReassembly }
  | .resetBoundState => { t with socket.boundState := u.socket.boundState }
  | .resetBoundPort => { t with socket.boundPort := u.socket.boundPort }
  | .resetBoundAddress => { t with socket.boundAddress := u.socket.boundAddress }
  | .idle | .lockShared | .lockCallback | .closing _ | .unlockCallback | .unlockShared
  | .lockUnique | .unlockUnique => t

/-- On a socket with the same footprint, a step of `close` does the same. -/
theorem closerWorld_replay (s : Concurrent R) {w u : World R}
    (h : (worldCells R).Agree s.closer.footprint w u) :
    closerWorld s u = (closerWorld s w).map fun o => (s.closer.replay u o.1, o.2) := by
  unfold closerWorld Concurrent.closerStep
  cases hpc : s.closer with
  | closing k =>
    rw [hpc] at h
    have hdevices : w.socket.pcapDevices = u.socket.pcapDevices :=
      h .pcapDevices (Or.inl (List.mem_singleton_self _))
    simp only [hdevices]
    cases u.socket.pcapDevices[k]? <;> rfl
  | lockShared => cases s.lists.lockShared .closer <;> simp [CloserPc.replay]
  | lockCallback => cases s.callback.lock .closer <;> simp [CloserPc.replay]
  | lockUnique => cases s.lists.lock .closer <;> simp [CloserPc.replay]
  | _ => rfl

/-- **A step of `close` keeps to its footprint.** -/
theorem closerStep_within (s : Concurrent R) (w : World R) :
    Within (worldCells R) s.closer.footprint (closerWorld s) w := by
  refine Within.of_replay (fun u v => s.closer.replay u v) (fun u v m hm => ?_)
    (fun u v m hm => ?_) fun u hu => closerWorld_replay s hu
  · cases hpc : s.closer with
    | setClosed | clearDevices | clearHandles | clearReassembly | resetBoundState
    | resetBoundPort | resetBoundAddress =>
      rw [hpc] at hm
      obtain rfl := List.mem_singleton.mp hm
      rfl
    | _ =>
      rw [hpc] at hm
      cases hm
  · -- the members that are not written are those of `u`
    cases hpc : s.closer <;> rw [hpc] at hm <;> cases m <;>
      first
      | rfl
      | exact absurd (List.mem_singleton_self _) hm

/-! ### The functions for multicast groups, access by access -/

/-- A call of a function that may run while another thread calls `receiveDatagram`. -/
inductive MembershipCall
  | joinMulticastGroup (groupAddress : HostAddress)
  | leaveMulticastGroup (groupAddress : HostAddress)
  | setMulticastLoopbackEnabled (enabled : Bool)
  deriving DecidableEq, Repr

section Programs

variable (np : Npcap)

/-- `updateCaptureFilter` -/
def updateCaptureFilterProg (pcapDev : PcapDev) : Prog (World R) Unit :=
  let h := pcapDev.pcapHandle
  (Prog.read fun w => w.socket.filterString np pcapDev).bind fun filterString =>
    (Prog.write fun w =>
      w.record (.compile h filterString (np.compile h filterString))).bind fun _ =>
    if np.compile h filterString = pcapError then .done ()
    else .write fun w => w.record (.setFilter h filterString (np.setFilter h filterString))

/-- The loop of `updateAllCaptureFilters`. -/
def updateFiltersProg : List PcapDev → Prog (World R) Unit
  | [] => .done ()
  | pcapDev :: devices =>
    (updateCaptureFilterProg np pcapDev).bind fun _ => updateFiltersProg devices

/-- `updateAllCaptureFilters` -/
def updateAllCaptureFiltersProg : Prog (World R) Unit :=
  (Prog.read fun w => w.socket.pcapDevices).bind fun devices => updateFiltersProg np devices

/-- `kickstartLoopbackMulticast`, and whether it ends with an exception. -/
def kickstartProg : Prog (World R) Bool :=
  .access (fun w => (w.kickstartLoopbackMulticast np).1) fun w => .done (w.kickstartThrows np)

/-- `joinMulticastGroup` -/
def joinMulticastGroupProg (groupAddress : HostAddress) : Prog (World R) OpResult :=
  (Prog.read fun w => w.socket.isValid).bind fun valid =>
  if !valid then .done (.returned false)
  else if !groupAddress.isValid then .done (.returned false)
  else if !groupAddress.isMulticast then .done (.returned false)
  else (Prog.read fun w => w.socket.boundState).bind fun bound =>
    if !bound then .done (.returned false)
    else (Prog.read fun w =>
        StdSet.contains HostAddress.lt groupAddress w.socket.multicastGroups).bind fun joined =>
      if joined then .done (.returned false)
      else
        (Prog.write fun w => { w with
          socket.multicastGroups :=
            StdSet.emplace HostAddress.lt groupAddress w.socket.multicastGroups }).bind fun _ =>
        (updateAllCaptureFiltersProg np).bind fun _ =>
        (Prog.read fun w => w.socket.multicastLoopbackEnabled).bind fun enabled =>
        if enabled then
          (kickstartProg np).bind fun threw => .done (if threw then .threw else .returned true)
        else .done (.returned true)

/-- `leaveMulticastGroup` -/
def leaveMulticastGroupProg (groupAddress : HostAddress) : Prog (World R) Bool :=
  (Prog.read fun w => w.socket.isValid).bind fun valid =>
  if !valid then .done false
  else if !groupAddress.isValid then .done false
  else (Prog.read fun w =>
      StdSet.contains HostAddress.lt groupAddress w.socket.multicastGroups).bind fun joined =>
    if !joined then .done false
    else
      (Prog.write fun w => { w with
        socket.multicastGroups :=
          StdSet.erase HostAddress.lt groupAddress w.socket.multicastGroups }).bind fun _ =>
      (updateAllCaptureFiltersProg np).bind fun _ => .done true

/-- `setMulticastLoopbackEnabled` -/
def setMulticastLoopbackEnabledProg (enabled : Bool) : Prog (World R) OpResult :=
  (Prog.read fun w => w.socket.multicastLoopbackEnabled).bind fun current =>
  if current = enabled then .done .finished
  else
    (Prog.write fun w => { w with socket.multicastLoopbackEnabled := enabled }).bind fun _ =>
    if enabled then
      (kickstartProg np).bind fun threw =>
      if threw then .done .threw
      else (updateAllCaptureFiltersProg np).bind fun _ => .done .finished
    else (updateAllCaptureFiltersProg np).bind fun _ => .done .finished

end Programs

namespace MembershipCall

/-- The function, access by access. -/
def body (np : Npcap) : MembershipCall → Prog (World R) OpResult
  | .joinMulticastGroup g => joinMulticastGroupProg np g
  | .leaveMulticastGroup g =>
    (leaveMulticastGroupProg np g).bind fun result => .done (.returned result)
  | .setMulticastLoopbackEnabled enabled => setMulticastLoopbackEnabledProg np enabled

/-- The function as a whole, and how it ends. -/
def apply (np : Npcap) (w : World R) : MembershipCall → World R × OpResult
  | .joinMulticastGroup g => w.joinMulticastGroup np g
  | .leaveMulticastGroup g =>
    ((w.leaveMulticastGroup np g).1, .returned (w.leaveMulticastGroup np g).2)
  | .setMulticastLoopbackEnabled enabled => w.setMulticastLoopbackEnabled np enabled

/-- The call as an operation of a history. -/
def toOp : MembershipCall → Op
  | .joinMulticastGroup g => .joinMulticastGroup g
  | .leaveMulticastGroup g => .leaveMulticastGroup g
  | .setMulticastLoopbackEnabled enabled => .setMulticastLoopbackEnabled enabled

theorem apply_toOp (np : Npcap) (api : IPReassembly R) (w : World R) (f : MembershipCall) :
    w.apply np api f.toOp = some (f.apply np w) := by
  cases f <;> rfl

end MembershipCall

section Exec

variable {np : Npcap} (w : World R)

@[simp] theorem exec_updateCaptureFilterProg (pcapDev : PcapDev) :
    (updateCaptureFilterProg np pcapDev).exec w = (w.updateCaptureFilter np pcapDev, ()) := by
  simp only [updateCaptureFilterProg, World.updateCaptureFilter, Prog.exec_read_bind,
    Prog.exec_write_bind, Prog.exec_ite, Prog.exec_done, Prog.exec_write]
  split_ifs <;> rfl

@[simp] theorem exec_updateFiltersProg (devices : List PcapDev) :
    (updateFiltersProg np devices).exec w =
      (devices.foldl (World.updateCaptureFilter np) w, ()) := by
  induction devices generalizing w with
  | nil => rfl
  | cons pcapDev devices ih => simp [updateFiltersProg, ih]

@[simp] theorem exec_updateAllCaptureFiltersProg :
    (updateAllCaptureFiltersProg np).exec w = (w.updateAllCaptureFilters np, ()) := by
  simp [updateAllCaptureFiltersProg, World.updateAllCaptureFilters]

@[simp] theorem exec_kickstartProg :
    (kickstartProg np).exec w = w.kickstartLoopbackMulticast np := rfl

@[simp] theorem exec_joinMulticastGroupProg (groupAddress : HostAddress) :
    (joinMulticastGroupProg np groupAddress).exec w = w.joinMulticastGroup np groupAddress := by
  simp only [joinMulticastGroupProg, World.joinMulticastGroup, Prog.exec_read_bind,
    Prog.exec_write_bind, Prog.exec_bind (updateAllCaptureFiltersProg np),
    Prog.exec_bind (kickstartProg np), Prog.exec_ite, Prog.exec_done,
    exec_updateAllCaptureFiltersProg, exec_kickstartProg]
  rfl

@[simp] theorem exec_leaveMulticastGroupProg (groupAddress : HostAddress) :
    (leaveMulticastGroupProg np groupAddress).exec w = w.leaveMulticastGroup np groupAddress := by
  simp only [leaveMulticastGroupProg, World.leaveMulticastGroup, Prog.exec_read_bind,
    Prog.exec_write_bind, Prog.exec_bind (updateAllCaptureFiltersProg np), Prog.exec_ite,
    Prog.exec_done, exec_updateAllCaptureFiltersProg]

@[simp] theorem exec_setMulticastLoopbackEnabledProg (enabled : Bool) :
    (setMulticastLoopbackEnabledProg np enabled).exec w =
      w.setMulticastLoopbackEnabled np enabled := by
  by_cases hsame : w.socket.multicastLoopbackEnabled = enabled
  · simp [setMulticastLoopbackEnabledProg, World.setMulticastLoopbackEnabled, hsame]
  · cases enabled with
    | false => simp [setMulticastLoopbackEnabledProg, World.setMulticastLoopbackEnabled, hsame]
    | true =>
      cases hthrows : World.kickstartThrows np
          { w with socket.multicastLoopbackEnabled := true } <;>
        simp [setMulticastLoopbackEnabledProg, World.setMulticastLoopbackEnabled,
          World.kickstartLoopbackMulticast, hsame, hthrows]

/-- **Undisturbed, a function is the operation.** -/
theorem exec_membershipCall (f : MembershipCall) : (f.body np).exec w = f.apply np w := by
  cases f <;> simp [MembershipCall.body, MembershipCall.apply]

end Exec

/-! ### What the functions for multicast groups touch -/

/-- The members that these functions read and write. -/
def membershipFootprint : Footprint Member :=
  ⟨[.isValid, .boundState, .boundAddress, .boundPort, .pcapDevices],
    [.multicastGroups, .multicastLoopbackEnabled, .driver]⟩

/-- What two states have in common that agree on the footprint. -/
structure SameMembership (w u : World R) : Prop where
  isValid : w.socket.isValid = u.socket.isValid
  boundState : w.socket.boundState = u.socket.boundState
  boundAddress : w.socket.boundAddress = u.socket.boundAddress
  boundPort : w.socket.boundPort = u.socket.boundPort
  pcapDevices : w.socket.pcapDevices = u.socket.pcapDevices
  multicastGroups : w.socket.multicastGroups = u.socket.multicastGroups
  multicastLoopbackEnabled :
    w.socket.multicastLoopbackEnabled = u.socket.multicastLoopbackEnabled
  driver : w.driver = u.driver

section Footprints

variable {np : Npcap} {w u : World R} {ρ : Type}

theorem sameMembership (h : (worldCells R).Agree membershipFootprint w u) :
    SameMembership w u where
  isValid := h .isValid (by simp [Footprint.Touches, membershipFootprint])
  boundState := h .boundState (by simp [Footprint.Touches, membershipFootprint])
  boundAddress := h .boundAddress (by simp [Footprint.Touches, membershipFootprint])
  boundPort := h .boundPort (by simp [Footprint.Touches, membershipFootprint])
  pcapDevices := h .pcapDevices (by simp [Footprint.Touches, membershipFootprint])
  multicastGroups := h .multicastGroups (by simp [Footprint.Touches, membershipFootprint])
  multicastLoopbackEnabled :=
    h .multicastLoopbackEnabled (by simp [Footprint.Touches, membershipFootprint])
  driver := h .driver (by simp [Footprint.Touches, membershipFootprint])

/-- An access that changes the groups, the loopback flag and what Npcap was asked for. -/
theorem within_membership_access {write : World R → World R} {next : World R → Prog (World R) ρ}
    (hlocal : ∀ w u : World R, SameMembership w u → next w = next u)
    (hgroups : ∀ w u : World R, SameMembership w u →
      (write w).socket.multicastGroups = (write u).socket.multicastGroups)
    (hloopback : ∀ w u : World R, SameMembership w u →
      (write w).socket.multicastLoopbackEnabled = (write u).socket.multicastLoopbackEnabled)
    (hdriver : ∀ w u : World R, SameMembership w u → (write w).driver = (write u).driver)
    (hrest : ∀ w, write w = { w with
      socket.multicastGroups := (write w).socket.multicastGroups
      socket.multicastLoopbackEnabled := (write w).socket.multicastLoopbackEnabled
      driver := (write w).driver })
    (hnext : ∀ w, (next w).Within (worldCells R) membershipFootprint) :
    (Prog.access write next).Within (worldCells R) membershipFootprint := by
  refine Prog.within_access (fun w u h => hlocal w u (sameMembership h)) (fun w u h m hm => ?_)
    (fun w m hm => ?_) hnext
  · have hsame := sameMembership h
    simp only [membershipFootprint, List.mem_cons, List.not_mem_nil, or_false] at hm
    rcases hm with rfl | rfl | rfl
    · exact hgroups w u hsame
    · exact hloopback w u hsame
    · exact hdriver w u hsame
  · rw [hrest w]
    cases m with
    | multicastGroups | multicastLoopbackEnabled | driver =>
      exact absurd (by simp [membershipFootprint]) hm
    | _ => rfl

/-- A write. -/
theorem within_membership_write {write : World R → World R}
    (hgroups : ∀ w u : World R, SameMembership w u →
      (write w).socket.multicastGroups = (write u).socket.multicastGroups)
    (hloopback : ∀ w u : World R, SameMembership w u →
      (write w).socket.multicastLoopbackEnabled = (write u).socket.multicastLoopbackEnabled)
    (hdriver : ∀ w u : World R, SameMembership w u → (write w).driver = (write u).driver)
    (hrest : ∀ w, write w = { w with
      socket.multicastGroups := (write w).socket.multicastGroups
      socket.multicastLoopbackEnabled := (write w).socket.multicastLoopbackEnabled
      driver := (write w).driver }) :
    (Prog.write write).Within (worldCells R) membershipFootprint :=
  within_membership_access (fun _ _ _ => rfl) hgroups hloopback hdriver hrest fun _ => trivial

theorem within_record (call : World R → Call)
    (h : ∀ w u, SameMembership w u → call w = call u) :
    (Prog.write fun w => w.record (call w)).Within (worldCells R) membershipFootprint :=
  within_membership_write (fun _ _ hsame => hsame.multicastGroups)
    (fun _ _ hsame => hsame.multicastLoopbackEnabled)
    (fun w u hsame => by simp [World.record, hsame.driver, h w u hsame]) fun _ => rfl

theorem updateCaptureFilterProg_within (np : Npcap) (pcapDev : PcapDev) :
    (updateCaptureFilterProg (R := R) np pcapDev).Within (worldCells R) membershipFootprint := by
  refine Prog.within_bind (Prog.within_read fun w u h => ?_) fun filterString =>
    Prog.within_bind (within_record _ fun _ _ _ => rfl) fun _ => ?_
  · have hsame := sameMembership h
    simp [UdpcapSocket.filterString, hsame.boundAddress, hsame.boundPort, hsame.multicastGroups,
      hsame.multicastLoopbackEnabled]
  · split
    · trivial
    · exact within_record _ fun _ _ _ => rfl

theorem updateAllCaptureFiltersProg_within (np : Npcap) :
    (updateAllCaptureFiltersProg (R := R) np).Within (worldCells R) membershipFootprint := by
  refine Prog.within_bind (Prog.within_read fun w u h => (sameMembership h).pcapDevices) ?_
  intro devices
  induction devices with
  | nil => trivial
  | cons pcapDev devices ih =>
    exact Prog.within_bind (updateCaptureFilterProg_within np pcapDev) fun _ => ih

theorem kickstartProg_within (np : Npcap) :
    (kickstartProg (R := R) np).Within (worldCells R) membershipFootprint := by
  refine within_membership_access (fun w u hsame => ?_) (fun _ _ hsame => hsame.multicastGroups)
    (fun _ _ hsame => hsame.multicastLoopbackEnabled) (fun w u hsame => ?_) (fun _ => rfl)
    fun _ => trivial
  · simp [World.kickstartThrows, hsame.driver, hsame.multicastGroups]
  · simp [World.kickstartLoopbackMulticast, World.record, hsame.driver, hsame.multicastGroups]

/-- Filters are updated after a change of the groups. -/
theorem change_groups_within {change : List HostAddress → List HostAddress}
    {rest : Unit → Prog (World R) ρ}
    (hrest : (rest ()).Within (worldCells R) membershipFootprint) :
    ((Prog.write fun w : World R => { w with
        socket.multicastGroups := change w.socket.multicastGroups }).bind fun _ =>
      (updateAllCaptureFiltersProg np).bind rest).Within (worldCells R) membershipFootprint := by
  refine Prog.within_bind (within_membership_write (fun _ _ hsame => ?_)
    (fun _ _ hsame => hsame.multicastLoopbackEnabled) (fun _ _ hsame => hsame.driver)
    fun _ => rfl) fun _ => ?_
  · simp [hsame.multicastGroups]
  · exact Prog.within_bind (updateAllCaptureFiltersProg_within np) fun _ => hrest

/-- **Every access of the three functions keeps to their footprint.** -/
theorem body_within (np : Npcap) (f : MembershipCall) :
    (f.body (R := R) np).Within (worldCells R) membershipFootprint := by
  cases f with
  | joinMulticastGroup g =>
    refine Prog.within_bind (Prog.within_read fun _ _ h => (sameMembership h).isValid) fun valid =>
      Prog.within_ite trivial (Prog.within_ite trivial (Prog.within_ite trivial ?_))
    refine Prog.within_bind (Prog.within_read fun _ _ h => (sameMembership h).boundState)
      fun bound => Prog.within_ite trivial ?_
    refine Prog.within_bind (Prog.within_read fun _ _ h => ?_) fun joined =>
      Prog.within_ite trivial (change_groups_within ?_)
    · rw [(sameMembership h).multicastGroups]
    · exact Prog.within_bind
        (Prog.within_read fun _ _ h => (sameMembership h).multicastLoopbackEnabled)
        fun enabled => Prog.within_ite
          (Prog.within_bind (kickstartProg_within np) fun _ => trivial) trivial
  | leaveMulticastGroup g =>
    refine Prog.within_bind ?_ fun _ => trivial
    refine Prog.within_bind (Prog.within_read fun _ _ h => (sameMembership h).isValid) fun valid =>
      Prog.within_ite trivial (Prog.within_ite trivial ?_)
    refine Prog.within_bind (Prog.within_read fun _ _ h => ?_) fun joined =>
      Prog.within_ite trivial (change_groups_within trivial)
    rw [(sameMembership h).multicastGroups]
  | setMulticastLoopbackEnabled enabled =>
    refine Prog.within_bind
      (Prog.within_read fun _ _ h => (sameMembership h).multicastLoopbackEnabled) fun current =>
      Prog.within_ite trivial ?_
    refine Prog.within_bind (within_membership_write (fun _ _ hsame => hsame.multicastGroups)
      (fun _ _ _ => rfl) (fun _ _ hsame => hsame.driver) fun _ => rfl) fun _ => ?_
    have hupdate : ((updateAllCaptureFiltersProg (R := R) np).bind fun _ =>
        .done OpResult.finished).Within (worldCells R) membershipFootprint :=
      Prog.within_bind (updateAllCaptureFiltersProg_within np) fun _ => trivial
    exact Prog.within_ite (Prog.within_bind (kickstartProg_within np) fun threw =>
      Prog.within_ite trivial hupdate) hupdate

end Footprints

end Udpcap
