import Udpcap.Foundation.Locks
import Udpcap.Foundation.Transition
import Udpcap.Receive
import Udpcap.SocketSpec

/-!
# Closing a socket that is receiving

One thread calls `receiveDatagram` again and again, another one calls `close`, and their
steps interleave.  The locks are those of the source: `pcap_devices_lists_mutex_` is a
shared mutex, `pcap_devices_callback_mutex_` a mutex.

## Main definitions

* `CloserPc` — where the other thread is in `close`.
* `Concurrent`, `concurrentStep` — the state of both threads, and one step of one of
  them.
* `Concurrent.Protocol` — the invariant over all pairs of positions.
* `Concurrent.Safe` — what the locks are for.

## Main results

* `run_close` — undisturbed, the steps of `close` are the operation `World.close`.
* `close_protocol` — **in every interleaving, no closed handle is used, the lists are
  not cleared under a receiver, a round after closing fails with `SOCKET_CLOSED`, and
  the threads do not block each other.**
-/

namespace Udpcap

open Foundation (Mutex SharedMutex)

/-! ### The threads -/

inductive Thread
  | receiver
  | closer
  deriving DecidableEq, Repr

/-- The next thing that `close` does. -/
inductive CloserPc
  /-- `close` is not running. -/
  | idle
  | lockShared
  | lockCallback
  | setClosed
  /-- Call `pcap_close` on the device at position `k`. -/
  | closing (k : ℕ)
  | unlockCallback
  | unlockShared
  | lockUnique
  | clearDevices
  | clearHandles
  | clearReassembly
  | unlockUnique
  | resetBoundState
  | resetBoundPort
  | resetBoundAddress
  deriving DecidableEq, Repr

namespace CloserPc

/-- `close` holds `pcap_devices_callback_mutex_`. -/
def holdsCallback : CloserPc → Bool
  | .setClosed | .closing _ | .unlockCallback => true
  | _ => false

/-- `close` holds `pcap_devices_lists_mutex_` in read mode. -/
def holdsShared : CloserPc → Bool
  | .lockCallback | .setClosed | .closing _ | .unlockCallback | .unlockShared => true
  | _ => false

/-- `close` holds `pcap_devices_lists_mutex_` in write mode. -/
def holdsUnique : CloserPc → Bool
  | .clearDevices | .clearHandles | .clearReassembly | .unlockUnique => true
  | _ => false

/-- `close` has set `pcap_devices_closed_`. -/
def hasSetClosed : CloserPc → Bool
  | .idle | .lockShared | .lockCallback | .setClosed => false
  | _ => true

end CloserPc

/-- The locks that a call of `receiveDatagram` holds. -/
inductive Held
  | nothing
  /-- `pcap_devices_lists_mutex_` in read mode. -/
  | lists
  /-- And `pcap_devices_callback_mutex_`. -/
  | both
  deriving DecidableEq, Repr

/-- The locks held at a position. -/
def Pc.held : Pc → Held
  | .start | .lockLists | .returned _ => .nothing
  | .lockCallback | .timeCheck | .wait _ | .leave _ => .lists
  | .checks | .poll .. | .handle .. | .unlockCallback | .leaveRound _ | .crashed => .both

/-- The locks held after the next step. -/
def Pc.heldNext : Pc → Held
  | .start | .leave _ | .returned _ => .nothing
  | .lockLists | .unlockCallback | .timeCheck | .wait _ | .leaveRound _ => .lists
  | .lockCallback | .checks | .poll .. | .handle .. | .crashed => .both

variable {R : Type}

/-- A finished call, and whether one of its rounds began after the socket was closed. -/
structure FinishedCall where
  receiver : Receiver
  result : ℕ
  lateRound : Bool

/-- The state of both threads. -/
structure Concurrent (R : Type) where
  socket : UdpcapSocket R
  /-- `pcap_devices_lists_mutex_` -/
  lists : SharedMutex Thread
  /-- `pcap_devices_callback_mutex_` -/
  callback : Mutex Thread
  /-- The handles that were passed to `pcap_close`. -/
  closedHandles : List Handle
  /-- The call in progress. -/
  receiver : Option Receiver
  /-- A round of this call began when `pcap_devices_closed_` was set. -/
  lateRound : Bool
  closer : CloserPc
  finished : List FinishedCall

namespace Concurrent

/-- Neither thread is running. -/
def start (socket : UdpcapSocket R) : Concurrent R :=
  ⟨socket, .free, .free, [], none, false, .idle, []⟩

/-- The locks after the next step of `receiveDatagram`; `none` when it has to wait.  With
`preferWriters`, a thread that waits for the write mode keeps others out. -/
def receiverLocks (preferWriters : Bool) (s : Concurrent R) :
    Pc → Option (SharedMutex Thread × Mutex Thread)
  | .lockLists =>
    if preferWriters && s.closer = .lockUnique then none
    else (s.lists.lockShared .receiver).map fun lists => (lists, s.callback)
  | .lockCallback => (s.callback.lock .receiver).map fun callback => (s.lists, callback)
  | .unlockCallback | .leaveRound _ => some (s.lists, s.callback.unlock)
  | .leave _ => some (s.lists.unlockShared .receiver, s.callback)
  | _ => some (s.lists, s.callback)

/-- A step of `receiveDatagram`. -/
def receiverStep (preferWriters : Bool) (handler : Handler R) (s : Concurrent R)
    (reply : Reply) : Option (Concurrent R) :=
  s.receiver.bind fun rx => (s.receiverLocks preferWriters rx.pc).bind fun locks =>
    (receiveStep handler s.socket rx reply).map fun o =>
      let lateRound := s.lateRound || (rx.pc = .lockCallback && s.socket.pcapDevicesClosed)
      let t := { s with
        socket := o.1
        lists := locks.1
        callback := locks.2
        lateRound := lateRound }
      match o.2.pc with
      | .returned result =>
        { t with receiver := none, finished := s.finished ++ [⟨o.2, result, lateRound⟩] }
      | _ => { t with receiver := some o.2 }

/-- A step of `close`. -/
def closerStep (s : Concurrent R) : Option (Concurrent R) :=
  match s.closer with
  | .idle => none
  | .lockShared =>
    (s.lists.lockShared .closer).map fun lists => { s with lists := lists, closer := .lockCallback }
  | .lockCallback =>
    (s.callback.lock .closer).map fun callback =>
      { s with callback := callback, closer := .setClosed }
  | .setClosed => some { s with socket.pcapDevicesClosed := true, closer := .closing 0 }
  | .closing k =>
    match s.socket.pcapDevices[k]? with
    | some pcapDev =>
      some { s with
        closedHandles := s.closedHandles ++ [pcapDev.pcapHandle]
        closer := .closing (k + 1) }
    | none => some { s with closer := .unlockCallback }
  | .unlockCallback => some { s with callback := s.callback.unlock, closer := .unlockShared }
  | .unlockShared =>
    some { s with lists := s.lists.unlockShared .closer, closer := .lockUnique }
  | .lockUnique =>
    (s.lists.lock .closer).map fun lists => { s with lists := lists, closer := .clearDevices }
  | .clearDevices => some { s with socket.pcapDevices := [], closer := .clearHandles }
  | .clearHandles => some { s with socket.pcapWin32Handles := [], closer := .clearReassembly }
  | .clearReassembly =>
    some { s with socket.pcapDevicesIpReassembly := [], closer := .unlockUnique }
  | .unlockUnique => some { s with lists := s.lists.unlock, closer := .resetBoundState }
  | .resetBoundState => some { s with socket.boundState := false, closer := .resetBoundPort }
  | .resetBoundPort => some { s with socket.boundPort := 0, closer := .resetBoundAddress }
  | .resetBoundAddress => some { s with socket.boundAddress := .invalid, closer := .idle }

end Concurrent

inductive ConcurrentLabel
  /-- `receiveDatagram` is called. -/
  | call (args : ReceiveArgs)
  /-- A step of `receiveDatagram`. -/
  | receive (reply : Reply)
  /-- `close` is called. -/
  | close
  /-- A step of `close`. -/
  | closerStep

/-- One step of one of the threads. -/
def concurrentStep (preferWriters : Bool) (handler : Handler R) (s : Concurrent R) :
    ConcurrentLabel → Option (Concurrent R)
  | .call args =>
    if s.receiver.isSome then none
    else some { s with receiver := some (.create args), lateRound := false }
  | .receive reply => s.receiverStep preferWriters handler reply
  | .close => if s.closer = .idle then some { s with closer := .lockShared } else none
  | .closerStep => s.closerStep

/-! ### Closing undisturbed -/

section Undisturbed

variable {preferWriters : Bool} {handler : Handler R}

/-- The loop over the devices closes their handles, in order. -/
theorem run_closing (closed rest : List PcapDev) (s : Concurrent R)
    (hdevices : s.socket.pcapDevices = closed ++ rest)
    (hcloser : s.closer = .closing closed.length) :
    Foundation.run (concurrentStep preferWriters handler) s
        (List.replicate rest.length .closerStep) =
      some { s with
        closedHandles := s.closedHandles ++ rest.map PcapDev.pcapHandle
        closer := .closing (closed ++ rest).length } := by
  induction rest generalizing closed s with
  | nil =>
    rw [List.append_nil, ← hcloser, List.map_nil, List.append_nil]
    rfl
  | cons dev rest ih =>
    have hstep : concurrentStep preferWriters handler s .closerStep = some { s with
        closedHandles := s.closedHandles ++ [dev.pcapHandle]
        closer := .closing (closed.length + 1) } := by
      have hdev : s.socket.pcapDevices[closed.length]? = some dev := by
        rw [hdevices, List.getElem?_append_right le_rfl, Nat.sub_self]
        rfl
      unfold concurrentStep Concurrent.closerStep
      rw [hcloser]
      simp only
      rw [hdev]
    rw [List.length_cons, List.replicate_succ, Foundation.run_cons, hstep, Option.bind_some,
      ih (closed ++ [dev])]
    · rw [List.append_assoc, List.append_assoc]
      rfl
    · rw [hdevices, List.append_assoc]
      rfl
    · rw [List.length_append]
      rfl

/-- **Undisturbed, the steps of `close` are the operation**: they lead to its socket and
close the handles of the devices, in order. -/
theorem run_close (preferWriters : Bool) (handler : Handler R) (w : World R) :
    Foundation.run (concurrentStep preferWriters handler) (Concurrent.start w.socket)
        (.close :: .closerStep :: .closerStep :: .closerStep ::
          (List.replicate w.socket.pcapDevices.length .closerStep ++
            List.replicate 11 .closerStep)) =
      some { Concurrent.start w.close.socket with
        closedHandles := w.socket.pcapDevices.map PcapDev.pcapHandle } := by
  -- both locks are free, so the first four steps lead to the loop
  have hhead : ∀ ls, Foundation.run (concurrentStep preferWriters handler)
      (Concurrent.start w.socket) (.close :: .closerStep :: .closerStep :: .closerStep :: ls) =
        Foundation.run (concurrentStep preferWriters handler) { Concurrent.start w.socket with
          socket := { w.socket with pcapDevicesClosed := true }
          lists := .shared (insert .closer ∅)
          callback := ⟨some .closer⟩
          closer := .closing 0 } ls := fun ls => rfl
  rw [hhead, Foundation.run_append, run_closing [] w.socket.pcapDevices _ rfl rfl,
    Option.bind_some, World.close_socket]
  have hend : w.socket.pcapDevices[([] ++ w.socket.pcapDevices).length]? = none :=
    List.getElem?_eq_none le_rfl
  rw [List.replicate_succ, Foundation.run_cons]
  unfold concurrentStep Concurrent.closerStep
  simp only
  rw [hend]
  rfl

end Undisturbed

/-! ### The locks of a call -/

namespace Receiver

theorem held_toDevice (rx : Receiver) (s : UdpcapSocket R) (k : ℕ) :
    (rx.toDevice s k).pc.held = .both := by
  unfold toDevice
  cases s.pcapDevices[k]? <;> rfl

theorem held_afterHandler (rx : Receiver) (s : UdpcapSocket R) (k : ℕ)
    (callbackArgs : CallbackArgsRawPtr) : (rx.afterHandler s k callbackArgs).pc.held = .both := by
  unfold afterHandler
  simp only
  split
  · rfl
  · exact held_toDevice _ s (k + 1)

end Receiver

/-- The positions of a call say which locks it holds. -/
theorem receiveStep_held {handler : Handler R} {s s' : UdpcapSocket R} {rx rx' : Receiver}
    {reply : Reply} (h : receiveStep handler s rx reply = some (s', rx')) :
    rx'.pc.held = rx.pc.heldNext := by
  cases receiveStep_case h with
  | first hpc | skip _ _ _ _ hpc =>
    rw [hpc]
    exact rx.held_toDevice s _
  | handle k pcapDev pktData env reassemblers callbackArgs hpc =>
    rw [hpc]
    exact rx.held_afterHandler s k callbackArgs
  | invalid _ _ hpc | valid _ _ hpc | lockLists hpc | lockCallback hpc | refuse _ hpc
  | take _ _ _ _ hpc | pollError _ _ _ _ _ _ hpc | crash _ _ _ _ hpc | again hpc | noData hpc
  | timeout _ hpc | wait _ hpc | wake _ _ _ _ hpc | waitTimeout _ _ hpc | leaveRound _ hpc
  | leave _ hpc =>
    rw [hpc]
    rfl

/-! ### The invariant -/

namespace Concurrent

/-- The locks that the receiver holds. -/
def held (s : Concurrent R) : Held := (s.receiver.map fun rx => rx.pc.held).getD .nothing

/-- The locks are held as the positions of the threads say. -/
structure Locked (lists : SharedMutex Thread) (callback : Mutex Thread) (held : Held)
    (closer : CloserPc) : Prop where
  callback_receiver : callback.owner = some .receiver ↔ held = .both
  callback_closer : callback.owner = some .closer ↔ closer.holdsCallback = true
  shared_receiver : lists.HoldsShared .receiver ↔ held ≠ .nothing
  shared_closer : lists.HoldsShared .closer ↔ closer.holdsShared = true
  unique_receiver : ¬lists.HoldsUnique .receiver
  unique_closer : lists.HoldsUnique .closer ↔ closer.holdsUnique = true

/-- A call one of whose rounds began after the socket was closed: it is about to find
that out, or it is on its way out with `SOCKET_CLOSED`. -/
def FindsClosed (rx : Receiver) : Prop :=
  rx.pc = .checks ∨
    ((rx.pc = .leaveRound 0 ∨ rx.pc = .leave 0) ∧ rx.error.errorCode = .socketClosed)

/-- **The invariant over all pairs of positions.** -/
structure Protocol (s : Concurrent R) : Prop where
  locked : Locked s.lists s.callback s.held s.closer
  closed_of_closer : s.closer.hasSetClosed = true → s.socket.pcapDevicesClosed = true
  /-- While the socket is not closed, no handle is. -/
  closedHandles : s.socket.pcapDevicesClosed = false → s.closedHandles = []
  atDevice : ∀ rx ∈ s.receiver, rx.AtDevice s.socket
  lateRound : s.lateRound = true →
    s.socket.pcapDevicesClosed = true ∧ ∀ rx ∈ s.receiver, FindsClosed rx
  finished : ∀ c ∈ s.finished, c.lateRound = true →
    c.result = 0 ∧ c.receiver.error.errorCode = .socketClosed

theorem protocol_start (socket : UdpcapSocket R) : (start socket).Protocol where
  locked :=
    { callback_receiver := ⟨nofun, nofun⟩
      callback_closer := ⟨nofun, nofun⟩
      shared_receiver :=
        ⟨fun h => absurd h (SharedMutex.not_holdsShared_free _), fun h => absurd rfl h⟩
      shared_closer := ⟨fun h => absurd h (SharedMutex.not_holdsShared_free _), nofun⟩
      unique_receiver := SharedMutex.not_holdsUnique_free _
      unique_closer := ⟨fun h => absurd h (SharedMutex.not_holdsUnique_free _), nofun⟩ }
  closed_of_closer := nofun
  closedHandles := fun _ => rfl
  atDevice := fun rx hrx => absurd hrx (Option.not_mem_none rx)
  lateRound := nofun
  finished := fun c hc => absurd hc (List.not_mem_nil (a := c))

/-! ### Locking and unlocking -/

namespace Locked

variable {lists lists' : SharedMutex Thread} {callback callback' : Mutex Thread} {held : Held}
  {closer : CloserPc}

theorem lockLists (h : Locked lists callback .nothing closer)
    (hlock : lists.lockShared .receiver = some lists') : Locked lists' callback .lists closer := by
  have hspec := SharedMutex.lockShared_spec hlock
  refine ⟨?_, h.callback_closer, ?_, ?_, (hspec _).2.2, ?_⟩
  · rw [h.callback_receiver]
    exact ⟨nofun, nofun⟩
  · rw [(hspec _).1]
    exact ⟨fun _ => nofun, fun _ => Or.inl rfl⟩
  · rw [(hspec _).1, ← h.shared_closer]
    exact or_iff_right nofun
  · rw [← h.unique_closer]
    exact iff_of_false (hspec _).2.2 (hspec _).2.1

theorem lockCallback (h : Locked lists callback .lists closer)
    (hlock : callback.lock .receiver = some callback') : Locked lists callback' .both closer := by
  obtain ⟨hfree, rfl⟩ := Mutex.lock_eq_some.mp hlock
  refine ⟨iff_of_true rfl rfl, ?_, ?_, h.shared_closer, h.unique_receiver, h.unique_closer⟩
  · rw [← h.callback_closer, hfree]
    exact ⟨nofun, nofun⟩
  · exact h.shared_receiver.trans ⟨fun _ => nofun, fun _ => nofun⟩

theorem unlockCallback (h : Locked lists callback .both closer) :
    Locked lists callback.unlock .lists closer := by
  have howner := h.callback_receiver.mpr rfl
  refine ⟨⟨nofun, nofun⟩, ?_, ?_, h.shared_closer, h.unique_receiver, h.unique_closer⟩
  · rw [← h.callback_closer, howner]
    exact ⟨nofun, nofun⟩
  · exact h.shared_receiver.trans ⟨fun _ => nofun, fun _ => nofun⟩

theorem unlockLists (h : Locked lists callback .lists closer) :
    Locked (lists.unlockShared .receiver) callback .nothing closer := by
  have hspec := SharedMutex.unlockShared_spec (h.shared_receiver.mpr nofun)
  refine ⟨?_, h.callback_closer, ?_, ?_, (hspec _).2.2, ?_⟩
  · rw [h.callback_receiver]
    exact ⟨nofun, nofun⟩
  · rw [(hspec _).1]
    exact ⟨fun hne => absurd rfl hne.1, fun hne => absurd rfl hne⟩
  · rw [(hspec _).1, ← h.shared_closer]
    exact and_iff_right nofun
  · rw [← h.unique_closer]
    exact iff_of_false (hspec _).2.2 (hspec _).2.1

/-- **A step of `receiveDatagram`** takes and releases the locks that it should. -/
theorem receiver {s : Concurrent R} {preferWriters : Bool} {pc : Pc}
    {locks : SharedMutex Thread × Mutex Thread} (h : Locked s.lists s.callback pc.held s.closer)
    (hlocks : s.receiverLocks preferWriters pc = some locks) :
    Locked locks.1 locks.2 pc.heldNext s.closer := by
  cases pc with
  | lockLists =>
    unfold receiverLocks at hlocks
    simp only at hlocks
    split at hlocks
    · cases hlocks
    · obtain ⟨lists, hlists, rfl⟩ := Option.map_eq_some_iff.mp hlocks
      exact h.lockLists hlists
  | lockCallback =>
    obtain ⟨callback, hcallback, rfl⟩ := Option.map_eq_some_iff.mp hlocks
    exact h.lockCallback hcallback
  | unlockCallback =>
    cases hlocks
    exact h.unlockCallback
  | leaveRound n =>
    cases hlocks
    exact h.unlockCallback
  | leave n =>
    cases hlocks
    exact h.unlockLists
  | _ =>
    cases hlocks
    exact h

theorem closerLockShared (h : Locked lists callback held .lockShared)
    (hlock : lists.lockShared .closer = some lists') :
    Locked lists' callback held .lockCallback := by
  have hspec := SharedMutex.lockShared_spec hlock
  refine ⟨h.callback_receiver, h.callback_closer, ?_, ?_, (hspec _).2.2, ?_⟩
  · rw [(hspec _).1, ← h.shared_receiver]
    exact or_iff_right nofun
  · rw [(hspec _).1]
    exact iff_of_true (Or.inl rfl) rfl
  · exact iff_of_false (hspec _).2.2 nofun

theorem closerLockCallback (h : Locked lists callback held .lockCallback)
    (hlock : callback.lock .closer = some callback') : Locked lists callback' held .setClosed := by
  obtain ⟨hfree, rfl⟩ := Mutex.lock_eq_some.mp hlock
  refine ⟨?_, iff_of_true rfl rfl, h.shared_receiver, h.shared_closer, h.unique_receiver,
    h.unique_closer⟩
  rw [← h.callback_receiver, hfree]
  exact ⟨nofun, nofun⟩

theorem closerUnlockCallback (h : Locked lists callback held .unlockCallback) :
    Locked lists callback.unlock held .unlockShared := by
  have howner := h.callback_closer.mpr rfl
  refine ⟨?_, ⟨nofun, nofun⟩, h.shared_receiver, h.shared_closer, h.unique_receiver,
    h.unique_closer⟩
  rw [← h.callback_receiver, howner]
  exact ⟨nofun, nofun⟩

theorem closerUnlockShared (h : Locked lists callback held .unlockShared) :
    Locked (lists.unlockShared .closer) callback held .lockUnique := by
  have hspec := SharedMutex.unlockShared_spec (h.shared_closer.mpr rfl)
  refine ⟨h.callback_receiver, h.callback_closer, ?_, ?_, (hspec _).2.2, ?_⟩
  · rw [(hspec _).1, ← h.shared_receiver]
    exact and_iff_right nofun
  · rw [(hspec _).1]
    exact ⟨fun hne => absurd rfl hne.1, nofun⟩
  · exact iff_of_false (hspec _).2.2 nofun

theorem closerLockUnique (h : Locked lists callback held .lockUnique)
    (hlock : lists.lock .closer = some lists') : Locked lists' callback held .clearDevices := by
  have hspec := SharedMutex.lock_spec hlock
  refine ⟨h.callback_receiver, h.callback_closer, ?_, ?_, ?_, ?_⟩
  · rw [← h.shared_receiver]
    exact iff_of_false (hspec _).2.2.2 (hspec _).2.1
  · exact iff_of_false (hspec _).2.2.2 nofun
  · rw [(hspec _).1]
    exact nofun
  · exact iff_of_true ((hspec _).1.mpr rfl) rfl

theorem closerUnlockUnique (h : Locked lists callback held .unlockUnique) :
    Locked lists.unlock callback held .resetBoundState := by
  have hunique := h.unique_closer.mpr rfl
  refine ⟨h.callback_receiver, h.callback_closer, ?_, ?_, SharedMutex.not_holdsUnique_free _, ?_⟩
  · rw [← h.shared_receiver]
    exact iff_of_false (SharedMutex.not_holdsShared_free _)
      (SharedMutex.not_holdsShared_of_holdsUnique hunique _)
  · exact iff_of_false (SharedMutex.not_holdsShared_free _) nofun
  · exact iff_of_false (SharedMutex.not_holdsUnique_free _) nofun

/-- A step of `close` that neither takes nor releases a lock. -/
theorem closer_congr {closer' : CloserPc} (h : Locked lists callback held closer)
    (hcallback : closer'.holdsCallback = closer.holdsCallback)
    (hshared : closer'.holdsShared = closer.holdsShared)
    (hunique : closer'.holdsUnique = closer.holdsUnique) : Locked lists callback held closer' where
  callback_receiver := h.callback_receiver
  callback_closer := hcallback ▸ h.callback_closer
  shared_receiver := h.shared_receiver
  shared_closer := hshared ▸ h.shared_closer
  unique_receiver := h.unique_receiver
  unique_closer := hunique ▸ h.unique_closer

/-- While `close` holds the callback mutex, no call is in a round. -/
theorem held_ne_both (h : Locked lists callback held closer)
    (hcloser : closer.holdsCallback = true) : held ≠ .both := by
  intro hheld
  have hreceiver := h.callback_receiver.mpr hheld
  rw [h.callback_closer.mpr hcloser] at hreceiver
  cases hreceiver

end Locked

/-! ### Steps -/

variable {preferWriters : Bool} {handler : Handler R} {s t : Concurrent R}

/-- What a step of a call does. -/
structure ReceiverEffect (preferWriters : Bool) (handler : Handler R) (s t : Concurrent R)
    (reply : Reply) (rx rx' : Receiver) : Prop where
  receiver_eq : s.receiver = some rx
  locks : s.receiverLocks preferWriters rx.pc = some (t.lists, t.callback)
  step : receiveStep handler s.socket rx reply = some (t.socket, rx')
  closedHandles_eq : t.closedHandles = s.closedHandles
  closer_eq : t.closer = s.closer
  lateRound_eq :
    t.lateRound = (s.lateRound || (rx.pc = .lockCallback && s.socket.pcapDevicesClosed))
  /-- The call goes on, or it has returned. -/
  proceeds : (t.receiver = some rx' ∧ (∀ n, rx'.pc ≠ .returned n) ∧ t.finished = s.finished) ∨
    (t.receiver = none ∧ ∃ n, rx'.pc = .returned n ∧
      t.finished = s.finished ++ [⟨rx', n, t.lateRound⟩])

theorem receiverStep_effect {reply : Reply}
    (h : s.receiverStep preferWriters handler reply = some t) :
    ∃ rx rx', ReceiverEffect preferWriters handler s t reply rx rx' := by
  unfold receiverStep at h
  obtain ⟨rx, hrx, h⟩ := Option.bind_eq_some_iff.mp h
  obtain ⟨locks, hlocks, h⟩ := Option.bind_eq_some_iff.mp h
  obtain ⟨⟨socket, rx'⟩, hstep, ht⟩ := Option.map_eq_some_iff.mp h
  refine ⟨rx, rx', ?_⟩
  simp only at ht
  split at ht
  next n hpc =>
    subst ht
    exact ⟨hrx, hlocks, hstep, rfl, rfl, rfl, Or.inr ⟨rfl, n, hpc, rfl⟩⟩
  next hpc =>
    subst ht
    exact ⟨hrx, hlocks, hstep, rfl, rfl, rfl, Or.inl ⟨rfl, hpc, rfl⟩⟩

/-- The locks that the receiver holds after its step. -/
theorem ReceiverEffect.held_eq {reply : Reply} {rx rx' : Receiver}
    (h : ReceiverEffect preferWriters handler s t reply rx rx') : t.held = rx.pc.heldNext := by
  rw [← receiveStep_held h.step]
  unfold held
  rcases h.proceeds with ⟨hreceiver, -⟩ | ⟨hreceiver, n, hpc, -⟩
  · rw [hreceiver]
    rfl
  · rw [hreceiver, hpc]
    rfl

/-- **A round that begins after closing ends the call** with `SOCKET_CLOSED`. -/
theorem findsClosed_step {socket socket' : UdpcapSocket R} {rx rx' : Receiver} {reply : Reply}
    (h : FindsClosed rx) (hclosed : socket.pcapDevicesClosed = true)
    (hstep : receiveStep handler socket rx reply = some (socket', rx')) :
    FindsClosed rx' ∨ (rx'.pc = .returned 0 ∧ rx'.error.errorCode = .socketClosed) := by
  cases receiveStep_case hstep with
  | refuse error hpc hcode hwhy => exact Or.inl (Or.inr ⟨Or.inl rfl, hwhy hclosed⟩)
  | first hpc hopen =>
    rw [hclosed] at hopen
    cases hopen
  | leaveRound n hpc =>
    obtain ⟨rfl, herror⟩ : n = 0 ∧ rx.error.errorCode = .socketClosed := by
      rcases h with hpc' | ⟨hpc' | hpc', herror⟩ <;> rw [hpc] at hpc' <;> cases hpc'
      exact ⟨rfl, herror⟩
    exact Or.inl (Or.inr ⟨Or.inr rfl, herror⟩)
  | leave n hpc =>
    obtain ⟨rfl, herror⟩ : n = 0 ∧ rx.error.errorCode = .socketClosed := by
      rcases h with hpc' | ⟨hpc' | hpc', herror⟩ <;> rw [hpc] at hpc' <;> cases hpc'
      exact ⟨rfl, herror⟩
    exact Or.inr ⟨rfl, herror⟩
  | invalid _ _ hpc | valid _ _ hpc | lockLists hpc | lockCallback hpc | take _ _ _ _ hpc
  | skip _ _ _ _ hpc | pollError _ _ _ _ _ _ hpc | crash _ _ _ _ hpc | handle _ _ _ _ _ _ hpc
  | again hpc | noData hpc | timeout _ hpc | wait _ hpc | wake _ _ _ _ hpc
  | waitTimeout _ _ hpc =>
    -- no position of such a call
    rcases h with hpc' | ⟨hpc' | hpc', -⟩ <;> (rw [hpc] at hpc'; cases hpc')

theorem atDevice_of_held {rx : Receiver} (h : rx.pc.held ≠ .both) (socket : UdpcapSocket R) :
    rx.AtDevice socket := by
  unfold Receiver.AtDevice
  cases hpc : rx.pc with
  | poll k pcapDev =>
    rw [hpc] at h
    exact absurd rfl h
  | handle k pcapDev pktData =>
    rw [hpc] at h
    exact absurd rfl h
  | _ => trivial

/-- No call works on the devices of a closed socket. -/
theorem atDevice_of_closed {rx : Receiver} {socket : UdpcapSocket R} (h : rx.AtDevice socket)
    (hclosed : socket.pcapDevicesClosed = true) (socket' : UdpcapSocket R) :
    rx.AtDevice socket' := by
  have hopen : ∀ k pcapDev, ¬Receiver.DeviceAt socket k pcapDev := by
    intro k pcapDev hk
    have hk' := hk.isOpen
    rw [hclosed] at hk'
    cases hk'
  unfold Receiver.AtDevice at h ⊢
  cases hpc : rx.pc with
  | poll k pcapDev =>
    rw [hpc] at h
    exact absurd h (hopen k pcapDev)
  | handle k pcapDev pktData =>
    rw [hpc] at h
    exact absurd h (hopen k pcapDev)
  | _ => trivial

/-- A call one of whose rounds began after closing is on its way out, or has got there. -/
theorem Protocol.lateRound_step {reply : Reply} {rx rx' : Receiver} (hs : s.Protocol)
    (h : ReceiverEffect preferWriters handler s t reply rx rx') (hlate : t.lateRound = true) :
    s.socket.pcapDevicesClosed = true ∧
      (FindsClosed rx' ∨ (rx'.pc = .returned 0 ∧ rx'.error.errorCode = .socketClosed)) := by
  rw [h.lateRound_eq, Bool.or_eq_true, Bool.and_eq_true, decide_eq_true_eq] at hlate
  rcases hlate with hlate | ⟨hpc, hflag⟩
  · obtain ⟨hflag, hfinds⟩ := hs.lateRound hlate
    exact ⟨hflag, findsClosed_step (hfinds rx h.receiver_eq) hflag h.step⟩
  · -- the round begins with this step
    refine ⟨hflag, Or.inl (Or.inl ?_)⟩
    have hstep := h.step
    unfold receiveStep at hstep
    rw [hpc] at hstep
    cases reply with
    | tau =>
      obtain ⟨-, rfl⟩ := Prod.mk.inj (Option.some.inj hstep)
      rfl
    | _ => cases hstep

/-- A step of `receiveDatagram` keeps the invariant. -/
theorem Protocol.receiver {reply : Reply} {rx rx' : Receiver} (hs : s.Protocol)
    (h : ReceiverEffect preferWriters handler s t reply rx rx') : t.Protocol := by
  have hheld : s.held = rx.pc.held := by
    unfold held
    rw [h.receiver_eq]
    rfl
  obtain ⟨reassemblers, hsocket⟩ := receiveStep_socket h.step
  have hclosed : t.socket.pcapDevicesClosed = s.socket.pcapDevicesClosed := by rw [hsocket]
  have hat := (receiveStep_atDevice h.step (hs.atDevice rx h.receiver_eq)).2
  have hlate := hs.lateRound_step h
  refine ⟨?_, ?_, ?_, ?_, ?_, ?_⟩
  · have hlocked := hs.locked
    rw [hheld] at hlocked
    rw [h.held_eq, h.closer_eq]
    exact hlocked.receiver h.locks
  · rw [h.closer_eq, hclosed]
    exact hs.closed_of_closer
  · rw [hclosed, h.closedHandles_eq]
    exact hs.closedHandles
  · intro rx'' hrx
    rcases h.proceeds with ⟨hreceiver, -⟩ | ⟨hreceiver, -⟩
    · rw [hreceiver] at hrx
      cases hrx
      exact hat
    · rw [hreceiver] at hrx
      cases hrx
  · intro htrue
    obtain ⟨hflag, hfinds⟩ := hlate htrue
    refine ⟨hclosed.trans hflag, ?_⟩
    intro rx'' hrx
    rcases h.proceeds with ⟨hreceiver, hgoes, -⟩ | ⟨hreceiver, -⟩
    · rw [hreceiver] at hrx
      cases hrx
      exact hfinds.resolve_right fun hreturned => hgoes 0 hreturned.1
    · rw [hreceiver] at hrx
      cases hrx
  · intro c hc hcl
    rcases h.proceeds with ⟨-, -, hfinished⟩ | ⟨-, n, hpc, hfinished⟩
    · rw [hfinished] at hc
      exact hs.finished c hc hcl
    · rw [hfinished] at hc
      rcases List.mem_append.mp hc with hc | hc
      · exact hs.finished c hc hcl
      · rw [List.mem_singleton.mp hc] at hcl ⊢
        rcases (hlate hcl).2 with hfinds | ⟨hpc', herror⟩
        · unfold FindsClosed at hfinds
          rw [hpc] at hfinds
          rcases hfinds with hfinds | ⟨hfinds | hfinds, -⟩ <;> cases hfinds
        · rw [hpc] at hpc'
          cases hpc'
          exact ⟨rfl, herror⟩

/-- What a step of `close` has to show. -/
theorem Protocol.congr (hs : s.Protocol) (hreceiver : t.receiver = s.receiver)
    (hlate : t.lateRound = s.lateRound) (hfinished : t.finished = s.finished)
    (hlocked : Locked t.lists t.callback s.held t.closer)
    (hcloser : t.closer.hasSetClosed = true → t.socket.pcapDevicesClosed = true)
    (hclosed : s.socket.pcapDevicesClosed = true → t.socket.pcapDevicesClosed = true)
    (hhandles : t.socket.pcapDevicesClosed = false → t.closedHandles = [])
    (hat : ∀ rx ∈ s.receiver, rx.AtDevice t.socket) : t.Protocol where
  locked := by
    have hheld : t.held = s.held := by
      unfold held
      rw [hreceiver]
    rw [hheld]
    exact hlocked
  closed_of_closer := hcloser
  closedHandles := hhandles
  atDevice := by
    rw [hreceiver]
    exact hat
  lateRound := by
    rw [hlate, hreceiver]
    intro h
    obtain ⟨hflag, hfinds⟩ := hs.lateRound h
    exact ⟨hclosed hflag, hfinds⟩
  finished := by
    rw [hfinished]
    exact hs.finished

/-- A step of `close` that only moves on, takes a lock or releases one. -/
theorem Protocol.closer_locks (hs : s.Protocol) {lists : SharedMutex Thread}
    {callback : Mutex Thread} {closer : CloserPc} (hlocked : Locked lists callback s.held closer)
    (hcloser : closer.hasSetClosed = true → s.socket.pcapDevicesClosed = true) :
    Protocol { s with lists := lists, callback := callback, closer := closer } :=
  hs.congr rfl rfl rfl hlocked hcloser id hs.closedHandles hs.atDevice

/-- A step of `close` that changes the socket after it was closed. -/
theorem Protocol.closer_socket (hs : s.Protocol) {socket : UdpcapSocket R} {closer : CloserPc}
    (hflag : s.socket.pcapDevicesClosed = true)
    (hsocket : socket.pcapDevicesClosed = s.socket.pcapDevicesClosed)
    (hlocked : Locked s.lists s.callback s.held closer) :
    Protocol { s with socket := socket, closer := closer } := by
  have hclosed : socket.pcapDevicesClosed = true := hsocket.trans hflag
  refine hs.congr rfl rfl rfl hlocked (fun _ => hclosed) (fun _ => hclosed) ?_ ?_
  · intro hopen
    have hfalse : socket.pcapDevicesClosed = false := hopen
    rw [hfalse] at hclosed
    cases hclosed
  · intro rx hrx
    exact atDevice_of_closed (hs.atDevice rx hrx) hflag socket

/-- A step of `close` keeps the invariant. -/
theorem Protocol.closer (hs : s.Protocol) (h : s.closerStep = some t) : t.Protocol := by
  have hlocked := hs.locked
  have hflag := hs.closed_of_closer
  unfold closerStep at h
  split at h
  case h_1 => cases h
  case h_2 hpc =>
    rw [hpc] at hlocked
    obtain ⟨lists, hlists, rfl⟩ := Option.map_eq_some_iff.mp h
    exact hs.closer_locks (hlocked.closerLockShared hlists) nofun
  case h_3 hpc =>
    rw [hpc] at hlocked
    obtain ⟨callback, hcallback, rfl⟩ := Option.map_eq_some_iff.mp h
    exact hs.closer_locks (hlocked.closerLockCallback hcallback) nofun
  case h_4 hpc =>
    rw [hpc] at hlocked
    cases h
    refine hs.congr rfl rfl rfl (hlocked.closer_congr rfl rfl rfl) (fun _ => rfl) (fun _ => rfl)
      nofun ?_
    -- no call is in a round
    intro rx hrx
    have hheld := hlocked.held_ne_both rfl
    unfold held at hheld
    rw [Option.mem_def.mp hrx] at hheld
    exact atDevice_of_held hheld _
  case h_5 k hpc =>
    rw [hpc] at hlocked hflag
    split at h
    next pcapDev hk =>
      cases h
      refine hs.congr rfl rfl rfl (hlocked.closer_congr rfl rfl rfl) (fun _ => hflag rfl) id ?_
        hs.atDevice
      intro hopen
      have hfalse : s.socket.pcapDevicesClosed = false := hopen
      rw [hfalse] at hflag
      cases hflag rfl
    next =>
      cases h
      exact hs.closer_locks (hlocked.closer_congr rfl rfl rfl) (fun _ => hflag rfl)
  case h_6 hpc =>
    rw [hpc] at hlocked hflag
    cases h
    exact hs.closer_locks hlocked.closerUnlockCallback (fun _ => hflag rfl)
  case h_7 hpc =>
    rw [hpc] at hlocked hflag
    cases h
    exact hs.closer_locks hlocked.closerUnlockShared (fun _ => hflag rfl)
  case h_8 hpc =>
    rw [hpc] at hlocked hflag
    obtain ⟨lists, hlists, rfl⟩ := Option.map_eq_some_iff.mp h
    exact hs.closer_locks (hlocked.closerLockUnique hlists) (fun _ => hflag rfl)
  case h_12 hpc =>
    rw [hpc] at hlocked hflag
    cases h
    exact hs.closer_locks hlocked.closerUnlockUnique (fun _ => hflag rfl)
  all_goals
    rename_i hpc
    rw [hpc] at hlocked hflag
    cases h
    exact hs.closer_socket (hflag rfl) rfl (hlocked.closer_congr rfl rfl rfl)

/-- **What a step of one of the threads is.** -/
theorem concurrentStep_cases {l : ConcurrentLabel}
    (h : concurrentStep preferWriters handler s l = some t) :
    (∃ args, s.receiver = none ∧
        t = { s with receiver := some (.create args), lateRound := false }) ∨
      (∃ reply rx rx', ReceiverEffect preferWriters handler s t reply rx rx') ∨
      (s.closer = .idle ∧ t = { s with closer := .lockShared }) ∨
      s.closerStep = some t := by
  cases l with
  | call args =>
    unfold concurrentStep at h
    simp only at h
    split at h
    next => cases h
    next hnone =>
      cases h
      exact Or.inl ⟨args, by simpa using hnone, rfl⟩
  | receive reply =>
    obtain ⟨rx, rx', heffect⟩ := receiverStep_effect h
    exact Or.inr (Or.inl ⟨reply, rx, rx', heffect⟩)
  | close =>
    unfold concurrentStep at h
    simp only at h
    split at h
    next hidle =>
      cases h
      exact Or.inr (Or.inr (Or.inl ⟨hidle, rfl⟩))
    next => cases h
  | closerStep => exact Or.inr (Or.inr (Or.inr h))

/-- **Every step of one of the threads keeps the invariant.** -/
theorem Protocol.step (hs : s.Protocol) {l : ConcurrentLabel}
    (h : concurrentStep preferWriters handler s l = some t) : t.Protocol := by
  rcases concurrentStep_cases h with ⟨args, hreceiver, rfl⟩ | ⟨reply, rx, rx', heffect⟩ |
    ⟨hidle, rfl⟩ | hcloser
  · refine ⟨?_, hs.closed_of_closer, hs.closedHandles, ?_, nofun, hs.finished⟩
    · have hlocked := hs.locked
      unfold held at hlocked ⊢
      rw [hreceiver] at hlocked
      exact hlocked
    · intro rx hrx
      cases hrx
      trivial
  · exact hs.receiver heffect
  · have hlocked := hs.locked
    rw [hidle] at hlocked
    exact hs.closer_locks (hlocked.closer_congr rfl rfl rfl) nofun
  · exact hs.closer hcloser

/-! ### What the locks are for -/

/-- The receiver waits for a mutex. -/
def ReceiverBlocked (preferWriters : Bool) (s : Concurrent R) : Prop :=
  ∃ rx ∈ s.receiver, s.receiverLocks preferWriters rx.pc = none

/-- `close` waits for a mutex. -/
def CloserBlocked (s : Concurrent R) : Prop := s.closer ≠ .idle ∧ s.closerStep = none

/-- How many steps a call that has found the socket closed is away from its end. -/
def stepsLeft : Pc → ℕ
  | .checks => 3
  | .leaveRound _ => 2
  | .leave _ => 1
  | _ => 0

/-- What the locks are for. -/
structure Safe (preferWriters : Bool) (handler : Handler R) (s : Concurrent R) : Prop where
  /-- Neither `pcap_next_ex` nor the handler works on a closed handle. -/
  not_closed : ∀ rx ∈ s.receiver, ∀ k pcapDev, (rx.pc = .poll k pcapDev ∨
    ∃ pktData, rx.pc = .handle k pcapDev pktData) → pcapDev.pcapHandle ∉ s.closedHandles
  /-- The lists stay as they are while a call holds its shared lock. -/
  lists_kept : ∀ t, s.closerStep = some t → s.lists.HoldsShared .receiver →
    t.socket.pcapDevices = s.socket.pcapDevices ∧
      t.socket.pcapWin32Handles = s.socket.pcapWin32Handles ∧
      t.socket.pcapDevicesIpReassembly = s.socket.pcapDevicesIpReassembly
  /-- A call that has begun a round after closing has returned 0 and `SOCKET_CLOSED`. -/
  finished : ∀ c ∈ s.finished, c.lateRound = true →
    c.result = 0 ∧ c.receiver.error.errorCode = .socketClosed
  /-- Or it is going to: no lock keeps it from doing its last steps. -/
  running : s.lateRound = true → ∀ rx ∈ s.receiver, ∃ t,
    concurrentStep preferWriters handler s (.receive .tau) = some t ∧
      ∀ rx' ∈ t.receiver, stepsLeft rx'.pc < stepsLeft rx.pc
  no_deadlock : ¬(s.ReceiverBlocked preferWriters ∧ s.CloserBlocked)

namespace Protocol

theorem not_closed (hs : s.Protocol) {rx : Receiver} (hrx : rx ∈ s.receiver) {k : ℕ}
    {pcapDev : PcapDev}
    (hpc : rx.pc = .poll k pcapDev ∨ ∃ pktData, rx.pc = .handle k pcapDev pktData) :
    pcapDev.pcapHandle ∉ s.closedHandles := by
  have hat := hs.atDevice rx hrx
  have hdevice : Receiver.DeviceAt s.socket k pcapDev := by
    rcases hpc with hpc | ⟨pktData, hpc⟩
    · exact hat.at_poll hpc
    · exact hat.at_handle hpc
  rw [hs.closedHandles hdevice.isOpen]
  exact List.not_mem_nil

theorem lists_kept (hs : s.Protocol) (h : s.closerStep = some t)
    (hshared : s.lists.HoldsShared .receiver) :
    t.socket.pcapDevices = s.socket.pcapDevices ∧
      t.socket.pcapWin32Handles = s.socket.pcapWin32Handles ∧
      t.socket.pcapDevicesIpReassembly = s.socket.pcapDevicesIpReassembly := by
  have hunique : s.closer.holdsUnique = false := by
    by_contra hunique
    rw [Bool.not_eq_false] at hunique
    exact SharedMutex.not_holdsShared_of_holdsUnique (hs.locked.unique_closer.mpr hunique) _ hshared
  unfold closerStep at h
  split at h
  case h_2 | h_3 | h_8 =>
    obtain ⟨_, -, rfl⟩ := Option.map_eq_some_iff.mp h
    exact ⟨rfl, rfl, rfl⟩
  case h_5 =>
    split at h <;> cases h <;> exact ⟨rfl, rfl, rfl⟩
  case h_9 hpc | h_10 hpc | h_11 hpc =>
    rw [hpc] at hunique
    cases hunique
  all_goals
    cases h
    try exact ⟨rfl, rfl, rfl⟩

/-- A call that finds the socket closed comes closer to its end with every step, and takes
no lock any more. -/
theorem findsClosed_enabled {socket : UdpcapSocket R} {rx : Receiver} (h : FindsClosed rx)
    (hclosed : socket.pcapDevicesClosed = true) (preferWriters : Bool) (handler : Handler R)
    (s : Concurrent R) : ∃ rx' locks, receiveStep handler socket rx .tau = some (socket, rx') ∧
      s.receiverLocks preferWriters rx.pc = some locks ∧ stepsLeft rx'.pc < stepsLeft rx.pc := by
  unfold receiveStep
  rcases h with hpc | ⟨hpc | hpc, -⟩
  · rw [hpc]
    have hfail : rx.afterChecks socket = rx.fail (rx.error.assignCode .socketClosed) :=
      if_pos hclosed
    refine ⟨rx.afterChecks socket, _, rfl, rfl, ?_⟩
    rw [hfail]
    exact Nat.lt_succ_self 2
  · rw [hpc]
    exact ⟨_, _, rfl, rfl, Nat.lt_succ_self 1⟩
  · rw [hpc]
    exact ⟨_, _, rfl, rfl, Nat.lt_succ_self 0⟩

/-- A call that finds the socket closed is never kept waiting. -/
theorem running (hs : s.Protocol) (preferWriters : Bool) (handler : Handler R)
    (hlate : s.lateRound = true) {rx : Receiver} (hrx : rx ∈ s.receiver) :
    ∃ t, concurrentStep preferWriters handler s (.receive .tau) = some t ∧
      ∀ rx' ∈ t.receiver, stepsLeft rx'.pc < stepsLeft rx.pc := by
  obtain ⟨hflag, hfinds⟩ := hs.lateRound hlate
  obtain ⟨rx', locks, hstep, hlocks, hless⟩ :=
    findsClosed_enabled (hfinds rx hrx) hflag preferWriters handler s
  unfold concurrentStep receiverStep
  simp only
  rw [Option.mem_def.mp hrx, Option.bind_some, hlocks, Option.bind_some, hstep]
  refine ⟨_, rfl, ?_⟩
  intro rx'' hrx''
  simp only at hrx''
  split at hrx''
  · cases hrx''
  · cases hrx''
    exact hless

/-- A receiver that waits holds at most the lists, and `close` is in its way. -/
theorem receiverBlocked (hs : s.Protocol) (h : s.ReceiverBlocked preferWriters) :
    (s.held = .nothing ∧ (s.closer = .lockUnique ∨ s.closer.holdsUnique = true)) ∨
      (s.held = .lists ∧ s.closer.holdsCallback = true) := by
  obtain ⟨rx, hrx, hlocks⟩ := h
  have hheld : s.held = rx.pc.held := by
    unfold held
    rw [Option.mem_def.mp hrx]
    rfl
  unfold receiverLocks at hlocks
  split at hlocks
  next hpc =>
    left
    rw [hpc] at hheld
    refine ⟨hheld, ?_⟩
    split at hlocks
    next hprefer =>
      rw [Bool.and_eq_true, decide_eq_true_eq] at hprefer
      exact Or.inl hprefer.2
    next =>
      obtain ⟨t', ht'⟩ := SharedMutex.lockShared_eq_none.mp (Option.map_eq_none_iff.mp hlocks)
      cases t' with
      | receiver => exact absurd ht' hs.locked.unique_receiver
      | closer => exact Or.inr (hs.locked.unique_closer.mp ht')
  next hpc =>
    right
    rw [hpc] at hheld
    refine ⟨hheld, ?_⟩
    obtain ⟨t', ht'⟩ := Mutex.lock_eq_none.mp (Option.map_eq_none_iff.mp hlocks)
    cases t' with
    | receiver =>
      have hboth := hs.locked.callback_receiver.mp ht'
      rw [hheld] at hboth
      cases hboth
    | closer => exact hs.locked.callback_closer.mp ht'
  all_goals cases hlocks

/-- `close` waits only for a call in a round, or for one to leave the lists. -/
theorem closerBlocked (hs : s.Protocol) (h : s.CloserBlocked) :
    (s.closer = .lockCallback ∧ s.held = .both) ∨ (s.closer = .lockUnique ∧ s.held ≠ .nothing) := by
  obtain ⟨hidle, hstep⟩ := h
  have hlocked := hs.locked
  unfold closerStep at hstep
  split at hstep
  case h_1 hpc => exact absurd hpc hidle
  case h_2 hpc =>
    -- nobody else ever takes the lists in write mode
    obtain ⟨t', ht'⟩ := SharedMutex.lockShared_eq_none.mp (Option.map_eq_none_iff.mp hstep)
    rw [hpc] at hlocked
    cases t' with
    | receiver => exact absurd ht' hlocked.unique_receiver
    | closer => exact absurd (hlocked.unique_closer.mp ht') Bool.false_ne_true
  case h_3 hpc =>
    left
    refine ⟨hpc, ?_⟩
    obtain ⟨t', ht'⟩ := Mutex.lock_eq_none.mp (Option.map_eq_none_iff.mp hstep)
    rw [hpc] at hlocked
    cases t' with
    | receiver => exact hlocked.callback_receiver.mp ht'
    | closer => exact absurd (hlocked.callback_closer.mp ht') Bool.false_ne_true
  case h_5 => split at hstep <;> cases hstep
  case h_8 hpc =>
    right
    refine ⟨hpc, ?_⟩
    rw [hpc] at hlocked
    rcases SharedMutex.lock_eq_none.mp (Option.map_eq_none_iff.mp hstep) with ⟨t', ht'⟩ | ⟨t', ht'⟩
    · cases t' with
      | receiver => exact absurd ht' hlocked.unique_receiver
      | closer => exact absurd (hlocked.unique_closer.mp ht') Bool.false_ne_true
    · cases t' with
      | receiver => exact hlocked.shared_receiver.mp ht'
      | closer => exact absurd (hlocked.shared_closer.mp ht') Bool.false_ne_true
  all_goals cases hstep

theorem no_deadlock (hs : s.Protocol) :
    ¬(s.ReceiverBlocked preferWriters ∧ s.CloserBlocked) := by
  rintro ⟨hreceiver, hcloser⟩
  rcases hs.closerBlocked hcloser with ⟨hpc, hheld⟩ | ⟨hpc, hheld⟩
  · rcases hs.receiverBlocked hreceiver with ⟨hheld', -⟩ | ⟨hheld', -⟩ <;>
      (rw [hheld] at hheld'; cases hheld')
  · rcases hs.receiverBlocked hreceiver with ⟨hheld', -⟩ | ⟨-, hcallback⟩
    · exact hheld hheld'
    · rw [hpc] at hcallback
      cases hcallback

theorem safe (hs : s.Protocol) (preferWriters : Bool) (handler : Handler R) :
    s.Safe preferWriters handler where
  not_closed := fun _ hrx _ _ hpc => hs.not_closed hrx hpc
  lists_kept := fun _ ht hshared => hs.lists_kept ht hshared
  finished := hs.finished
  running := fun hlate _ hrx => hs.running preferWriters handler hlate hrx
  no_deadlock := hs.no_deadlock

end Protocol

end Concurrent

/-- **In every interleaving of a receiving and a closing thread**, no closed handle is
used, the lists are not cleared under a call, a round that begins after closing ends its
call with 0 and `SOCKET_CLOSED`, and the threads never wait for each other. -/
theorem close_protocol (preferWriters : Bool) (handler : Handler R) (socket : UdpcapSocket R)
    (labels : List ConcurrentLabel) :
    Foundation.HoldsAlong (concurrentStep preferWriters handler)
      (Concurrent.Safe preferWriters handler) (Concurrent.start socket) labels :=
  Foundation.holdsAlong_of_invariant (I := Concurrent.Protocol)
    (fun _ hs => hs.safe preferWriters handler) (fun _ _ _ hs hst => hs.step hst)
    (Concurrent.protocol_start socket)

/-- A socket is closed while a call waits for data: `close` has to wait for the call before
it clears the lists, and the call ends with `SOCKET_CLOSED`. -/
example :
    let socket : UdpcapSocket Unit := { UdpcapSocket.create true with
      boundState := true, pcapDevices := [⟨0, false, []⟩], pcapWin32Handles := [0] }
    let handler : Handler Unit := fun reassemblers callbackArgs _ _ =>
      some (reassemblers, callbackArgs)
    let waiting := [.call ⟨[], 0, le_rfl, -1, none, none, .ofCode .ok⟩, .receive .tau,
      .receive .tau, .receive .tau, .receive .tau, .receive (.next 0 [] ""), .receive .tau,
      .receive (.clock 0)]
    let closing := .close :: List.replicate 7 .closerStep
    let woken := [.receive (.wait waitFailed ""), .receive .tau, .receive .tau, .receive .tau,
      .receive .tau]
    let step := concurrentStep true handler
    (Foundation.run step (.start socket) (waiting ++ closing ++ [.closerStep])).isNone ∧
      (Foundation.run step (.start socket) (waiting ++ closing ++ woken ++ [.closerStep])).map
        (fun s => (s.closer, s.closedHandles, s.finished.map fun c =>
          (c.result, c.receiver.error.errorCode, c.lateRound))) =
        some (.clearDevices, [0], [(0, .socketClosed, true)]) := by
  decide +kernel

end Udpcap
