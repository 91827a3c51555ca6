import Udpcap.CloseProtocol
import Udpcap.Foundation.LockOrder

/-!
# No deadlocks

The library has two locks for each socket, `pcap_devices_lists_mutex_` and
`pcap_devices_callback_mutex_`, and two global ones, `npcap_mutex` and `pcap_compile_mutex`.  All
functions take them in this order, so no threads block each other for good: neither many
threads on many sockets, nor functions that should not be called at the same time.

## Main definitions

* `Lock`, `Lock.rank` — the locks, and the order in which they are taken.
* `ReceiveLocks`, `CloseLocks` — the locks that the steps of a call take and release.
* `LockingCall`, `LockingCall.body` — the functions that take locks.

## Main results

* `receive_locks`, `close_locks` — a call takes its locks in scopes, round by round.
* `library_deadlock_free` — **however threads call the functions, some thread can go on until
  all of them have returned.**
-/

namespace Udpcap

open Foundation

variable {R ι : Type}

/-! ### Locks -/

/-- The locks of the library and of the sockets `ι`. -/
inductive Lock (ι : Type)
  /-- `pcap_devices_lists_mutex_` -/
  | lists (socket : ι)
  /-- `pcap_devices_callback_mutex_` -/
  | callback (socket : ι)
  /-- `npcap_mutex` -/
  | npcap
  /-- `pcap_compile_mutex` -/
  | compile
  deriving DecidableEq, Repr

namespace Lock

/-- The order in which the locks are taken. -/
def rank : Lock ι → ℕ
  | .lists _ => 0
  | .callback _ => 1
  | .npcap => 2
  | .compile => 3

theorem lists_lt_callback (socket : ι) : (lists socket).rank < (callback socket).rank :=
  Nat.zero_lt_one

theorem rank_le (l : Lock ι) : l.rank ≤ 3 := by
  cases l <;> simp [rank]

end Lock

/-- A mutex is locked, and unlocked again. -/
def guarded (l : Lock ι) : List (LockAction (Lock ι)) := withLock .unique l []

/-- The same again and again. -/
def guardedTimes (n : ℕ) (l : Lock ι) : List (LockAction (Lock ι)) :=
  (List.replicate n (guarded l)).flatten

theorem guardedTimes_succ (n : ℕ) (l : Lock ι) :
    guardedTimes (n + 1) l = .lock .unique l :: .unlock :: guardedTimes n l := by
  simp [guardedTimes, guarded, withLock, List.replicate_succ]

theorem nested_guarded {n : ℕ} {l : Lock ι} (h : n ≤ l.rank) : Nested Lock.rank n (guarded l) :=
  .single h (.nil _)

theorem nested_guardedTimes {n : ℕ} {l : Lock ι} (h : n ≤ l.rank) (k : ℕ) :
    Nested Lock.rank n (guardedTimes k l) := (nested_guarded h).replicate k

/-! ### The locks of `receiveDatagram` -/

/-- What a step of `receiveDatagram` does with locks. -/
def Pc.lockActions (socket : ι) : Pc → List (LockAction (Lock ι))
  | .lockLists => [.lock .shared (.lists socket)]
  | .lockCallback => [.lock .unique (.callback socket)]
  | .unlockCallback | .leaveRound _ | .leave _ => [.unlock]
  | .start | .checks | .poll .. | .handle .. | .timeCheck | .wait _ | .returned _ | .crashed => []

/-- The locks that a call takes and releases until it returns.  From step to step, other
threads may change the socket. -/
inductive ReceiveLocks (handler : Handler R) (socket : ι) :
    Receiver → List (LockAction (Lock ι)) → Prop
  | returned {rx : Receiver} (n : ℕ) (hpc : rx.pc = .returned n) : ReceiveLocks handler socket rx []
  | step {s s' : UdpcapSocket R} {rx rx' : Receiver} {reply : Reply}
    {locks : List (LockAction (Lock ι))} (hstep : receiveStep handler s rx reply = some (s', rx'))
    (hrest : ReceiveLocks handler socket rx' locks) :
    ReceiveLocks handler socket rx (rx.pc.lockActions socket ++ locks)

/-- The shared lock, and the rounds within it. -/
def receiveLocks (socket : ι) (rounds : ℕ) : List (LockAction (Lock ι)) :=
  withLock .shared (.lists socket) (guardedTimes rounds (.callback socket))

/-- What is left to do with locks at a position. -/
def Pc.LocksLeft (socket : ι) (locks : List (LockAction (Lock ι))) : Pc → Prop
  | .start => locks = [] ∨ ∃ n, locks = receiveLocks socket (n + 1)
  | .lockLists => ∃ n, locks = receiveLocks socket (n + 1)
  | .lockCallback => ∃ n, locks = guardedTimes (n + 1) (.callback socket) ++ [.unlock]
  | .checks | .poll .. | .handle .. | .unlockCallback | .leaveRound _ =>
    ∃ n, locks = .unlock :: (guardedTimes n (.callback socket) ++ [.unlock])
  | .timeCheck | .wait _ | .leave _ => ∃ n, locks = guardedTimes n (.callback socket) ++ [.unlock]
  | .returned _ => locks = []
  | .crashed => False

section Receive

variable {handler : Handler R} {socket : ι} {locks : List (LockAction (Lock ι))}

theorem locksLeft_toDevice {rx : Receiver} {s : UdpcapSocket R} {k : ℕ}
    (h : (rx.toDevice s k).pc.LocksLeft socket locks) :
    ∃ n, locks = .unlock :: (guardedTimes n (.callback socket) ++ [.unlock]) := by
  rcases rx.pc_toDevice s k with ⟨pcapDev, -, hpc⟩ | ⟨-, hpc⟩
  · rw [hpc] at h
    exact h
  · rw [hpc] at h
    exact h

/-- What is left at a position of a call that returns, step by step. -/
theorem ReceiveLocks.locksLeft {rx : Receiver} (h : ReceiveLocks handler socket rx locks) :
    rx.pc.LocksLeft socket locks := by
  induction h with
  | returned n hpc =>
    rw [hpc]
    rfl
  | @step s s' rx rx' reply locks hstep _ ih =>
    cases receiveStep_case hstep with
    | invalid _ _ hpc =>
      rw [hpc]
      exact Or.inl ih
    | valid _ _ hpc =>
      rw [hpc]
      exact Or.inr ih
    | lockLists hpc =>
      obtain ⟨n, rfl⟩ := ih
      rw [hpc]
      exact ⟨n, rfl⟩
    | lockCallback hpc =>
      -- a round begins
      obtain ⟨n, rfl⟩ := ih
      rw [hpc]
      refine ⟨n, ?_⟩
      rw [guardedTimes_succ]
      rfl
    | refuse _ hpc | take _ _ _ _ hpc | pollError _ _ _ _ _ _ hpc =>
      rw [hpc]
      exact ih
    | first hpc | skip _ _ _ _ hpc =>
      rw [hpc]
      exact locksLeft_toDevice ih
    | crash => exact ih.elim
    | handle k pcapDev pktData env reassemblers callbackArgs hpc =>
      rw [hpc]
      rcases rx.pc_afterHandler s k callbackArgs with ⟨-, hleave, -⟩ | ⟨-, hnext, -⟩
      · rw [hleave] at ih
        exact ih
      · rw [hnext] at ih
        exact locksLeft_toDevice ih
    | again hpc =>
      obtain ⟨n, rfl⟩ := ih
      rw [hpc]
      exact ⟨n + 1, rfl⟩
    | noData hpc | leaveRound _ hpc =>
      obtain ⟨n, rfl⟩ := ih
      rw [hpc]
      exact ⟨n, rfl⟩
    | timeout _ hpc | wait _ hpc | waitTimeout _ _ hpc =>
      rw [hpc]
      exact ih
    | wake _ _ _ _ hpc =>
      obtain ⟨n, rfl⟩ := ih
      rw [hpc]
      exact ⟨n + 1, rfl⟩
    | leave _ hpc =>
      rw [hpc]
      exact ⟨0, by rw [ih]; rfl⟩

/-- **A call takes the shared lock, and the callback mutex once in every round**; on an invalid
socket it takes no lock. -/
theorem receive_locks {args : ReceiveArgs}
    (h : ReceiveLocks handler socket (.create args) locks) :
    locks = [] ∨ ∃ n, locks = receiveLocks socket (n + 1) := h.locksLeft

/-- A call on a socket that is not bound begins one round. -/
example (handler : Handler R) (args : ReceiveArgs) (htimeout : args.timeoutMs = -1) :
    ReceiveLocks handler socket (.create args) (receiveLocks socket 1) := by
  let s : UdpcapSocket R := { UdpcapSocket.create true with pcapDevicesClosed := false }
  have hstart : receiveStep handler s (.create args) .tau =
      some (s, (Receiver.create args).afterStart s timePointMax) :=
    if_pos (by simp [Receiver.create, htimeout])
  have htau : ∀ {rx rx' : Receiver} {locks : List (LockAction (Lock ι))},
      receiveStep handler s rx .tau = some (s, rx') → ReceiveLocks handler socket rx' locks →
        ReceiveLocks handler socket rx (rx.pc.lockActions socket ++ locks) :=
    fun hstep hrest => .step hstep hrest
  exact htau hstart (htau rfl (htau rfl (htau rfl (htau rfl (htau rfl (.returned 0 rfl))))))

end Receive

/-! ### The locks of `close` -/

/-- What a step of `close` does with locks. -/
def CloserPc.lockActions (socket : ι) : CloserPc → List (LockAction (Lock ι))
  | .lockShared => [.lock .shared (.lists socket)]
  | .lockCallback => [.lock .unique (.callback socket)]
  | .lockUnique => [.lock .unique (.lists socket)]
  | .unlockCallback | .unlockShared | .unlockUnique => [.unlock]
  | .idle | .setClosed | .closing _ | .clearDevices | .clearHandles | .clearReassembly
  | .resetBoundState | .resetBoundPort | .resetBoundAddress => []

variable (R) in
/-- The locks that `close` takes and releases until it returns. -/
inductive CloseLocks (socket : ι) : CloserPc → List (LockAction (Lock ι)) → Prop
  | returned : CloseLocks socket .idle []
  | step {s t : Concurrent R} {locks : List (LockAction (Lock ι))} (hstep : s.closerStep = some t)
    (hrest : CloseLocks socket t.closer locks) :
    CloseLocks socket s.closer (s.closer.lockActions socket ++ locks)

/-- What is left to do with locks at a position of `close`. -/
def CloserPc.locksLeft (socket : ι) : CloserPc → List (LockAction (Lock ι))
  | .lockShared =>
    withLock .shared (.lists socket) (guarded (.callback socket)) ++ guarded (.lists socket)
  | .lockCallback => guarded (.callback socket) ++ .unlock :: guarded (.lists socket)
  | .setClosed | .closing _ | .unlockCallback => .unlock :: .unlock :: guarded (.lists socket)
  | .unlockShared => .unlock :: guarded (.lists socket)
  | .lockUnique => guarded (.lists socket)
  | .clearDevices | .clearHandles | .clearReassembly | .unlockUnique => [.unlock]
  | .idle | .resetBoundState | .resetBoundPort | .resetBoundAddress => []

theorem CloseLocks.eq_locksLeft {socket : ι} {pc : CloserPc} {locks : List (LockAction (Lock ι))}
    (h : CloseLocks R socket pc locks) : locks = pc.locksLeft socket := by
  induction h with
  | returned => rfl
  | @step s t locks hstep _ ih =>
    rw [ih]
    unfold Concurrent.closerStep at hstep
    split at hstep
    case h_1 => cases hstep
    case h_2 hpc | h_3 hpc | h_8 hpc =>
      obtain ⟨lock, -, rfl⟩ := Option.map_eq_some_iff.mp hstep
      rw [hpc]
      rfl
    case h_5 k hpc =>
      -- the loop over the devices takes no lock
      split at hstep <;> (cases hstep; rw [hpc]; rfl)
    all_goals
      rename_i hpc
      cases hstep
      rw [hpc]
      rfl

/-- **`close` takes the callback mutex under the shared lock**, releases both, and then takes
the lists alone. -/
theorem close_locks {socket : ι} {locks : List (LockAction (Lock ι))}
    (h : CloseLocks R socket .lockShared locks) :
    locks = withLock .shared (.lists socket) (guarded (.callback socket)) ++
      guarded (.lists socket) := h.eq_locksLeft

/-- A socket without devices is closed, while no other thread holds a lock. -/
example (socket : ι) : CloseLocks R socket .lockShared
    (withLock .shared (.lists socket) (guarded (.callback socket)) ++ guarded (.lists socket)) := by
  let s : Concurrent R := { Concurrent.start (.create true) with closer := .lockShared }
  have hnext : ∀ {u v : Concurrent R} {locks : List (LockAction (Lock ι))},
      u.closerStep = some v → CloseLocks R socket v.closer locks →
        CloseLocks R socket u.closer (u.closer.lockActions socket ++ locks) :=
    fun hstep hrest => .step hstep hrest
  -- up to the empty loop over the devices, the lists, and the members that belong to `bind`
  have hreset : CloseLocks R socket .resetBoundState [] :=
    hnext (u := { s with closer := .resetBoundState }) rfl
      (hnext rfl (hnext rfl .returned))
  have hclear : CloseLocks R socket .lockUnique (guarded (.lists socket)) :=
    hnext (u := { s with closer := .lockUnique }) rfl
      (hnext rfl (hnext rfl (hnext rfl (hnext rfl hreset))))
  exact hnext (u := s) rfl (hnext rfl (hnext rfl (hnext rfl (hnext rfl (hnext rfl hclear)))))

/-! ### The functions -/

/-- A call of a function that takes locks, with what decides how often it does. -/
inductive LockingCall (R ι : Type)
  /-- `Initialize`, which the constructor of a socket calls, too, or another function of
  `npcap_helpers.h`. -/
  | npcapHelper
  /-- `bind` on an invalid or bound socket or for an invalid address, which is refused before
  anything is locked. -/
  | bindRefused (socket : ι)
  /-- `bind`: `GetLoopbackDeviceName` and `IsLoopbackDevice` are called while the devices are
  opened, and then a filter is compiled for each device. -/
  | bind (socket : ι) (helpers filters : ℕ)
  | isClosed (socket : ι)
  /-- `joinMulticastGroup`, `leaveMulticastGroup` and `setMulticastLoopbackEnabled` compile a
  filter for each device. -/
  | updateAllCaptureFilters (filters : ℕ)
  | receiveDatagram (socket : ι) (handler : Handler R) (args : ReceiveArgs)
    (locks : List (LockAction (Lock ι)))
    (hlocks : ReceiveLocks handler socket (.create args) locks)
  /-- `close`, which the destructor of a socket calls, too. -/
  | close (socket : ι) (locks : List (LockAction (Lock ι)))
    (hlocks : CloseLocks R socket .lockShared locks)

namespace LockingCall

/-- What a function does with locks. -/
def body : LockingCall R ι → List (LockAction (Lock ι))
  | .npcapHelper => guarded .npcap
  | .bindRefused _ => []
  | .bind socket helpers filters =>
    withLock .unique (.lists socket) (guardedTimes helpers .npcap ++ guardedTimes filters .compile)
  | .isClosed socket => guarded (.callback socket)
  | .updateAllCaptureFilters filters => guardedTimes filters .compile
  | .receiveDatagram _ _ _ locks _ => locks
  | .close _ locks _ => locks

/-- **All functions take locks in the order of their ranks.** -/
theorem nested_body (c : LockingCall R ι) : Nested Lock.rank 0 c.body := by
  cases c with
  | npcapHelper => exact nested_guarded (Nat.zero_le _)
  | bindRefused socket => exact .nil 0
  | bind socket helpers filters =>
    have hhelpers : Nested Lock.rank 1 (guardedTimes helpers (.npcap : Lock ι)) :=
      nested_guardedTimes (by simp [Lock.rank]) helpers
    have hfilters : Nested Lock.rank 1 (guardedTimes filters (.compile : Lock ι)) :=
      nested_guardedTimes (by simp [Lock.rank]) filters
    exact .single (Nat.zero_le _) (hhelpers.append hfilters)
  | isClosed socket => exact nested_guarded (Nat.zero_le _)
  | updateAllCaptureFilters filters => exact nested_guardedTimes (Nat.zero_le _) filters
  | receiveDatagram socket handler args locks hlocks =>
    rcases receive_locks hlocks with rfl | ⟨n, rfl⟩
    · exact .nil 0
    · exact .single (Nat.zero_le _) (nested_guardedTimes (Lock.lists_lt_callback socket) (n + 1))
  | close socket locks hlocks =>
    have hshared : Nested Lock.rank 0
        (withLock .shared (.lists socket) (guarded (.callback socket))) :=
      .single (Nat.zero_le _) (nested_guarded (Lock.lists_lt_callback socket))
    rw [body, close_locks hlocks]
    exact hshared.append (nested_guarded (Nat.zero_le _))

end LockingCall

/-- **However threads call the functions of the library, on however many sockets, some thread
can take or release its next lock** until all calls have returned, and then no lock is held. -/
theorem library_deadlock_free {θ : Type} [DecidableEq θ] [Fintype θ] [DecidableEq ι]
    (preferWriters : Bool) (labels : List (LockLabel θ (LockingCall R ι))) :
    HoldsAlong (lockingStep preferWriters LockingCall.body)
      (Locking.Live preferWriters (LockingCall.body (R := R))) Locking.start labels :=
  Locking.live_of_nested Lock.rank_le LockingCall.nested_body preferWriters labels

end Udpcap
