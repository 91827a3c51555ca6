import Udpcap.CloseProtocol

/-!
# How long the threads wait for each other

A thread that calls `receiveDatagram` and one that calls `close` wait for each other's
locks.  Neither can be kept waiting for more than a bounded number of steps of the other,
however long calls go on and however many packets there are.

## Main definitions

* `Pc.stepsInRound`, `Pc.stepsInLists` — how far a call is from the end of its round, and of
  its shared lock.
* `CloserPc.stepsToUnlock` — the same for `close`.
* `Concurrent.WaitsBounded` — nobody waits long, or for a thread that cannot go on.

## Main results

* `receiveStep_inRound`, `receiveStep_inLists` — a call comes nearer to these ends.
* `bounded_waiting` — **in every interleaving, every wait for a lock is bounded.**
-/

namespace Udpcap

variable {R : Type}

/-! ### Ranks -/

/-- The steps that a call with `n` devices is away from the end of its round, at most. -/
def Pc.stepsInRound (n : ℕ) : Pc → ℕ
  | .checks => 2 * n + 3
  | .poll k _ => 2 * (n - k) + 2
  | .handle k _ _ => 2 * (n - k) + 1
  | .unlockCallback | .leaveRound _ => 1
  | _ => 0

/-- The steps that a call on a closed socket is away from unlocking the lists, at most. -/
def Pc.stepsInLists : Pc → ℕ
  | .unlockCallback => 7
  | .timeCheck => 6
  | .wait _ => 5
  | .lockCallback => 4
  | .checks => 3
  | .leaveRound _ => 2
  | .leave _ => 1
  | .start | .lockLists | .poll .. | .handle .. | .returned _ | .crashed => 0

/-- The steps that `close` is away from unlocking what it holds, with `n` devices, or what it
waits for in write mode. -/
def CloserPc.stepsToUnlock (n : ℕ) : CloserPc → ℕ
  | .setClosed => n + 3
  | .closing k => n - k + 2
  | .unlockCallback => 1
  | .lockUnique => 5
  | .clearDevices => 4
  | .clearHandles => 3
  | .clearReassembly => 2
  | .unlockUnique => 1
  | _ => 0

theorem Pc.stepsInRound_le {n : ℕ} (pc : Pc) : pc.stepsInRound n ≤ 2 * n + 3 := by
  cases pc <;> simp only [stepsInRound] <;> omega

theorem Pc.stepsInLists_le (pc : Pc) : pc.stepsInLists ≤ 7 := by
  cases pc <;> simp [stepsInLists]

theorem CloserPc.stepsToUnlock_le {n : ℕ} (pc : CloserPc) : pc.stepsToUnlock n ≤ n + 5 := by
  cases pc <;> simp only [stepsToUnlock] <;> omega

/-! ### Steps of a call -/

section Steps

variable {handler : Handler R} {s s' : UdpcapSocket R} {rx rx' : Receiver} {reply : Reply}

/-- The loop has at most the devices ahead of it. -/
theorem stepsInRound_toDevice (rx : Receiver) (s : UdpcapSocket R) (k : ℕ) :
    (rx.toDevice s k).pc.stepsInRound s.pcapDevices.length ≤
      2 * (s.pcapDevices.length - k) + 2 := by
  rcases rx.pc_toDevice s k with ⟨pcapDev, -, hpc⟩ | ⟨-, hpc⟩
  · rw [hpc]
    exact le_rfl
  · rw [hpc]
    simp only [Pc.stepsInRound]
    omega

/-- **Every step within a round brings its end nearer**, whatever the devices answer. -/
theorem receiveStep_inRound (h : receiveStep handler s rx reply = some (s', rx'))
    (hat : rx.AtDevice s) (hheld : rx.pc.held = .both) :
    rx'.pc.stepsInRound s.pcapDevices.length < rx.pc.stepsInRound s.pcapDevices.length := by
  -- a position in the loop over the devices is a position in the list
  have hlt : ∀ k pcapDev, Receiver.DeviceAt s k pcapDev → k < s.pcapDevices.length :=
    fun k pcapDev hk => (List.getElem?_eq_some_iff.mp hk.getElem?).1
  cases receiveStep_case h with
  | refuse error hpc =>
    rw [hpc]
    simp only [Receiver.fail, Pc.stepsInRound]
    omega
  | first hpc =>
    have hfirst := stepsInRound_toDevice rx s 0
    rw [hpc]
    refine lt_of_le_of_lt hfirst ?_
    show _ < 2 * s.pcapDevices.length + 3
    omega
  | take k pcapDev pktData geterr hpc =>
    rw [hpc]
    simp only [Pc.stepsInRound]
    omega
  | skip k pcapDev pktData geterr hpc =>
    -- no packet: two steps for every device that is left
    have hnext := stepsInRound_toDevice rx s (k + 1)
    have hk := hlt k pcapDev (hat.at_poll hpc)
    rw [hpc]
    refine lt_of_le_of_lt hnext ?_
    show _ < 2 * (s.pcapDevices.length - k) + 2
    omega
  | pollError k pcapDev errorcode pktData geterr error hpc =>
    rw [hpc]
    simp only [Receiver.fail, Pc.stepsInRound]
    omega
  | crash k pcapDev pktData env hpc =>
    rw [hpc]
    simp only [Pc.stepsInRound]
    omega
  | handle k pcapDev pktData env reassemblers callbackArgs hpc =>
    have hk := hlt k pcapDev (hat.at_handle hpc)
    have hnext := stepsInRound_toDevice rx s (k + 1)
    rw [hpc]
    -- the datagram ends the round, anything else leads to the next device
    rcases rx.pc_afterHandler s k callbackArgs with ⟨-, hleave, -⟩ | ⟨-, honward, -⟩
    · rw [hleave]
      simp only [Pc.stepsInRound]
      omega
    · rw [honward]
      refine lt_of_le_of_lt hnext ?_
      show _ < 2 * (s.pcapDevices.length - k) + 1
      omega
  | again hpc | noData hpc | leaveRound n hpc =>
    rw [hpc]
    exact Nat.zero_lt_one
  | invalid _ _ hpc | valid _ _ hpc | lockLists hpc | lockCallback hpc | timeout _ hpc
  | wait _ hpc | wake _ _ _ _ hpc | waitTimeout _ _ hpc | leave _ hpc =>
    -- not in a round
    rw [hpc] at hheld
    cases hheld

/-- **On a closed socket every step brings a call nearer to unlocking the lists**: no round
goes on, and the next one is the last. -/
theorem receiveStep_inLists (h : receiveStep handler s rx reply = some (s', rx'))
    (hat : rx.AtDevice s) (hclosed : s.pcapDevicesClosed = true) (hheld : rx.pc.held ≠ .nothing) :
    rx'.pc.stepsInLists < rx.pc.stepsInLists := by
  -- a call is at a device only while the socket is open
  have hopen : ∀ k pcapDev, ¬Receiver.DeviceAt s k pcapDev := by
    intro k pcapDev hk
    have hfalse := hk.isOpen
    rw [hclosed] at hfalse
    cases hfalse
  cases receiveStep_case h with
  | lockCallback hpc | refuse _ hpc | again hpc | noData hpc | timeout _ hpc | wait _ hpc
  | wake _ _ _ _ hpc | waitTimeout _ _ hpc | leaveRound _ hpc | leave _ hpc =>
    rw [hpc]
    simp [Receiver.fail, Pc.stepsInLists]
  | first hpc hnotClosed =>
    rw [hclosed] at hnotClosed
    cases hnotClosed
  | take k pcapDev _ _ hpc | skip k pcapDev _ _ hpc | pollError k pcapDev _ _ _ _ hpc =>
    exact absurd (hat.at_poll hpc) (hopen k pcapDev)
  | crash k pcapDev _ _ hpc | handle k pcapDev _ _ _ _ hpc =>
    exact absurd (hat.at_handle hpc) (hopen k pcapDev)
  | invalid _ _ hpc | valid _ _ hpc | lockLists hpc =>
    rw [hpc] at hheld
    exact absurd rfl hheld

/-- A call that has neither returned nor crashed gets on with some answer. -/
theorem exists_receiveStep (handler : Handler R) (s : UdpcapSocket R)
    (hheld : rx.pc.held ≠ .nothing) (hcrashed : rx.pc ≠ .crashed) :
    ∃ reply o, receiveStep handler s rx reply = some o := by
  unfold receiveStep
  cases hpc : rx.pc with
  | start | lockLists | returned =>
    rw [hpc] at hheld
    exact absurd rfl hheld
  | crashed => exact absurd hpc hcrashed
  | lockCallback | checks | unlockCallback | leaveRound | leave => exact ⟨.tau, _, rfl⟩
  | poll k pcapDev => exact ⟨.next 0 [] "", _, rfl⟩
  | handle k pcapDev pktData =>
    refine ⟨.handled (.at 0 .newestFirst), ?_⟩
    simp only
    split
    · exact ⟨_, rfl⟩
    · exact ⟨_, rfl⟩
  | timeCheck => exact ⟨.clock 0, _, rfl⟩
  | wait ms => exact ⟨.wait 0 "", _, rfl⟩

end Steps

/-! ### Waiting -/

namespace Concurrent

variable {preferWriters : Bool} {handler : Handler R} {s t : Concurrent R}

/-- How far the call in progress is from what `close` waits for. -/
def closerWait (s : Concurrent R) : ℕ :=
  (s.receiver.map fun rx =>
    if s.closer = .lockCallback then rx.pc.stepsInRound s.socket.pcapDevices.length
    else rx.pc.stepsInLists).getD 0

/-- How far `close` is from what the call in progress waits for. -/
def receiverWait (s : Concurrent R) : ℕ := s.closer.stepsToUnlock s.socket.pcapDevices.length

theorem closerWait_le (s : Concurrent R) :
    s.closerWait ≤ 2 * s.socket.pcapDevices.length + 7 := by
  unfold closerWait
  cases s.receiver with
  | none => simp
  | some rx =>
    have hround := rx.pc.stepsInRound_le (n := s.socket.pcapDevices.length)
    have hlists := rx.pc.stepsInLists_le
    simp only [Option.map_some, Option.getD_some]
    split <;> omega

theorem receiverWait_le (s : Concurrent R) : s.receiverWait ≤ s.socket.pcapDevices.length + 5 :=
  s.closer.stepsToUnlock_le

/-- A call that holds a lock is in progress. -/
theorem exists_of_held (h : s.held ≠ .nothing) :
    ∃ rx, s.receiver = some rx ∧ s.held = rx.pc.held := by
  unfold held at h ⊢
  cases hrx : s.receiver with
  | none =>
    rw [hrx] at h
    exact absurd rfl h
  | some rx => exact ⟨rx, rfl, rfl⟩

/-- What `close` waits for is a call that holds a lock. -/
theorem Protocol.held_of_closerBlocked (hs : s.Protocol) (h : s.CloserBlocked) :
    s.held ≠ .nothing := by
  rcases hs.closerBlocked h with ⟨-, hboth⟩ | ⟨-, hheld⟩
  · rw [hboth]
    exact nofun
  · exact hheld

/-- **While `close` waits, only the call goes on, and it comes nearer to unlocking.** -/
theorem Protocol.closerWait_lt (hs : s.Protocol) (hblocked : s.CloserBlocked)
    {l : ConcurrentLabel} (h : concurrentStep preferWriters handler s l = some t) :
    t.closerWait < s.closerWait := by
  obtain ⟨rx, hrx, hheld⟩ := exists_of_held (hs.held_of_closerBlocked hblocked)
  rcases concurrentStep_cases h with ⟨args, hnone, -⟩ | ⟨reply, rx₁, rx', heffect⟩ |
    ⟨hidle, -⟩ | hcloser
  · rw [hnone] at hrx
    cases hrx
  · -- the call makes a step: which rank decreases depends on the lock that `close` waits for
    obtain rfl : rx₁ = rx := Option.some.inj (heffect.receiver_eq.symm.trans hrx)
    have hat := hs.atDevice rx₁ heffect.receiver_eq
    obtain ⟨reassemblers, hsocket⟩ := receiveStep_socket heffect.step
    have hdevices : t.socket.pcapDevices = s.socket.pcapDevices := by rw [hsocket]
    -- the rank of the receiver after its step, also when it has returned
    have hrank : t.closerWait = if s.closer = .lockCallback then
        rx'.pc.stepsInRound s.socket.pcapDevices.length else rx'.pc.stepsInLists := by
      unfold closerWait
      rw [hdevices, heffect.closer_eq]
      rcases heffect.proceeds with ⟨hreceiver, -⟩ | ⟨hreceiver, n, hpc, -⟩
      · rw [hreceiver]
        rfl
      · rw [hreceiver, hpc]
        split <;> rfl
    have hrank₀ : s.closerWait = if s.closer = .lockCallback then
        rx₁.pc.stepsInRound s.socket.pcapDevices.length else rx₁.pc.stepsInLists := by
      unfold closerWait
      rw [hrx]
      rfl
    rw [hrank, hrank₀]
    rcases hs.closerBlocked hblocked with ⟨hpc, hboth⟩ | ⟨hpc, hsome⟩
    · -- the callback mutex is released at the end of the round
      rw [if_pos hpc, if_pos hpc]
      exact receiveStep_inRound heffect.step hat (hheld.symm.trans hboth)
    · -- `close` has set the flag before it waits for the lists, so the call ends
      have hne : s.closer ≠ .lockCallback := by
        rw [hpc]
        exact nofun
      have hclosed : s.socket.pcapDevicesClosed = true := by
        apply hs.closed_of_closer
        rw [hpc]
        rfl
      rw [if_neg hne, if_neg hne]
      exact receiveStep_inLists heffect.step hat hclosed (hheld ▸ hsome)
  · exact absurd hidle hblocked.1
  · -- `close` itself cannot go on
    rw [hblocked.2] at hcloser
    cases hcloser

/-- What a call waits for is `close`, on its way to unlock. -/
theorem Protocol.closer_of_receiverBlocked (hs : s.Protocol)
    (h : s.ReceiverBlocked preferWriters) :
    s.closer = .lockUnique ∨ s.closer.holdsUnique = true ∨ s.closer.holdsCallback = true := by
  rcases hs.receiverBlocked h with ⟨-, hcloser⟩ | ⟨-, hcloser⟩
  · exact hcloser.imp_right Or.inl
  · exact Or.inr (Or.inr hcloser)

/-- On its way to unlock, every step of `close` brings it nearer. -/
theorem closerStep_stepsToUnlock (h : s.closerStep = some t)
    (hcloser : s.closer = .lockUnique ∨ s.closer.holdsUnique = true ∨
      s.closer.holdsCallback = true) :
    t.receiverWait < s.receiverWait := by
  unfold receiverWait
  unfold closerStep at h
  split at h
  case h_5 k hpc =>
    -- the loop over the devices
    split at h
    next pcapDev hk =>
      cases h
      have hlt := (List.getElem?_eq_some_iff.mp hk).1
      rw [hpc]
      simp only [CloserPc.stepsToUnlock]
      omega
    next =>
      cases h
      rw [hpc]
      simp only [CloserPc.stepsToUnlock]
      omega
  case h_8 hpc =>
    obtain ⟨lists, -, rfl⟩ := Option.map_eq_some_iff.mp h
    rw [hpc]
    exact Nat.lt_succ_self 4
  case h_1 hpc | h_2 hpc | h_3 hpc | h_7 hpc | h_13 hpc | h_14 hpc | h_15 hpc =>
    -- none of these positions
    rw [hpc] at hcloser
    rcases hcloser with hcloser | hcloser | hcloser <;> cases hcloser
  all_goals
    rename_i hpc
    cases h
    rw [hpc]
    simp [CloserPc.stepsToUnlock]

/-- **While a call waits, only `close` goes on, and it comes nearer to unlocking.** -/
theorem Protocol.receiverWait_lt (hs : s.Protocol) (hblocked : s.ReceiverBlocked preferWriters)
    {l : ConcurrentLabel} (h : concurrentStep preferWriters handler s l = some t) :
    t.receiverWait < s.receiverWait := by
  have hcloser := hs.closer_of_receiverBlocked hblocked
  obtain ⟨rx, hrx, hlocks⟩ := hblocked
  rcases concurrentStep_cases h with ⟨args, hnone, -⟩ | ⟨reply, rx₁, rx', heffect⟩ |
    ⟨hidle, -⟩ | hstep
  · rw [hnone] at hrx
    cases hrx
  · -- the call itself cannot go on
    obtain rfl : rx₁ = rx :=
      Option.some.inj (heffect.receiver_eq.symm.trans (Option.mem_def.mp hrx))
    rw [heffect.locks] at hlocks
    cases hlocks
  · rw [hidle] at hcloser
    rcases hcloser with hcloser | hcloser | hcloser <;> cases hcloser
  · exact closerStep_stepsToUnlock hstep hcloser

/-! ### Bounds -/

/-- Nobody waits long, or for a thread that cannot go on. -/
structure WaitsBounded (preferWriters : Bool) (handler : Handler R) (s : Concurrent R) :
    Prop where
  /-- A wait of `close` ends after at most one round, or after the end of a call. -/
  closer_bound : ∀ labels t,
    Foundation.run (concurrentStep preferWriters handler) s labels = some t →
    Foundation.HoldsAlong (concurrentStep preferWriters handler) CloserBlocked s labels →
    labels.length ≤ 2 * s.socket.pcapDevices.length + 7
  /-- A wait of a call ends after at most all of `close`'s work under the lock. -/
  receiver_bound : ∀ labels t,
    Foundation.run (concurrentStep preferWriters handler) s labels = some t →
    Foundation.HoldsAlong (concurrentStep preferWriters handler)
      (ReceiverBlocked preferWriters) s labels →
    labels.length ≤ s.socket.pcapDevices.length + 5
  /-- The call that `close` waits for goes on, unless the handler has crashed. -/
  closer_awaits : s.CloserBlocked → ∃ rx ∈ s.receiver, rx.pc = .crashed ∨
    ∃ reply t, concurrentStep preferWriters handler s (.receive reply) = some t
  /-- The `close` that a call waits for goes on. -/
  receiver_awaits : s.ReceiverBlocked preferWriters →
    ∃ t, concurrentStep preferWriters handler s .closerStep = some t

namespace Protocol

/-- `close` does not wait for a call that waits. -/
theorem closer_awaits (hs : s.Protocol) (preferWriters : Bool) (handler : Handler R)
    (h : s.CloserBlocked) : ∃ rx ∈ s.receiver, rx.pc = .crashed ∨
      ∃ reply t, concurrentStep preferWriters handler s (.receive reply) = some t := by
  have hsome := hs.held_of_closerBlocked h
  obtain ⟨rx, hrx, hheld⟩ := exists_of_held hsome
  refine ⟨rx, hrx, ?_⟩
  by_cases hcrashed : rx.pc = .crashed
  · exact Or.inl hcrashed
  · right
    -- were the call blocked as well, the two would block each other
    have hlocks : ∃ locks, s.receiverLocks preferWriters rx.pc = some locks := by
      rw [← Option.ne_none_iff_exists']
      intro hnone
      exact hs.no_deadlock ⟨⟨rx, hrx, hnone⟩, h⟩
    obtain ⟨locks, hlocks⟩ := hlocks
    obtain ⟨reply, o, hstep⟩ := exists_receiveStep handler s.socket (hheld ▸ hsome) hcrashed
    refine ⟨reply, ?_⟩
    unfold concurrentStep receiverStep
    simp only
    rw [hrx, Option.bind_some, hlocks, Option.bind_some, hstep]
    exact ⟨_, rfl⟩

/-- A call does not wait for a `close` that waits, or is not running. -/
theorem receiver_awaits (hs : s.Protocol) (handler : Handler R)
    (h : s.ReceiverBlocked preferWriters) :
    ∃ t, concurrentStep preferWriters handler s .closerStep = some t := by
  have hcloser := hs.closer_of_receiverBlocked h
  show ∃ t, s.closerStep = some t
  rw [← Option.ne_none_iff_exists']
  intro hnone
  refine hs.no_deadlock ⟨h, ?_, hnone⟩
  intro hidle
  rw [hidle] at hcloser
  rcases hcloser with hcloser | hcloser | hcloser <;> cases hcloser

theorem waitsBounded (hs : s.Protocol) (preferWriters : Bool) (handler : Handler R) :
    s.WaitsBounded preferWriters handler where
  closer_bound := fun _ _ hrun hwaits =>
    le_trans (Foundation.length_le_of_ranking (I := Protocol) (fun _ _ _ hs hst => hs.step hst)
      (fun _ _ _ hs hblocked hst => hs.closerWait_lt hblocked hst) hs hwaits hrun) s.closerWait_le
  receiver_bound := fun _ _ hrun hwaits =>
    le_trans (Foundation.length_le_of_ranking (I := Protocol) (fun _ _ _ hs hst => hs.step hst)
      (fun _ _ _ hs hblocked hst => hs.receiverWait_lt hblocked hst) hs hwaits hrun)
      s.receiverWait_le
  closer_awaits := hs.closer_awaits preferWriters handler
  receiver_awaits := hs.receiver_awaits handler

end Protocol

end Concurrent

/-- **In every interleaving of a receiving and a closing thread, every wait for a lock is
bounded**: `close` waits for at most one round over the devices, or for the end of a call that
finds the socket closed, and a call waits for at most what `close` does under the lock.  Who is
waited for can always go on, unless the handler has crashed. -/
theorem bounded_waiting (preferWriters : Bool) (handler : Handler R) (socket : UdpcapSocket R)
    (labels : List ConcurrentLabel) :
    Foundation.HoldsAlong (concurrentStep preferWriters handler)
      (Concurrent.WaitsBounded preferWriters handler) (Concurrent.start socket) labels :=
  Foundation.holdsAlong_of_invariant (I := Concurrent.Protocol)
    (fun _ hs => hs.waitsBounded preferWriters handler) (fun _ _ _ hs hst => hs.step hst)
    (Concurrent.protocol_start socket)

end Udpcap
