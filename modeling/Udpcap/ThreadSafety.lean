import Udpcap.SharedMembers

/-!
# The documented thread safety

While one thread calls `receiveDatagram`, another one may call `close`, `joinMulticastGroup`,
`leaveMulticastGroup` or `setMulticastLoopbackEnabled`.  The last three take no lock of the
socket.

## Main definitions

* `Documented`, `documentedStep` — both threads, in any interleaving.
* `Documented.Race` — their next steps race.
* `applyCalls` — calls of the three functions, one after another.

## Main results

* `no_data_race` — **in no interleaving do the threads race.**
* `membership_atomic` — **while the socket stays open, the three functions and the calls of
  `receiveDatagram` do not see each other.**
-/

namespace Udpcap

open Foundation

variable {R : Type}

/-! ### The threads -/

/-- A thread that calls `receiveDatagram`, and one that calls the other functions. -/
structure Documented (R : Type) where
  /-- The socket, its locks, and where the threads are in `receiveDatagram` and `close`. -/
  base : Concurrent R
  driver : Driver
  helpers : NpcapHelpers
  /-- The function for multicast groups that the other thread is in, and what is left of it. -/
  function : Option (MembershipCall × Prog (World R) OpResult)
  /-- The calls of these functions that have returned. -/
  returned : List (MembershipCall × OpResult)

namespace Documented

/-- No thread is in a function. -/
def start (w : World R) : Documented R :=
  ⟨.start w.socket, w.driver, w.helpers, none, []⟩

/-- The socket and its environment. -/
def world (s : Documented R) : World R := ⟨s.base.socket, s.driver, s.helpers⟩

def setWorld (s : Documented R) (w : World R) : Documented R :=
  { s with base.socket := w.socket, driver := w.driver, helpers := w.helpers }

@[simp] theorem world_setWorld (s : Documented R) (w : World R) : (s.setWorld w).world = w := rfl

@[simp] theorem setWorld_world (s : Documented R) : s.setWorld s.world = s := rfl

@[simp] theorem setWorld_setWorld (s : Documented R) (w u : World R) :
    (s.setWorld w).setWorld u = s.setWorld u := rfl

end Documented

inductive FunctionLabel
  /-- A function is called. -/
  | call (f : MembershipCall)
  /-- Its next access. -/
  | access
  /-- It returns. -/
  | ret
  deriving DecidableEq, Repr

/-- A step of the other thread in a function for multicast groups. -/
def functionStep (np : Npcap) (s : Documented R) : FunctionLabel → Option (Documented R)
  | .call f =>
    if s.function.isNone && s.base.closer = .idle then
      some { s with function := some (f, f.body np) }
    else none
  | .access =>
    match s.function with
    | some (f, .access write next) =>
      some { s.setWorld (write s.world) with function := some (f, next s.world) }
    | _ => none
  | .ret =>
    match s.function with
    | some (f, .done result) =>
      some { s with function := none, returned := s.returned ++ [(f, result)] }
    | _ => none

/-- A step of one of the threads in `receiveDatagram` or in `close`. -/
def baseStep (preferWriters : Bool) (handler : Handler R) (s : Documented R) :
    ConcurrentLabel → Option (Documented R)
  | .close =>
    -- the other thread calls one function at a time
    if s.function.isSome then none
    else (concurrentStep preferWriters handler s.base .close).map fun base =>
      { s with base := base }
  | l => (concurrentStep preferWriters handler s.base l).map fun base => { s with base := base }

/-- One step of one of the threads. -/
def documentedStep (np : Npcap) (preferWriters : Bool) (handler : Handler R) :
    Documented R → FunctionLabel ⊕ ConcurrentLabel → Option (Documented R) :=
  eitherStep (functionStep np) (baseStep preferWriters handler)

namespace Documented

/-- What the next step of the other thread touches in the function that it is in. -/
def functionFootprint (s : Documented R) : Footprint Member :=
  match s.function with
  | some (_, .access ..) => membershipFootprint
  | _ => .empty

/-- **The next step of the receiver and the next step of the other thread race**: the one
writes a member that the other one touches. -/
def Race (s : Documented R) : Prop :=
  ∃ rx ∈ s.base.receiver,
    (rx.pc.footprint s.base.socket).Conflicts s.base.closer.footprint ∨
      (rx.pc.footprint s.base.socket).Conflicts s.functionFootprint

end Documented

/-! ### No data races -/

/-- What the checks at the start of a round read. -/
theorem mem_checksReads {s : UdpcapSocket R} {m : Member} (h : m ∈ checksReads s) :
    m = .pcapDevicesClosed ∨ (s.pcapDevicesClosed = false ∧ (m = .boundState ∨
      m = .pcapDevices)) := by
  unfold checksReads at h
  split_ifs at h <;> simp at h <;> simp [*]
  tauto

/-- A call of `receiveDatagram` touches nothing that the functions for multicast groups
write, and writes nothing that they touch. -/
theorem not_conflicts_membership (s : UdpcapSocket R) (pc : Pc) :
    ¬(pc.footprint s).Conflicts membershipFootprint := by
  rw [Footprint.conflicts_iff]
  cases pc with
  | checks =>
    rintro (⟨m, hm, -⟩ | ⟨m, hm, hread | hwrite⟩)
    · cases hm
    · rcases mem_checksReads hread with rfl | ⟨-, rfl | rfl⟩ <;> simp [membershipFootprint] at hm
    · cases hwrite
  | _ => simp [Pc.footprint, membershipFootprint, Footprint.Touches, Footprint.empty]

namespace Pc

variable {s : UdpcapSocket R} {pc : Pc}

/-- The flag that the socket is closed is read at the start of a round. -/
theorem touches_closed (h : (pc.footprint s).Touches .pcapDevicesClosed) : pc = .checks := by
  cases pc with
  | checks => rfl
  | _ => simp [footprint, Footprint.Touches, Footprint.empty] at h

/-- The bound state is read at the start of a round, unless the socket is closed. -/
theorem touches_boundState (h : (pc.footprint s).Touches .boundState) :
    s.pcapDevicesClosed = false := by
  cases pc with
  | checks =>
    rcases h with h | h
    · rcases mem_checksReads h with h | ⟨hopen, -⟩
      · cases h
      · exact hopen
    · cases h
  | _ => simp [footprint, Footprint.Touches, Footprint.empty] at h

/-- The port is read where a call works on a device. -/
theorem touches_boundPort (h : (pc.footprint s).Touches .boundPort) :
    ∃ k pcapDev, pc = .poll k pcapDev ∨ ∃ pktData, pc = .handle k pcapDev pktData := by
  cases pc with
  | poll k pcapDev => exact ⟨k, pcapDev, Or.inl rfl⟩
  | handle k pcapDev pktData => exact ⟨k, pcapDev, Or.inr ⟨pktData, rfl⟩⟩
  | checks =>
    rcases h with h | h
    · rcases mem_checksReads h with h | ⟨-, h | h⟩ <;> cases h
    · cases h
  | _ => simp [footprint, Footprint.Touches, Footprint.empty] at h

/-- The address is not read at all. -/
theorem not_touches_boundAddress : ¬(pc.footprint s).Touches .boundAddress := by
  intro h
  cases pc with
  | checks =>
    rcases h with h | h
    · rcases mem_checksReads h with h | ⟨-, h | h⟩ <;> cases h
    · cases h
  | _ => simp [footprint, Footprint.Touches, Footprint.empty] at h

/-- What a call touches while it holds no lock. -/
theorem touches_of_nothing (hheld : pc.held = .nothing) {m : Member}
    (h : (pc.footprint s).Touches m) : m = .isValid := by
  cases pc with
  | start => simpa [footprint, Footprint.Touches] using h
  | lockLists | returned => simp [footprint, Footprint.Touches, Footprint.empty] at h
  | _ => cases hheld

/-- A call writes nothing but the reassemblers. -/
theorem writes_eq {m : Member} (h : m ∈ (pc.footprint s).writes) :
    m = .pcapDevicesIpReassembly := by
  cases pc with
  | handle k pcapDev pktData => exact List.mem_singleton.mp h
  | _ => cases h

end Pc

namespace Concurrent

/-- **No step of a call races with a step of `close`.** -/
theorem Protocol.not_conflicts {s : Concurrent R} (hs : s.Protocol) {rx : Receiver}
    (hrx : rx ∈ s.receiver) :
    ¬(rx.pc.footprint s.socket).Conflicts s.closer.footprint := by
  have hheld : s.held = rx.pc.held := by
    unfold held
    rw [Option.mem_def.mp hrx]
    rfl
  have hlocked := hs.locked
  rw [hheld] at hlocked
  have hclosed := hs.closed_of_closer
  have hat := hs.atDevice rx hrx
  -- while `close` holds the lists in write mode, a call holds no lock
  have hunique : s.closer.holdsUnique = true → rx.pc.held = .nothing := by
    intro hholds
    by_contra hne
    exact SharedMutex.not_holdsShared_of_holdsUnique (hlocked.unique_closer.mpr hholds) .receiver
      (hlocked.shared_receiver.mpr hne)
  have hlists : s.closer.holdsUnique = true → ∀ m, m ≠ .isValid →
      ¬(rx.pc.footprint s.socket).Conflicts ⟨[], [m]⟩ := by
    intro hholds m hm h
    exact hm (Pc.touches_of_nothing (hunique hholds) (Footprint.conflicts_write_iff.mp h))
  cases hpc : s.closer with
  | setClosed =>
    rw [hpc] at hlocked
    intro h
    have hchecks := Pc.touches_closed (Footprint.conflicts_write_iff.mp h)
    exact hlocked.held_ne_both rfl (by rw [hchecks]; rfl)
  | closing k =>
    rintro ⟨m, ⟨hm, hread | hwrite⟩ | ⟨-, hwrite⟩⟩
    · obtain rfl := Pc.writes_eq hm
      cases List.mem_singleton.mp hread
    · cases hwrite
    · cases hwrite
  | clearDevices => exact hlists (by rw [hpc]; rfl) _ (by simp)
  | clearHandles => exact hlists (by rw [hpc]; rfl) _ (by simp)
  | clearReassembly => exact hlists (by rw [hpc]; rfl) _ (by simp)
  | resetBoundState =>
    rw [hpc] at hclosed
    intro h
    have hopen := Pc.touches_boundState (Footprint.conflicts_write_iff.mp h)
    rw [hclosed rfl] at hopen
    cases hopen
  | resetBoundPort =>
    rw [hpc] at hclosed
    intro h
    -- a call works on the devices of an open socket only
    obtain ⟨k, pcapDev, hpoll | ⟨pktData, hhandle⟩⟩ :=
      Pc.touches_boundPort (Footprint.conflicts_write_iff.mp h)
    · have hopen := (hat.at_poll hpoll).isOpen
      rw [hclosed rfl] at hopen
      cases hopen
    · have hopen := (hat.at_handle hhandle).isOpen
      rw [hclosed rfl] at hopen
      cases hopen
  | resetBoundAddress =>
    exact fun h => Pc.not_touches_boundAddress (Footprint.conflicts_write_iff.mp h)
  | idle | lockShared | lockCallback | unlockCallback | unlockShared | lockUnique
  | unlockUnique => exact Footprint.not_conflicts_empty _

end Concurrent

namespace Documented

variable {np : Npcap} {preferWriters : Bool} {handler : Handler R} {s t : Documented R}

/-- The threads follow the protocol of the locks, and what is left of a function keeps to its
footprint. -/
structure Inv (s : Documented R) : Prop where
  protocol : s.base.Protocol
  within : ∀ f rest, s.function = some (f, rest) →
    rest.Within (worldCells R) membershipFootprint

/-- An access of a function leaves the members that it does not write. -/
theorem access_frame {ρ : Type} {write : World R → World R} {next : World R → Prog (World R) ρ}
    (h : (Prog.access write next).Within (worldCells R) membershipFootprint) (w : World R)
    {m : Member} (hm : m ∉ membershipFootprint.writes) :
    (worldCells R).read m (write w) = (worldCells R).read m w :=
  (h.1 w).frame w (fun _ _ => rfl) (next w) (write w) rfl m hm

/-- **What a step of the other thread in a function is.** -/
theorem functionStep_cases {l : FunctionLabel} (h : functionStep np s l = some t) :
    (∃ f, l = .call f ∧ s.function = none ∧ s.base.closer = .idle ∧
        t = { s with function := some (f, f.body np) }) ∨
      (∃ f write next, l = .access ∧ s.function = some (f, .access write next) ∧
        t = { s.setWorld (write s.world) with function := some (f, next s.world) }) ∨
      (∃ f result, l = .ret ∧ s.function = some (f, .done result) ∧
        t = { s with function := none, returned := s.returned ++ [(f, result)] }) := by
  cases l with
  | call f =>
    simp only [functionStep] at h
    split at h
    next hidle =>
      cases h
      simp only [Bool.and_eq_true, Option.isNone_iff_eq_none, decide_eq_true_eq] at hidle
      exact Or.inl ⟨f, rfl, hidle.1, hidle.2, rfl⟩
    next => cases h
  | access =>
    simp only [functionStep] at h
    split at h
    next f write next hfunction =>
      cases h
      exact Or.inr (Or.inl ⟨f, write, next, rfl, hfunction, rfl⟩)
    next => cases h
  | ret =>
    simp only [functionStep] at h
    split at h
    next f result hfunction =>
      cases h
      exact Or.inr (Or.inr ⟨f, result, rfl, hfunction, rfl⟩)
    next => cases h

theorem Inv.functionStep (hs : s.Inv) {l : FunctionLabel} (h : functionStep np s l = some t) :
    t.Inv := by
  rcases functionStep_cases h with ⟨f, -, -, -, rfl⟩ | ⟨f, write, next, -, hfunction, rfl⟩ |
    ⟨f, result, -, -, rfl⟩
  · refine ⟨hs.protocol, fun f' rest hrest => ?_⟩
    cases hrest
    exact body_within np f
  · have hwithin := hs.within f _ hfunction
    have hclosed : (write s.world).socket.pcapDevicesClosed = s.base.socket.pcapDevicesClosed :=
      access_frame hwithin s.world (m := .pcapDevicesClosed) (by simp [membershipFootprint])
    have hbound : (write s.world).socket.boundState = s.base.socket.boundState :=
      access_frame hwithin s.world (m := .boundState) (by simp [membershipFootprint])
    have hdevices : (write s.world).socket.pcapDevices = s.base.socket.pcapDevices :=
      access_frame hwithin s.world (m := .pcapDevices) (by simp [membershipFootprint])
    refine ⟨hs.protocol.congr rfl rfl rfl hs.protocol.locked ?_ ?_ ?_ ?_, ?_⟩
    · exact fun hcloser => hclosed.trans (hs.protocol.closed_of_closer hcloser)
    · exact fun hflag => hclosed.trans hflag
    · exact fun hopen => hs.protocol.closedHandles (hclosed.symm.trans hopen)
    · exact fun rx hrx => (hs.protocol.atDevice rx hrx).congr hbound hclosed hdevices
    · intro f' rest hrest
      cases hrest
      exact hwithin.2 s.world
  · refine ⟨hs.protocol, fun f' rest hrest => ?_⟩
    cases hrest

/-- What a step in `receiveDatagram` or in `close` is. -/
theorem baseStep_eq_some {l : ConcurrentLabel} (h : baseStep preferWriters handler s l = some t) :
    ∃ base, concurrentStep preferWriters handler s.base l = some base ∧
      t = { s with base := base } := by
  cases l with
  | close =>
    obtain ⟨-, h⟩ := Option.ite_none_left_eq_some.mp h
    obtain ⟨base, hbase, rfl⟩ := Option.map_eq_some_iff.mp h
    exact ⟨base, hbase, rfl⟩
  | call args =>
    obtain ⟨base, hbase, rfl⟩ := Option.map_eq_some_iff.mp h
    exact ⟨base, hbase, rfl⟩
  | receive reply =>
    obtain ⟨base, hbase, rfl⟩ := Option.map_eq_some_iff.mp h
    exact ⟨base, hbase, rfl⟩
  | closerStep =>
    obtain ⟨base, hbase, rfl⟩ := Option.map_eq_some_iff.mp h
    exact ⟨base, hbase, rfl⟩

theorem Inv.baseStep (hs : s.Inv) {l : ConcurrentLabel}
    (h : baseStep preferWriters handler s l = some t) : t.Inv := by
  obtain ⟨base, hbase, rfl⟩ := baseStep_eq_some h
  exact ⟨hs.protocol.step hbase, hs.within⟩

/-- **Every step of one of the threads keeps the invariant.** -/
theorem Inv.step (hs : s.Inv) {l : FunctionLabel ⊕ ConcurrentLabel}
    (h : documentedStep np preferWriters handler s l = some t) : t.Inv := by
  cases l with
  | inl l => exact hs.functionStep h
  | inr l => exact hs.baseStep h

theorem inv_start (w : World R) : (start w).Inv :=
  ⟨Concurrent.protocol_start w.socket, nofun⟩

theorem Inv.not_race (hs : s.Inv) : ¬s.Race := by
  rintro ⟨rx, hrx, h | h⟩
  · exact hs.protocol.not_conflicts hrx h
  · unfold functionFootprint at h
    split at h
    · exact not_conflicts_membership _ _ h
    · exact Footprint.not_conflicts_empty _ h

end Documented

/-- **While one thread calls `receiveDatagram` and another one calls `close` and the functions
for multicast groups, there is no data race**: in every interleaving, neither thread is about to
write a member of the socket that the other one is about to read or write. -/
theorem no_data_race (np : Npcap) (preferWriters : Bool) (handler : Handler R) (w : World R)
    (ls : List (FunctionLabel ⊕ ConcurrentLabel)) :
    HoldsAlong (documentedStep np preferWriters handler) (fun s => ¬s.Race)
      (Documented.start w) ls :=
  holdsAlong_of_invariant (I := Documented.Inv) (fun _ hs => hs.not_race)
    (fun _ _ _ hs h => hs.step h) (Documented.inv_start w)

/-! ### The functions and the receiver do not see each other -/

section Commute

variable {np : Npcap} {preferWriters : Bool} {handler : Handler R}

/-- An access of a function and a step of `receiveDatagram` commute. -/
theorem receiveWorld_access {ρ : Type} (handler : Handler R) {write : World R → World R}
    {next : World R → Prog (World R) ρ}
    (h : (Prog.access write next).Within (worldCells R) membershipFootprint) (rx : Receiver)
    (reply : Reply) (w : World R) :
    receiveWorld handler rx reply (write w) =
        (receiveWorld handler rx reply w).map (fun o => (write o.1, o.2)) ∧
      ∀ o ∈ receiveWorld handler rx reply w, next o.1 = next w := by
  have hcommute := (h.1 w).commute (receiveStep_within handler rx reply w)
    fun hc => not_conflicts_membership w.socket rx.pc hc.symm
  simp only [Option.bind_some, Option.map_some] at hcommute
  cases hw : receiveWorld handler rx reply w with
  | none =>
    rw [hw] at hcommute
    simpa using hcommute
  | some o =>
    rw [hw] at hcommute
    obtain ⟨o', ho', heq⟩ := Option.map_eq_some_iff.mp hcommute
    simp only [Prod.mk.injEq] at heq
    obtain ⟨hworld, hnext, hrx⟩ := heq
    refine ⟨?_, fun o'' ho'' => ?_⟩
    · rw [ho', Option.map_some, ← hworld, ← hrx]
    · cases ho''
      exact hnext.symm

namespace Concurrent

/-- What becomes of the threads when a step of `receiveDatagram` has this outcome. -/
def proceed (s : Concurrent R) (rx : Receiver) (locks : SharedMutex Thread × Mutex Thread)
    (o : UdpcapSocket R × Receiver) : Concurrent R :=
  let lateRound := s.lateRound || (rx.pc = .lockCallback && s.socket.pcapDevicesClosed)
  let t := { s with
    socket := o.1
    lists := locks.1
    callback := locks.2
    lateRound := lateRound }
  match o.2.pc with
  | .returned result =>
    { t with receiver := none, finished := s.finished ++ [⟨o.2, result, lateRound⟩] }
  | _ => { t with receiver := some o.2 }

theorem receiverStep_eq (s : Concurrent R) (reply : Reply) :
    s.receiverStep preferWriters handler reply =
      s.receiver.bind fun rx => (s.receiverLocks preferWriters rx.pc).bind fun locks =>
        (receiveStep handler s.socket rx reply).map (s.proceed rx locks) := rfl

@[simp] theorem socket_proceed (s : Concurrent R) (rx : Receiver)
    (locks : SharedMutex Thread × Mutex Thread) (o : UdpcapSocket R × Receiver) :
    (s.proceed rx locks o).socket = o.1 := by
  unfold proceed
  split <;> rfl

/-- What becomes of the threads on another socket that is closed or not like the first. -/
theorem proceed_socket (s : Concurrent R) (rx : Receiver)
    (locks : SharedMutex Thread × Mutex Thread) {socket : UdpcapSocket R}
    (h : socket.pcapDevicesClosed = s.socket.pcapDevicesClosed)
    (o : UdpcapSocket R × Receiver) (socket' : UdpcapSocket R) :
    proceed { s with socket := socket } rx locks (socket', o.2) =
      { s.proceed rx locks o with socket := socket' } := by
  unfold proceed
  simp only [h]
  split <;> rfl

end Concurrent

/-- A label of the thread that calls `receiveDatagram`. -/
def ConcurrentLabel.ofReceiver : ConcurrentLabel → Prop
  | .call _ | .receive _ => True
  | .close | .closerStep => False

/-- A step of the receiver, before or after an access of a function. -/
theorem baseStep_access {ρ : Type} (preferWriters : Bool) (handler : Handler R)
    {write : World R → World R} {next : World R → Prog (World R) ρ}
    (h : (Prog.access write next).Within (worldCells R) membershipFootprint) (s : Documented R)
    {l : ConcurrentLabel} (hl : l.ofReceiver) :
    baseStep preferWriters handler (s.setWorld (write s.world)) l =
        (baseStep preferWriters handler s l).map (fun t => t.setWorld (write t.world)) ∧
      ∀ t ∈ baseStep preferWriters handler s l, next t.world = next s.world := by
  cases l with
  | call args =>
    unfold baseStep concurrentStep
    cases hreceiver : s.base.receiver with
    | none =>
      refine ⟨by simp [Documented.setWorld, Documented.world, hreceiver], fun t ht => ?_⟩
      simp only at ht
      obtain rfl := Option.mem_some.mp ht
      rfl
    | some rx => simp [Documented.setWorld, hreceiver]
  | receive reply =>
    have hclosed : (write s.world).socket.pcapDevicesClosed = s.base.socket.pcapDevicesClosed :=
      Documented.access_frame h s.world (m := .pcapDevicesClosed) (by simp [membershipFootprint])
    have hlocks : ∀ pc, (s.setWorld (write s.world)).base.receiverLocks preferWriters pc =
        s.base.receiverLocks preferWriters pc := fun pc => by cases pc <;> rfl
    unfold baseStep concurrentStep
    simp only [Concurrent.receiverStep_eq, hlocks]
    cases hreceiver : s.base.receiver with
    | none => simp [Documented.setWorld, hreceiver]
    | some rx =>
      simp only [Documented.setWorld, hreceiver, Option.bind_some]
      cases s.base.receiverLocks preferWriters rx.pc with
      | none => simp
      | some locks =>
        obtain ⟨hworld, hnext⟩ := receiveWorld_access handler h rx reply s.world
        simp only [Option.bind_some, receiveWorld] at hworld hnext ⊢
        cases hstep : receiveStep handler s.world.socket rx reply with
        | none =>
          rw [hstep] at hworld
          have hnone := Option.map_eq_none_iff.mp hworld
          have hstep' : receiveStep handler s.base.socket rx reply = none := hstep
          simp [hnone, hstep']
        | some o =>
          rw [hstep] at hworld hnext
          obtain ⟨o', ho', heq⟩ := Option.map_eq_some_iff.mp hworld
          have hstep' : receiveStep handler s.base.socket rx reply = some o := hstep
          have hw : { write s.world with socket := o'.1 } = write { s.world with socket := o.1 } :=
            (Prod.mk.inj heq).1
          have hproceed : Concurrent.proceed { s.base with
                socket := (write s.world).socket
                receiver := some rx } rx locks o' =
              { s.base.proceed rx locks o with socket := o'.1 } := by
            have hrx : o.2 = o'.2 := (Prod.mk.inj heq).2.symm
            have hsocket := s.base.proceed_socket rx locks hclosed o o'.1
            rw [hrx] at hsocket
            rw [← hreceiver]
            exact hsocket
          refine ⟨?_, fun t ht => ?_⟩
          · have hworld' : Documented.world { s with base := s.base.proceed rx locks o } =
                { s.world with socket := o.1 } := by simp [Documented.world]
            simp only [ho', hstep', Option.map_some, hproceed, hworld', ← hw]
          · rw [hstep'] at ht
            obtain rfl := Option.mem_some.mp ht
            simpa [Documented.world] using hnext _ rfl
  | close => exact hl.elim
  | closerStep => exact hl.elim

/-- A step of the receiver leaves the other thread alone. -/
theorem baseStep_keeps {s t : Documented R} {l : ConcurrentLabel} (hl : l.ofReceiver)
    (h : baseStep preferWriters handler s l = some t) :
    t.function = s.function ∧ t.returned = s.returned ∧ t.base.closer = s.base.closer := by
  obtain ⟨base, hbase, rfl⟩ := Documented.baseStep_eq_some h
  refine ⟨rfl, rfl, ?_⟩
  cases l with
  | call args =>
    simp only [concurrentStep] at hbase
    split at hbase
    · cases hbase
    · cases hbase
      rfl
  | receive reply =>
    obtain ⟨rx, rx', heffect⟩ := Concurrent.receiverStep_effect hbase
    exact heffect.closer_eq
  | close => exact hl.elim
  | closerStep => exact hl.elim

/-- A step of the receiver does not depend on where the other thread is in its function. -/
theorem baseStep_function (s : Documented R) {l : ConcurrentLabel} (hl : l.ofReceiver)
    (function : Option (MembershipCall × Prog (World R) OpResult))
    (returned : List (MembershipCall × OpResult)) :
    baseStep preferWriters handler { s with function := function, returned := returned } l =
      (baseStep preferWriters handler s l).map fun t =>
        { t with function := function, returned := returned } := by
  cases l with
  | call args => simp [baseStep, Function.comp_def]
  | receive reply => simp [baseStep, Function.comp_def]
  | close => exact hl.elim
  | closerStep => exact hl.elim

/-- **A function for multicast groups and `receiveDatagram` do not see each other.** -/
theorem commutes_receiver (np : Npcap) (preferWriters : Bool) (handler : Handler R) :
    Commutes (functionStep np) (baseStep preferWriters handler) Documented.Inv
      ConcurrentLabel.ofReceiver where
  swap := by
    intro s hs a l hl
    cases hfirst : functionStep np s a with
    | some t =>
      rcases Documented.functionStep_cases hfirst with ⟨f, rfl, hfunction, hcloser, rfl⟩ |
        ⟨f, write, next, rfl, hfunction, rfl⟩ | ⟨f, result, rfl, hfunction, rfl⟩
      · rw [Option.bind_some, baseStep_function s hl]
        cases hstep : baseStep preferWriters handler s l with
        | none => rfl
        | some t =>
          obtain ⟨hfunction', hreturned, hcloser'⟩ := baseStep_keeps hl hstep
          simp [functionStep, hfunction', hfunction, hcloser', hcloser, hreturned]
      · obtain ⟨hworld, hnext⟩ := baseStep_access preferWriters handler
          (hs.within f _ hfunction) s hl
        rw [Option.bind_some, baseStep_function (s.setWorld (write s.world)) hl, hworld]
        cases hstep : baseStep preferWriters handler s l with
        | none => rfl
        | some t =>
          obtain ⟨hfunction', hreturned, -⟩ := baseStep_keeps hl hstep
          simp [functionStep, hfunction', hfunction, hnext t hstep, Documented.setWorld, hreturned]
      · rw [Option.bind_some, baseStep_function s hl]
        cases hstep : baseStep preferWriters handler s l with
        | none => rfl
        | some t =>
          obtain ⟨hfunction', hreturned, -⟩ := baseStep_keeps hl hstep
          simp [functionStep, hfunction', hfunction, hreturned]
    | none =>
      -- the step of the receiver does not enable the step of the function
      cases hstep : baseStep preferWriters handler s l with
      | none => rfl
      | some t =>
        obtain ⟨hfunction', -, hcloser'⟩ := baseStep_keeps hl hstep
        rw [Option.bind_none, Option.bind_some]
        cases a with
        | call f =>
          simp only [functionStep] at hfirst ⊢
          rw [hfunction', hcloser']
          split at hfirst
          next => cases hfirst
          next hnot => rw [if_neg hnot]
        | access =>
          simp only [functionStep] at hfirst ⊢
          rw [hfunction']
          split at hfirst
          next => cases hfirst
          next => rfl
        | ret =>
          simp only [functionStep] at hfirst ⊢
          rw [hfunction']
          split at hfirst
          next => cases hfirst
          next => rfl
  first := fun _ hs _ _ h => hs.functionStep h
  second := fun _ hs _ _ _ h => hs.baseStep h

end Commute

/-! ### What the functions do, whatever happens meanwhile -/

/-- Calls of the functions for multicast groups, one after another, and what they return. -/
def applyCalls (np : Npcap) :
    World R → List MembershipCall → World R × List (MembershipCall × OpResult)
  | w, [] => (w, [])
  | w, f :: fs =>
    let o := f.apply np w
    let rest := applyCalls np o.1 fs
    (rest.1, (f, o.2) :: rest.2)

/-- The function that is called by a label. -/
def FunctionLabel.called : FunctionLabel → Option MembershipCall
  | .call f => some f
  | .access | .ret => none

namespace Documented

variable {np : Npcap} {s t : Documented R}

/-- The world and the results when the other thread has finished the function that it is in. -/
def settled (s : Documented R) : World R × List (MembershipCall × OpResult) :=
  match s.function with
  | none => (s.world, s.returned)
  | some (f, rest) => ((rest.exec s.world).1, s.returned ++ [(f, (rest.exec s.world).2)])

/-- A function that has been called is settled, whatever step it takes. -/
theorem settled_step {l : FunctionLabel} (h : functionStep np s l = some t) :
    t.settled = ((applyCalls np s.settled.1 l.called.toList).1,
      s.settled.2 ++ (applyCalls np s.settled.1 l.called.toList).2) := by
  rcases functionStep_cases h with ⟨f, rfl, hfunction, -, rfl⟩ |
    ⟨f, write, next, rfl, hfunction, rfl⟩ | ⟨f, result, rfl, hfunction, rfl⟩
  · simp [settled, hfunction, FunctionLabel.called, applyCalls, ← exec_membershipCall, world]
  · simp [settled, hfunction, FunctionLabel.called, applyCalls, world, setWorld]
  · simp [settled, hfunction, FunctionLabel.called, applyCalls, world]

theorem applyCalls_append (w : World R) (fs gs : List MembershipCall) :
    applyCalls np w (fs ++ gs) = ((applyCalls np (applyCalls np w fs).1 gs).1,
      (applyCalls np w fs).2 ++ (applyCalls np (applyCalls np w fs).1 gs).2) := by
  induction fs generalizing w with
  | nil => simp [applyCalls]
  | cons f fs ih => simp [applyCalls, ih]

/-- **The calls of a run are settled one after another.** -/
theorem settled_run {ls : List FunctionLabel} (h : run (functionStep np) s ls = some t) :
    t.settled = ((applyCalls np s.settled.1 (ls.filterMap FunctionLabel.called)).1,
      s.settled.2 ++ (applyCalls np s.settled.1 (ls.filterMap FunctionLabel.called)).2) := by
  induction ls generalizing s with
  | nil =>
    cases h
    simp [applyCalls]
  | cons l ls ih =>
    obtain ⟨u, hu, hrun⟩ := run_cons_eq_some.mp h
    have hcalled : (l :: ls).filterMap FunctionLabel.called =
        l.called.toList ++ ls.filterMap FunctionLabel.called := by
      cases hl : l.called <;> simp [hl]
    rw [ih hrun, settled_step hu, hcalled, applyCalls_append, List.append_assoc]

/-- The members that the functions for multicast groups write, as they are in `t`. -/
def setMembership (t w : World R) : World R :=
  { w with
    socket.multicastGroups := t.socket.multicastGroups
    socket.multicastLoopbackEnabled := t.socket.multicastLoopbackEnabled
    driver := t.driver }

/-- An access of a function changes nothing else. -/
theorem access_eq {write : World R → World R} {next : World R → Prog (World R) OpResult}
    (h : (Prog.access write next).Within (worldCells R) membershipFootprint) (w : World R) :
    write w = setMembership (write w) w := by
  refine (worldCells R).ext _ _ fun m => ?_
  cases m with
  | multicastGroups | multicastLoopbackEnabled | driver => rfl
  | _ => exact access_frame h w (by simp [membershipFootprint])

/-- The functions for multicast groups change nothing else, whatever they are. -/
theorem function_run (hs : s.Inv) {ls : List FunctionLabel}
    (h : run (functionStep np) s ls = some t) :
    t = { s.setWorld (setMembership t.world s.world) with
      function := t.function
      returned := t.returned } := by
  induction ls generalizing s with
  | nil =>
    cases h
    rfl
  | cons l ls ih =>
    obtain ⟨u, hu, hrun⟩ := run_cons_eq_some.mp h
    have hrest := ih (hs.functionStep hu) hrun
    rcases functionStep_cases hu with ⟨f, -, -, -, rfl⟩ | ⟨f, write, next, -, hfunction, rfl⟩ |
      ⟨f, result, -, -, rfl⟩
    · exact hrest
    · rw [hrest]
      have hwrite := access_eq (hs.within f _ hfunction) s.world
      simp only [setWorld, world] at hwrite ⊢
      rw [hwrite]
      rfl
    · exact hrest

end Documented

section Atomic

variable {np : Npcap} {preferWriters : Bool} {handler : Handler R}

/-- The steps of the receiver on other groups. -/
theorem run_setMembership (v : World R)
    (function : Option (MembershipCall × Prog (World R) OpResult))
    (returned : List (MembershipCall × OpResult)) {ls : List ConcurrentLabel}
    (hls : ∀ l ∈ ls, l.ofReceiver) (s : Documented R) :
    run (baseStep preferWriters handler) { s.setWorld (Documented.setMembership v s.world) with
        function := function
        returned := returned } ls =
      (run (baseStep preferWriters handler) s ls).map fun t =>
        { t.setWorld (Documented.setMembership v t.world) with
          function := function
          returned := returned } := by
  have hwithin : (Prog.write (Documented.setMembership v)).Within (worldCells R)
      membershipFootprint :=
    within_membership_write (fun _ _ _ => rfl) (fun _ _ _ => rfl) (fun _ _ _ => rfl) fun _ => rfl
  induction ls generalizing s with
  | nil => rfl
  | cons l ls ih =>
    obtain ⟨hl, hls⟩ := List.forall_mem_cons.mp hls
    rw [run_cons, run_cons, baseStep_function _ hl,
      (baseStep_access preferWriters handler hwithin s hl).1]
    cases baseStep preferWriters handler s l with
    | none => rfl
    | some t => exact ih hls t

/-- The steps of the receiver, alone. -/
theorem run_receiver {ls : List ConcurrentLabel} (hls : ∀ l ∈ ls, l.ofReceiver)
    (s : Documented R) :
    run (baseStep preferWriters handler) s ls =
      (run (concurrentStep preferWriters handler) s.base ls).map fun base =>
        { s with base := base } := by
  induction ls generalizing s with
  | nil => rfl
  | cons l ls ih =>
    obtain ⟨hl, hls⟩ := List.forall_mem_cons.mp hls
    have hstep : baseStep preferWriters handler s l =
        (concurrentStep preferWriters handler s.base l).map fun base =>
          { s with base := base } := by
      cases l with
      | call args => rfl
      | receive reply => rfl
      | close => exact hl.elim
      | closerStep => exact hl.elim
    rw [run_cons, run_cons, hstep]
    cases concurrentStep preferWriters handler s.base l with
    | none => rfl
    | some base => exact ih hls _

end Atomic

/-- **The functions for multicast groups are atomic.**  However their accesses interleave with
the steps of `receiveDatagram` on a socket that is not closed meanwhile: when the last of them
has returned, the groups, the loopback flag, the installed filters and the results are those of
the same calls one after another on a socket at rest, and everything else, with all that the
calls of `receiveDatagram` have returned, is as if no function had been called. -/
theorem membership_atomic (np : Npcap) (preferWriters : Bool) (handler : Handler R) (w : World R)
    {ls : List (FunctionLabel ⊕ ConcurrentLabel)} (hls : ∀ l, Sum.inr l ∈ ls → l.ofReceiver)
    {t : Documented R}
    (h : run (documentedStep np preferWriters handler) (Documented.start w) ls = some t)
    (ht : t.function = none) :
    let o := applyCalls np w ((ls.filterMap Sum.getLeft?).filterMap FunctionLabel.called)
    ∃ base, run (concurrentStep preferWriters handler) (Concurrent.start w.socket)
        (ls.filterMap Sum.getRight?) = some base ∧
      t = { base := { base with
              socket.multicastGroups := o.1.socket.multicastGroups
              socket.multicastLoopbackEnabled := o.1.socket.multicastLoopbackEnabled }
            driver := o.1.driver
            helpers := w.helpers
            function := none
            returned := o.2 } := by
  intro o
  have hreceiver : ∀ l ∈ ls.filterMap Sum.getRight?, l.ofReceiver := by
    intro l hl
    obtain ⟨a, ha, hal⟩ := List.mem_filterMap.mp hl
    cases a with
    | inl a => cases hal
    | inr a =>
      cases hal
      exact hls l ha
  -- the functions run first
  have hreorder := (commutes_receiver np preferWriters handler).run_eitherStep
    (Documented.inv_start w) ls hls
  unfold documentedStep at h
  rw [hreorder] at h
  obtain ⟨m, hm, hrun⟩ := Option.bind_eq_some_iff.mp h
  have hmfunction : m.function = none := by
    rw [run_receiver hreceiver] at hrun
    obtain ⟨base, -, rfl⟩ := Option.map_eq_some_iff.mp hrun
    exact ht
  have hsettled := Documented.settled_run hm
  simp only [Documented.settled, hmfunction, Documented.start, Prod.mk.injEq,
    List.nil_append] at hsettled
  obtain ⟨hworld, hreturned⟩ := hsettled
  -- then the receiver, on the groups that they have left
  rw [Documented.function_run (Documented.inv_start w) hm, run_setMembership _ _ _ hreceiver,
    run_receiver hreceiver, Option.map_map] at hrun
  obtain ⟨base, hbase, rfl⟩ := Option.map_eq_some_iff.mp hrun
  refine ⟨base, hbase, ?_⟩
  simp only [Function.comp_apply, hworld, hreturned, hmfunction]
  rfl

/-- A group is joined while `receiveDatagram` polls the only device of the socket. -/
theorem membership_atomic_join :
    let np := Npcap.ofLinkTypes fun _ => linktypeNull
    let handler : Handler Unit := fun _ _ _ _ => none
    let w : World Unit := ⟨{ UdpcapSocket.create true with
      boundState := true
      boundAddress := .any
      boundPort := 5000
      pcapDevices := [⟨0, false, "eth0".toList⟩]
      pcapWin32Handles := [0] }, ⟨1, []⟩, .initial⟩
    let join : MembershipCall := .joinMulticastGroup (.ofInt 0x010000EF)
    let args : ReceiveArgs := ⟨[], 0, le_rfl, -1, none, none, .ofCode .ok⟩
    let receive : FunctionLabel ⊕ ConcurrentLabel := .inr (.receive .tau)
    let access : FunctionLabel ⊕ ConcurrentLabel := .inl .access
    let labels := [.inr (.call args), receive, .inl (.call join), access, access, access, receive,
      receive, receive, access, access, access, access, .inr (.receive (.next 0 [] "")), access,
      access, access, .inl .ret, receive]
    ∃ t, run (documentedStep np true handler) (Documented.start w) labels = some t ∧
      t.base.socket.multicastGroups = (applyCalls np w [join]).1.socket.multicastGroups ∧
      t.driver = (applyCalls np w [join]).1.driver ∧ t.returned = [(join, .returned true)] := by
  intro np handler w join args receive access labels
  have hreceiver : ∀ l, Sum.inr l ∈ labels → l.ofReceiver := by
    intro l hl
    simp only [labels, receive, access, List.mem_cons, List.not_mem_nil, or_false, reduceCtorEq,
      false_or, Sum.inr.injEq] at hl
    rcases hl with rfl | rfl | rfl | rfl | rfl | rfl | rfl <;> trivial
  have hfunction : (run (documentedStep np true handler) (Documented.start w) labels).map
      (fun t => t.function.isNone) = some true := by decide +kernel
  obtain ⟨t, hrun, ht⟩ := Option.map_eq_some_iff.mp hfunction
  obtain ⟨base, -, heq⟩ := membership_atomic np true handler w hreceiver hrun
    (Option.isNone_iff_eq_none.mp ht)
  have hcalls : (labels.filterMap Sum.getLeft?).filterMap FunctionLabel.called = [join] := rfl
  have hresult : (applyCalls np w [join]).2 = [(join, .returned true)] := by decide +kernel
  rw [hcalls] at heq
  exact ⟨t, hrun, by rw [heq], by rw [heq], by rw [heq]; exact hresult⟩

end Udpcap
