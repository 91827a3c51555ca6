import Mathlib.Data.UInt
import Udpcap.Binding
import Udpcap.WakeUp

/-!
# The handles that a receiver waits for

`receiveDatagram` compares the result of `WaitForMultipleObjects` with bounds that it
computes from the number of handles, in unsigned arithmetic.

## Main definitions

* `UdpcapSocket.Waitable` — there is a handle, and the bounds are in order.
* `World.BindsToNoHandle` — `bind` succeeds, but there is no handle to wait for.
* `Session.Waits` — a bound socket has an open device and can be waited for.

## Main results

* `UdpcapSocket.waitable_iff` — the bounds are in order exactly if there is a handle.
* `receiveStep_bound` — a call waits for the handles of a bound socket only.
* `bound_waits_iff` — **a bound socket can be waited for in every state exactly if no
  `bind` succeeds without a handle.**
-/

namespace Udpcap

open Foundation

open Receiver (numHandles)

variable {R : Type} {np : Npcap} {api : IPReassembly R}

/-! ### The bounds -/

/-- `WaitForMultipleObjects` gets at least one handle, and the bounds that its result is
compared with neither wrap around nor overlap. -/
structure UdpcapSocket.Waitable (s : UdpcapSocket R) : Prop where
  one_le : 1 ≤ numHandles s
  object : (waitObject0 + numHandles s - 1).toNat + 1 = waitObject0.toNat + (numHandles s).toNat
  abandoned :
    (waitAbandoned0 + numHandles s - 1).toNat + 1 = waitAbandoned0.toNat + (numHandles s).toNat
  object_lt : waitObject0 + numHandles s - 1 < waitAbandoned0
  abandoned_lt : waitAbandoned0 + numHandles s - 1 < waitTimeout
  timeout_lt : waitTimeout < waitFailed

theorem numHandles_toNat (s : UdpcapSocket R) :
    (numHandles s).toNat = min 64 (s.pcapWin32Handles.length % 2 ^ 32) := by
  unfold numHandles
  simp only
  have hmax : maximumWaitObjects.toNat = 64 := rfl
  split
  next hlt =>
    rw [UInt32.lt_iff_toNat_lt, UInt32.toNat_ofNat', hmax] at hlt
    rw [hmax]
    omega
  next hle =>
    rw [UInt32.lt_iff_toNat_lt, UInt32.toNat_ofNat', hmax] at hle
    rw [UInt32.toNat_ofNat']
    omega

/-- There is a handle to wait for unless their number is a multiple of 2^32. -/
theorem UdpcapSocket.waitable_iff (s : UdpcapSocket R) :
    s.Waitable ↔ s.pcapWin32Handles.length % 2 ^ 32 ≠ 0 := by
  have hnum := numHandles_toNat s
  constructor
  · intro h hzero
    have hle := UInt32.le_iff_toNat_le.mp h.one_le
    rw [hnum, hzero] at hle
    simp at hle
  · intro hne
    generalize hn : numHandles s = n at hnum
    have hpos : 1 ≤ n.toNat := by omega
    have hle : n.toNat ≤ 64 := by omega
    -- neither sum wraps around, and 1 can be subtracted from both
    have hobject : (waitObject0 + n - 1).toNat + 1 = n.toNat := by
      have hone : (1 : UInt32) ≤ waitObject0 + n := by
        rw [UInt32.le_iff_toNat_le]
        simpa [waitObject0] using hpos
      rw [UInt32.toNat_sub_of_le _ _ hone]
      have hadd : (waitObject0 + n).toNat = n.toNat := by simp [waitObject0]
      rw [hadd]
      exact Nat.sub_add_cancel hpos
    have habandoned : (waitAbandoned0 + n - 1).toNat + 1 = 128 + n.toNat := by
      have hadd : (waitAbandoned0 + n).toNat = 128 + n.toNat := by
        rw [UInt32.toNat_add]
        exact Nat.mod_eq_of_lt (by show 128 + n.toNat < 2 ^ 32; omega)
      have hone : (1 : UInt32) ≤ waitAbandoned0 + n := by
        rw [UInt32.le_iff_toNat_le, hadd]
        show 1 ≤ 128 + n.toNat
        omega
      rw [UInt32.toNat_sub_of_le _ _ hone, hadd]
      show 128 + n.toNat - 1 + 1 = 128 + n.toNat
      omega
    -- with 64 handles at most, the three ranges of results do not overlap
    refine ⟨?_, ?_, ?_, ?_, ?_, by decide⟩
    · rw [hn, UInt32.le_iff_toNat_le]
      exact hpos
    · rw [hn, hobject]
      exact (Nat.zero_add _).symm
    · rw [hn]
      exact habandoned
    · rw [hn, UInt32.lt_iff_toNat_lt]
      show _ < 128
      omega
    · rw [hn, UInt32.lt_iff_toNat_lt]
      show _ < 258
      omega

/-! ### The invariant -/

/-- `bind` succeeds and leaves no handle to wait for: none of its devices opens and none was
open before, or their number is another multiple of 2^32. -/
structure World.BindsToNoHandle (np : Npcap) (api : IPReassembly R) (w : World R)
    (alldevs : DeviceList) (localAddress : HostAddress) : Prop where
  isValid : w.socket.isValid = true
  unbound : w.socket.boundState = false
  valid : localAddress.valid = true
  noHandle : ∃ names, w.BindsTo np api alldevs localAddress names ∧
    (w.entries.length + (np.openedDevices w.driver.created names).length) % 2 ^ 32 = 0

/-- The call is past the checks at the start of a round. -/
def Pc.pastChecks : Pc → Bool
  | .poll .. | .handle .. | .unlockCallback | .timeCheck | .wait _ => true
  | _ => false

/-- **A call that is past the checks of a round works on a bound socket.** -/
theorem receiveStep_bound {handler : Handler R} {s s' : UdpcapSocket R} {rx rx' : Receiver}
    {reply : Reply} (h : receiveStep handler s rx reply = some (s', rx'))
    (hs : rx.pc.pastChecks = true → s.boundState = true) (hpast : rx'.pc.pastChecks = true) :
    s'.boundState = true := by
  cases receiveStep_case h with
  | first hpc hopen hbound => exact hbound
  | take k pcapDev pktData geterr hpc | skip k pcapDev pktData geterr hpc | noData hpc
  | wait now hpc =>
    exact hs (by rw [hpc]; rfl)
  | handle k pcapDev pktData env reassemblers callbackArgs hpc =>
    exact hs (by rw [hpc]; rfl)
  | invalid | valid | lockLists | lockCallback | refuse | pollError | crash | again | timeout | wake
  | waitTimeout | leaveRound | leave => cases hpast

/-- A bound socket has an open device and can be waited for, and so can every socket that
is waited for. -/
structure Session.Waits (s : Session R) : Prop where
  bound : s.world.socket.isBound = true →
    s.world.socket.pcapDevices ≠ [] ∧ s.world.socket.Waitable
  waiting : ∀ c ∈ s.current, ∀ ms, c.receiver.pc = .wait ms → s.world.socket.Waitable

/-- The `bind` that a step consists of does not succeed without a handle. -/
def Session.BindsWithHandle (np : Npcap) (api : IPReassembly R) (s : Session R)
    (l : SessionLabel) : Prop :=
  ∀ alldevs a p, l = .op (.bind alldevs a p) → s.current = none →
    ¬s.world.BindsToNoHandle np api alldevs a

/-- The invariant: what `Waits` says, and that a call past the checks works on a bound
socket. -/
structure Session.WaitsKept (s : Session R) : Prop where
  aligned : s.world.Aligned
  bound : s.world.socket.boundState = true → s.world.entries.length % 2 ^ 32 ≠ 0
  current : ∀ c ∈ s.current, c.receiver.pc.pastChecks = true → s.world.socket.boundState = true

theorem World.Aligned.waitable_iff {w : World R} (hw : w.Aligned) :
    w.socket.Waitable ↔ w.entries.length % 2 ^ 32 ≠ 0 := by
  have hlength : w.socket.pcapWin32Handles.length = w.entries.length := by
    unfold World.entries
    rw [hw, List.length_map, List.length_map]
  rw [UdpcapSocket.waitable_iff, hlength]

theorem Session.WaitsKept.waits {s : Session R} (hs : s.WaitsKept) : s.Waits := by
  have hbound : s.world.socket.boundState = true → s.world.socket.Waitable := fun h =>
    hs.aligned.waitable_iff.mpr (hs.bound h)
  constructor
  · intro h
    refine ⟨?_, hbound h⟩
    intro hnil
    refine hs.bound h ?_
    unfold World.entries
    rw [hnil]
    rfl
  · intro c hc ms hpc
    exact hbound (hs.current c hc (by rw [hpc]; rfl))

/-- An operation keeps the number of devices of a bound socket, unless it is `bind`. -/
theorem World.entries_apply {w w' : World R} (hw : w.socket.boundState = true →
      w.entries.length % 2 ^ 32 ≠ 0) {op : Op} {out : OpResult}
    (hop : w.apply np api op = some (w', out))
    (hbind : ∀ alldevs a p, op = .bind alldevs a p → ¬w.BindsToNoHandle np api alldevs a) :
    w'.socket.boundState = true → w'.entries.length % 2 ^ 32 ≠ 0 := by
  unfold World.entries at hw ⊢
  rcases devices_apply hop with ⟨alldevs, a, p, ok, rfl, hopen⟩ | rfl | ⟨hbound, hdevices⟩
  · cases ok with
    | false =>
      -- a `bind` on a bound socket opens nothing, and after any other the socket is not bound
      obtain ⟨v, opened, hopened, ⟨-, rfl, hbound⟩ | ⟨hfalse, -⟩⟩ := bind_cases hopen
      · intro htrue
        rw [hopened.socket_eq] at htrue
        rw [hbound htrue]
        exact hw htrue
      · cases hfalse
    | true =>
      -- the devices after a successful `bind` are those before and the opened ones
      obtain ⟨hvalid, hbound, haddr, names, hnames⟩ := bind_bindsTo hopen
      obtain ⟨v', hopen', -, hentries⟩ := hnames.bind hvalid hbound haddr p
      rw [hopen] at hopen'
      cases hopen'
      intro _ hzero
      refine hbind alldevs a p rfl ⟨hvalid, hbound, haddr, names, hnames, ?_⟩
      rw [← List.length_append, ← hentries]
      exact hzero
  · cases hop
    rw [close_socket]
    exact fun h => absurd h Bool.false_ne_true
  · rw [hbound, hdevices]
    exact hw

section Sessions

variable {handler : Handler R} {s t : Session R} {l : SessionLabel}

theorem Session.aligned_step (hs : s.world.Aligned)
    (h : sessionStep np api handler s l = some t) : t.world.Aligned := by
  rcases sessionStep_world h with ⟨op, out, -, -, happly⟩ | hreassembles
  · exact hs.apply happly
  · obtain ⟨reassemblers, hsocket⟩ := hreassembles.socket
    exact hs.congr (by rw [hsocket]) (by rw [hsocket])

/-- Every step of a session whose `bind`s have a handle keeps the invariant. -/
theorem Session.WaitsKept.step (hs : s.WaitsKept) (hl : s.BindsWithHandle np api l)
    (h : sessionStep np api handler s l = some t) : t.WaitsKept := by
  rcases sessionStep_cases h with ⟨h', pktData, rfl, rfl⟩ | ⟨op, w, out, rfl, hcurrent, hop, rfl⟩ |
    ⟨args, rfl, hcurrent, rfl⟩ | ⟨reply, c, rx, rfl, heffect⟩
  · exact ⟨hs.aligned, hs.bound, hs.current⟩
  · -- no call is in progress while an operation runs
    refine ⟨hs.aligned.apply hop, ?_, ?_⟩
    · refine World.entries_apply hs.bound hop ?_
      rintro alldevs a p rfl
      exact hl alldevs a p rfl hcurrent
    · intro c hc
      have hc' : c ∈ s.current := hc
      rw [hcurrent] at hc'
      cases hc'
  · refine ⟨hs.aligned, hs.bound, ?_⟩
    intro c hc
    cases hc
    exact nofun
  · -- a call changes nothing but the reassemblers
    obtain ⟨reassemblers, hsocket⟩ := receiveStep_socket heffect.step
    have hbound := receiveStep_bound heffect.step (hs.current c heffect.current_eq)
    refine ⟨hs.aligned.congr (by rw [hsocket]) (by rw [hsocket]), ?_, ?_⟩
    · have hkept := hs.bound
      unfold World.entries at hkept ⊢
      rw [hsocket]
      exact hkept
    · intro c' hc'
      rcases heffect.proceeds _ rfl with ⟨hcurrent, -⟩ | ⟨hcurrent, -⟩
      · rw [hcurrent] at hc'
        cases hc'
        exact hbound
      · rw [hcurrent] at hc'
        cases hc'

/-- A `bind` that succeeds without a handle leaves a bound socket that cannot be waited
for. -/
theorem Session.not_waits_of_bind (handler : Handler R) (hs : s.world.Aligned)
    (hl : ¬s.BindsWithHandle np api l) :
    ∃ t, sessionStep np api handler s l = some t ∧ ¬t.Waits := by
  unfold BindsWithHandle at hl
  push Not at hl
  obtain ⟨alldevs, a, p, rfl, hcurrent, hbinds⟩ := hl
  obtain ⟨names, hnames, hzero⟩ := hbinds.noHandle
  obtain ⟨v, hopen, hbound, hentries⟩ := hnames.bind hbinds.isValid hbinds.unbound hbinds.valid p
  have happly : s.world.apply np api (.bind alldevs a p) = some (v, .returned true) := by
    show (s.world.bind np api alldevs a p).map _ = _
    rw [hopen, Option.map_some]
  refine ⟨{ s with world := v }, ?_, ?_⟩
  · unfold sessionStep
    simp only
    rw [hcurrent, happly]
    rfl
  · -- the number of handles is a multiple of 2^32, and no handle is left after the cut
    intro hwaits
    obtain ⟨-, hwaitable⟩ := hwaits.bound hbound
    have hne := (hs.apply happly).waitable_iff.mp hwaitable
    rw [hentries, List.length_append] at hne
    exact hne hzero

/-- **In every state of a session a bound socket has an open device, and every wait gets a
handle and compares with bounds in order, exactly if no `bind` succeeds without a
handle.** -/
theorem bound_waits_iff (np : Npcap) (api : IPReassembly R) (handler : Handler R)
    (initialized : Bool) (driver : Driver) (helpers : NpcapHelpers) (labels : List SessionLabel) :
    let step := sessionStep np api handler
    let start := Session.start (World.create initialized driver helpers)
    HoldsAlong step Session.Waits start labels ↔
      StepsMeet step (Session.BindsWithHandle np api) start labels := by
  intro step start
  have hstart : start.WaitsKept :=
    ⟨rfl, fun h => absurd h Bool.false_ne_true, fun c hc => absurd hc (Option.not_mem_none c)⟩
  constructor
  · intro hholds
    have hkept : ∀ s l t, s.world.Aligned → step s l = some t → t.world.Aligned :=
      fun s l t hs hst => Session.aligned_step hs hst
    have haligned : HoldsAlong step (fun s => s.world.Aligned) start labels :=
      holdsAlong_of_invariant (fun _ hs => hs) hkept hstart.aligned
    -- the step that fails the condition needs the lists to be aligned
    have hboth : HoldsAlong step (fun s => s.Waits ∧ s.world.Aligned) start labels :=
      holdsAlong_and.mpr ⟨hholds, haligned⟩
    refine HoldsAlong.stepsMeet ?_ hboth
    intro s l hs hl
    obtain ⟨t, hst, hwaits⟩ := Session.not_waits_of_bind handler hs.2 hl
    exact ⟨t, hst, fun ht => hwaits ht.1⟩
  · exact holdsAlong_of_stepsMeet (fun s hs => hs.waits) (fun s l t hs hl hst => hs.step hl hst)
      hstart

end Sessions

/-- No device opens, and `bind` to any address succeeds; the bounds wrap around, and a wait
that times out goes on like one that ends with a packet. -/
theorem bind_without_handle :
    let np : Npcap := { Npcap.ofLinkTypes fun _ => linktypeNull with create := fun _ => false }
    let step := sessionStep np SmallPcpp.api (packetHandlerRawPtr SmallPcpp.pcpp SmallPcpp.api)
    let start : Session SmallPcpp.Reassembler :=
      Session.start (World.create true ⟨0, []⟩ .initial)
    let args : ReceiveArgs := ⟨[0], 1, by decide, 100, none, none, .ofCode .ok⟩
    let labels : List SessionLabel := [.op (.bind (some [⟨"eth".toList, some [], []⟩]) .any 5000),
      .call args, .reply (.clock 0), .reply .tau, .reply .tau, .reply .tau, .reply .tau,
      .reply (.clock 0), .reply (.wait waitTimeout "")]
    (run step start labels).map (fun s => (s.world.socket.isBound, s.world.socket.pcapDevices,
        waitObject0 + numHandles s.world.socket - 1,
        s.current.map fun c => (c.receiver.pc, c.receiver.error))) =
      some (true, [], waitFailed, some (.lockCallback, .ofCode .ok)) := by
  decide +kernel

end Udpcap
