import Mathlib.Data.Finset.Insert
import Udpcap.SmallPcpp
import Udpcap.SocketSpec

/-!
# Multicast membership

The groups of a socket against the groups that its user has joined and not left.
`close` does not clear `multicast_groups_`, and a request to join a group adds it before
the kickstart that may throw.  So the two agree exactly as long as all groups are left
before the socket is closed and no kickstart throws.

## Main definitions

* `track` — the groups joined and not left, after one more call.
* `Contract` — what is documented about membership, in one state.
* `World.JoinsReturn` — no request to join a group would end with an exception.

## Main results

* `contract_iff_closed_without_groups` — **the contract holds throughout a history
  if and only if the socket is only ever closed when it has left all groups and no request
  to join one ends with an exception.**
* `member_after_close` — a socket that breaks it.
-/

namespace Udpcap

variable {R : Type} (np : Npcap) (api : IPReassembly R)

/-- The groups joined and not left, after a call with the given result.  A socket
that is not bound is in no group. -/
def track (joined : Finset HostAddress) : Op → OpResult → Finset HostAddress
  | .bind _ _ _, .returned true => ∅
  | .joinMulticastGroup g, .returned true => insert g joined
  | .leaveMulticastGroup g, .returned true => joined.erase g
  | .close, _ => ∅
  | _, _ => joined

/-- One call, seen by a user who keeps account of the groups. -/
def memberStep (s : World R × Finset HostAddress) (op : Op) :
    Option (World R × Finset HostAddress) :=
  (s.1.apply np api op).map fun o => (o.1, track s.2 op o.2)

/-- What is documented about membership. -/
structure Contract (w : World R) (joined : Finset HostAddress) : Prop where
  mem_iff : ∀ g, g ∈ w.socket.multicastGroups ↔ g ∈ joined
  empty_of_unbound : w.socket.boundState = false → w.socket.multicastGroups = []
  multicast : ∀ g ∈ w.socket.multicastGroups, g.isValid = true ∧ g.isMulticast = true
  join_iff : ∀ g, (w.joinMulticastGroup np g).2 = .returned true ↔
    w.socket.isValid = true ∧ w.socket.boundState = true ∧
      (g.isValid = true ∧ g.isMulticast = true) ∧ g ∉ joined
  leave_iff : ∀ g, (w.leaveMulticastGroup np g).2 = true ↔
    w.socket.isValid = true ∧ w.socket.boundState = true ∧ g ∈ joined
  join_refused : ∀ g, (w.joinMulticastGroup np g).2 = .returned false →
    (w.joinMulticastGroup np g).1 = w
  leave_refused : ∀ g, (w.leaveMulticastGroup np g).2 = false → (w.leaveMulticastGroup np g).1 = w
  setReceiveBufferSize_refused : ∀ n, (w.setReceiveBufferSize n).2 = false →
    (w.setReceiveBufferSize n).1 = w
  /-- A failed `bind` does not touch what membership depends on. -/
  bind_refused : ∀ alldevs a p w', w.bind np api alldevs a p = some (w', false) →
    w'.socket.multicastGroups = w.socket.multicastGroups ∧
      w'.socket.multicastLoopbackEnabled = w.socket.multicastLoopbackEnabled ∧
      w'.socket.boundState = w.socket.boundState ∧ w'.socket.isValid = w.socket.isValid

/-- No request to join a group would be granted and end with an exception. -/
def World.JoinsReturn (w : World R) : Prop := ∀ g, w.JoinGranted g → ¬w.JoinThrows np g

/-! ### The invariant -/

/-- The groups of the socket are those joined; they are multicast addresses, and
there are none when the socket is not bound. -/
structure InGroups (w : World R) (joined : Finset HostAddress) : Prop where
  mem_iff : ∀ g, g ∈ w.socket.multicastGroups ↔ g ∈ joined
  empty_of_unbound : w.socket.boundState = false → w.socket.multicastGroups = []
  multicast : ∀ g ∈ w.socket.multicastGroups, g.isMulticast = true

variable {np api}

namespace InGroups

variable {w : World R} {joined : Finset HostAddress}

theorem valid (h : InGroups w joined) : ∀ g ∈ w.socket.multicastGroups, g.valid = true :=
  fun g hg => HostAddress.valid_of_isMulticast (h.multicast g hg)

/-- For a valid address, the search in the set finds the group iff it is joined. -/
theorem contains_iff (h : InGroups w joined) {g : HostAddress} (hg : g.valid = true) :
    StdSet.contains HostAddress.lt g w.socket.multicastGroups = true ↔ g ∈ joined := by
  rw [StdSet.contains_iff_mem (HostAddress.separates_of_valid hg h.valid), h.mem_iff]

/-- The invariant only looks at the groups and at whether the socket is bound. -/
theorem congr (h : InGroups w joined) {w' : World R}
    (hgroups : w'.socket.multicastGroups = w.socket.multicastGroups)
    (hbound : w'.socket.boundState = w.socket.boundState) : InGroups w' joined where
  mem_iff := hgroups ▸ h.mem_iff
  empty_of_unbound := by
    rw [hgroups, hbound]
    exact h.empty_of_unbound
  multicast := hgroups ▸ h.multicast

theorem joinGranted_iff (h : InGroups w joined) {g : HostAddress} :
    w.JoinGranted g ↔ w.socket.isValid = true ∧ w.socket.boundState = true ∧
      (g.isValid = true ∧ g.isMulticast = true) ∧ g ∉ joined := by
  constructor
  · -- the search in the set finds exactly the groups that are joined
    rintro ⟨hvalid, hg, hmulticast, hbound, hnew⟩
    refine ⟨hvalid, hbound, ⟨hg, hmulticast⟩, ?_⟩
    intro hjoined
    rw [(h.contains_iff hg).mpr hjoined] at hnew
    cases hnew
  · rintro ⟨hvalid, hbound, ⟨hg, hmulticast⟩, hnew⟩
    refine ⟨hvalid, hg, hmulticast, hbound, Bool.not_eq_true _ ▸ fun hin => ?_⟩
    exact hnew ((h.contains_iff hg).mp hin)

theorem contract (h : InGroups w joined) (hreturns : w.JoinsReturn np) :
    Contract np api w joined where
  mem_iff := h.mem_iff
  empty_of_unbound := h.empty_of_unbound
  multicast := fun g hg => ⟨h.valid g hg, h.multicast g hg⟩
  join_iff g := by
    rw [World.joinMulticastGroup_eq_true, ← h.joinGranted_iff]
    exact ⟨fun hjoin => hjoin.1, fun hgranted => ⟨hgranted, hreturns g hgranted⟩⟩
  leave_iff g := by
    rw [World.leaveMulticastGroup_eq_true]
    constructor
    · rintro ⟨hvalid, hg, hin⟩
      have hjoined := (h.contains_iff hg).mp hin
      refine ⟨hvalid, ?_, hjoined⟩
      -- an unbound socket is in no group
      by_contra hbound
      have hunbound : w.socket.boundState = false := by simpa using hbound
      have hempty := h.empty_of_unbound hunbound
      have hmem := (h.mem_iff g).mpr hjoined
      rw [hempty] at hmem
      cases hmem
    · rintro ⟨hvalid, -, hjoined⟩
      have hg := h.valid g ((h.mem_iff g).mpr hjoined)
      exact ⟨hvalid, hg, (h.contains_iff hg).mpr hjoined⟩
  join_refused g hfalse := by
    rw [World.joinMulticastGroup_eq_false] at hfalse
    rw [World.joinMulticastGroup_of_refused np hfalse]
  leave_refused g hfalse := by
    rcases w.leaveMulticastGroup_cases np g with ⟨-, heq⟩ | ⟨htrue, -⟩
    · exact heq
    · rw [hfalse] at htrue
      cases htrue
  setReceiveBufferSize_refused n hfalse := by
    rcases w.setReceiveBufferSize_cases n with ⟨-, heq⟩ | ⟨htrue, -⟩
    · exact heq
    · rw [hfalse] at htrue
      cases htrue
  bind_refused alldevs a p w' hbind := by
    obtain ⟨v, opened, hopen, ⟨-, rfl, -⟩ | ⟨htrue, -⟩⟩ := World.bind_cases hbind
    · rw [hopen.socket_eq]
      exact ⟨rfl, rfl, rfl, rfl⟩
    · cases htrue

/-- Joining a group. -/
theorem insert (h : InGroups w joined) {g : HostAddress} (hg : g.isMulticast = true)
    (hbound : w.socket.boundState = true) {w' : World R}
    (hgroups : w'.socket.multicastGroups =
      StdSet.emplace HostAddress.lt g w.socket.multicastGroups)
    (hbound' : w'.socket.boundState = w.socket.boundState) :
    InGroups w' (insert g joined) := by
  have hsep := HostAddress.separates_of_valid (HostAddress.valid_of_isMulticast hg) h.valid
  refine ⟨?_, ?_, ?_⟩
  · intro k
    rw [hgroups, StdSet.mem_emplace hsep, Finset.mem_insert, h.mem_iff]
  · intro hunbound
    rw [hbound', hbound] at hunbound
    cases hunbound
  · intro k hk
    rw [hgroups, StdSet.mem_emplace hsep] at hk
    rcases hk with rfl | hk
    · exact hg
    · exact h.multicast k hk

/-- Leaving a group. -/
theorem erase (h : InGroups w joined) {g : HostAddress} (hg : g.valid = true) {w' : World R}
    (hgroups : w'.socket.multicastGroups = StdSet.erase HostAddress.lt g w.socket.multicastGroups)
    (hbound : w'.socket.boundState = w.socket.boundState) :
    InGroups w' (joined.erase g) := by
  have hsep := HostAddress.separates_of_valid hg h.valid
  refine ⟨?_, ?_, ?_⟩
  · intro k
    rw [hgroups, StdSet.mem_erase hsep, Finset.mem_erase, h.mem_iff, and_comm]
  · intro hunbound
    rw [hbound] at hunbound
    rw [hgroups, h.empty_of_unbound hunbound]
    rfl
  · intro k hk
    rw [hgroups, StdSet.mem_erase hsep] at hk
    exact h.multicast k hk.1

/-- An unbound socket was in no group, so nothing has to be forgotten. -/
theorem of_unbound (h : InGroups w joined) (hbound : w.socket.boundState = false) {w' : World R}
    (hgroups : w'.socket.multicastGroups = w.socket.multicastGroups) : InGroups w' ∅ := by
  have hempty := h.empty_of_unbound hbound
  refine ⟨?_, fun _ => hgroups.trans hempty, ?_⟩
  · intro g
    rw [hgroups, hempty]
    simp
  · intro g hg
    rw [hgroups, hempty] at hg
    cases hg

/-- **Every call keeps the groups in order**, if the socket is only closed when it is
in no group and the call does not throw. -/
theorem step {s t : World R × Finset HostAddress} {op : Op} (h : InGroups s.1 s.2)
    (hreturns : s.1.JoinsReturn np) (hclose : op = .close → s.1.socket.multicastGroups = [])
    (hst : memberStep np api s op = some t) : InGroups t.1 t.2 := by
  obtain ⟨w, joined⟩ := s
  obtain ⟨⟨w', out⟩, ho, rfl⟩ := Option.map_eq_some_iff.mp hst
  simp only at h hreturns hclose ho ⊢
  cases World.apply_case ho with
  | bindFails alldevs a p _ opened hopen =>
    exact h.congr (by rw [hopen.socket_eq]) (by rw [hopen.socket_eq])
  | binds alldevs a p v opened hopen hbound =>
    refine h.of_unbound hbound ?_
    rw [World.finishBind_socket, hopen.socket_eq]
  | resizes n => exact h.congr rfl rfl
  | joins g v hg hbound hv | joinsKickstart g v hg hbound hv =>
    subst hv
    exact h.insert hg hbound (by simp) (by simp)
  | joinThrows g v hg hbound hv =>
    -- the group would be in the set although the call has not returned
    have hthrew : (w.joinMulticastGroup np g).2 = .threw := congrArg Prod.snd (Option.some.inj ho)
    obtain ⟨hgranted, hthrows⟩ := (w.joinMulticastGroup_eq_threw np g).mp hthrew
    exact absurd hthrows (hreturns g hgranted)
  | leaves g v hvalid hv =>
    subst hv
    exact h.erase hvalid (by simp) (by simp)
  | setsLoopback enabled v hv => exact h.congr (by simp [hv]) (by simp [hv])
  | setLoopbackThrows v hv => exact h.congr (by simp [hv]) (by simp [hv])
  | closes =>
    have hempty := hclose rfl
    refine ⟨?_, ?_, ?_⟩
    · intro g
      simp [track, hempty]
    · intro _
      simp [hempty]
    · intro g hg
      simp [hempty] at hg
  | resizeRefused | joinRefused | leaveRefused | keepsLoopback => exact h

end InGroups

theorem inGroups_create (initialized : Bool) (driver : Driver) (helpers : NpcapHelpers) :
    InGroups (World.create initialized driver helpers : World R) ∅ :=
  ⟨fun _ => by simp [World.create, UdpcapSocket.create], fun _ => rfl, fun _ hg => by cases hg⟩

/-- In a state in which the contract holds, no request to join a group throws. -/
theorem Contract.joinsReturn {w : World R} {joined : Finset HostAddress}
    (h : Contract np api w joined) : w.JoinsReturn np := by
  intro g hgranted hthrows
  have hgroups : InGroups w joined :=
    ⟨h.mem_iff, h.empty_of_unbound, fun k hk => (h.multicast k hk).2⟩
  have hjoin := (h.join_iff g).mpr (hgroups.joinGranted_iff.mp hgranted)
  exact ((w.joinMulticastGroup_eq_true np g).mp hjoin).2 hthrows

/-- **The membership contract holds throughout a history if and only if the socket is
only ever closed when it has left all groups, and no request to join one ends with an
exception.** -/
theorem contract_iff_closed_without_groups (np : Npcap) (api : IPReassembly R)
    (initialized : Bool) (driver : Driver) (helpers : NpcapHelpers) (ops : List Op) :
    Foundation.HoldsAlong (memberStep np api) (fun s => Contract np api s.1 s.2)
        (World.create initialized driver helpers, ∅) ops ↔
      Foundation.HoldsAlong (memberStep np api) (fun s => s.1.JoinsReturn np)
          (World.create initialized driver helpers, ∅) ops ∧
        Foundation.StepsMeet (memberStep np api)
          (fun s op => op = .close → s.1.socket.multicastGroups = [])
          (World.create initialized driver helpers, ∅) ops := by
  constructor
  · intro h
    refine ⟨h.mono fun s hs => hs.joinsReturn, ?_⟩
    refine Foundation.HoldsAlong.stepsMeet ?_ h
    rintro ⟨w, joined⟩ op - hclose
    rw [Classical.not_imp] at hclose
    obtain ⟨rfl, hgroups⟩ := hclose
    refine ⟨(w.close, ∅), rfl, ?_⟩
    intro hcontract
    -- the closed socket is not bound, and still has its groups
    have hempty := hcontract.empty_of_unbound (by simp)
    simp only [World.close_socket] at hempty
    exact hgroups hempty
  · rintro ⟨hreturns, hclose⟩
    have hgroups := Foundation.holdsAlong_of_stepsMeet
      (I := fun s : World R × Finset HostAddress => InGroups s.1 s.2) (fun _ hs => hs)
      (fun s op t hs hC hst => hs.step hC.1 hC.2 hst)
      (inGroups_create initialized driver helpers)
      (Foundation.stepsMeet_and.mpr ⟨hreturns.before, hclose⟩)
    exact (Foundation.holdsAlong_and.mpr ⟨hgroups, hreturns⟩).mono fun s hs => hs.1.contract hs.2

/-- A socket is bound, joins 239.0.0.1 and is closed.  It is still in the group: the
group can be left although the socket is not bound, and once the socket is bound
again, the group cannot be joined. -/
theorem member_after_close :
    let np := Npcap.ofLinkTypes fun _ => linktypeNull
    let group := HostAddress.ofInt 0x010000EF
    let bindLoopback := Op.bind none .localHost 5000
    let start : World SmallPcpp.Reassembler × Finset HostAddress :=
      (World.create true ⟨0, []⟩ .initial, ∅)
    ¬Foundation.HoldsAlong (memberStep np SmallPcpp.api)
        (fun s => Contract np SmallPcpp.api s.1 s.2) start
        [bindLoopback, .joinMulticastGroup group, .close] ∧
      (Foundation.run (memberStep np SmallPcpp.api) start
        [bindLoopback, .joinMulticastGroup group, .close]).map
        (fun s => (s.1.socket.boundState, s.1.socket.multicastGroups, s.2,
          (s.1.leaveMulticastGroup np group).2)) = some (false, [group], ∅, true) ∧
      (Foundation.run (memberStep np SmallPcpp.api) start
        [bindLoopback, .joinMulticastGroup group, .close, bindLoopback]).map
        (fun s => (s.1.socket.boundState, s.2, (s.1.joinMulticastGroup np group).2)) =
          some (true, ∅, .returned false) := by
  intro np group bindLoopback start
  refine ⟨?_, by decide +kernel, by decide +kernel⟩
  refine Foundation.not_holdsAlong (fun s => !s.1.socket.boundState &&
    !s.1.socket.multicastGroups.isEmpty) ?_ (by decide +kernel)
  intro s hs hcontract
  simp only [Bool.and_eq_true, Bool.not_eq_true', List.isEmpty_eq_false_iff] at hs
  exact hs.2 (hcontract.empty_of_unbound hs.1)

end Udpcap
