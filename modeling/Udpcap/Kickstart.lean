import Udpcap.AddressOrder
import Udpcap.AddressText
import Udpcap.EndToEnd
import Udpcap.HostOrder

/-!
# The kickstart of loopback multicast

`kickstartLoopbackMulticast` opens a socket of the operating system, joins the groups of
the udpcap socket with it, and sends an empty packet to each of them.

## Main definitions

* `KickstartRight` — what the calls should be.
* `IsKickstartPacket` — the packets that are sent, as the driver sees them.

## Main results

* `kickstart_right` — **every group gets one packet if the socket can be set up, and an
  exception can only come from constructing it or from closing it.**
* `World.kickstartThrows_iff` — when `joinMulticastGroup` and `setMulticastLoopbackEnabled`
  may end with an exception.
* `session_kickstarts` — the same of every kickstart of a session.
* `network_kickstarts` — **only sockets bound to the port of the kickstart store its
  packets.**
-/

namespace Udpcap

open PcapFilter

variable {R : Type}

/-! ### What a kickstart does -/

/-- `make_address` reads dotted notation. -/
def Asio.ReadsAddresses (asio : Asio) : Prop := ∀ n, asio.makeAddress (inetNtop n) = some n

namespace Asio

variable {asio : Asio}

/-- All of some calls succeed, one after the other. -/
def AllSucceed (asio : Asio) (done cs : List KickstartCall) : Prop :=
  ∀ before c after, cs = before ++ c :: after → asio.succeeds (done ++ before) c = true

theorem allSucceed_nil (done : List KickstartCall) : asio.AllSucceed done [] := by
  intro before c after h
  simp at h

theorem allSucceed_cons {done cs : List KickstartCall} {c : KickstartCall} :
    asio.AllSucceed done (c :: cs) ↔
      asio.succeeds done c = true ∧ asio.AllSucceed (done ++ [c]) cs := by
  constructor
  · intro h
    constructor
    · simpa using h [] c cs rfl
    · intro before c' after hcs
      have hc := h (c :: before) c' after (by rw [hcs]; rfl)
      rwa [List.append_cons] at hc
  · rintro ⟨hc, hcs⟩ before c' after h
    cases before with
    | nil =>
      cases h
      simpa using hc
    | cons b before =>
      cases h
      rw [List.append_cons]
      exact hcs before c' after rfl

/-- **The set-up ends with the first call that fails.** -/
theorem setUp_spec (done cs : List KickstartCall) :
    (asio.AllSucceed done cs ∧ asio.setUp done cs = (done ++ cs, true)) ∨
      ∃ before c after, cs = before ++ c :: after ∧ asio.AllSucceed done before ∧
        asio.succeeds (done ++ before) c = false ∧
        asio.setUp done cs = (done ++ before ++ [c], false) := by
  induction cs generalizing done with
  | nil =>
    left
    exact ⟨allSucceed_nil done, by rw [List.append_nil]; rfl⟩
  | cons c cs ih =>
    unfold setUp
    cases hc : asio.succeeds done c with
    | false =>
      right
      refine ⟨[], c, cs, rfl, allSucceed_nil done, ?_, ?_⟩
      · simpa using hc
      · simp
    | true =>
      rcases ih (done ++ [c]) with ⟨hall, hrun⟩ | ⟨before, c', after, rfl, hall, hfails, hrun⟩
      · left
        refine ⟨allSucceed_cons.mpr ⟨hc, hall⟩, ?_⟩
        rw [if_pos rfl, hrun, ← List.append_cons]
      · right
        refine ⟨c :: before, c', after, rfl, allSucceed_cons.mpr ⟨hc, hall⟩, ?_, ?_⟩
        · rw [List.append_cons]
          exact hfails
        · rw [if_pos rfl, hrun, List.append_cons done c before]

/-- The loop reaches every group. -/
theorem forEachGroup_eq (hreads : asio.ReadsAddresses) (call : UInt32 → KickstartCall)
    (done : List KickstartCall) {groups : List HostAddress}
    (hvalid : ∀ g ∈ groups, g.valid = true) :
    asio.forEachGroup call done groups =
      (done ++ groups.map fun g => call g.ipv4, true) := by
  induction groups generalizing done with
  | nil => simp [forEachGroup]
  | cons g groups ih =>
    obtain ⟨hg, hgroups⟩ := List.forall_mem_cons.mp hvalid
    have htext : g.toString = inetNtop g.ipv4 := if_pos hg
    unfold forEachGroup
    rw [htext, hreads]
    simp only
    rw [ih _ hgroups, List.map_cons, ← List.append_cons]

end Asio

/-- The calls of a kickstart that gets past the set-up, up to `close`. -/
def kickstartCalls (groups : List HostAddress) : List KickstartCall :=
  kickstartSetUp 0 ++ (groups.map fun g => .joinGroup g.ipv4) ++
    groups.map fun g => .sendTo [] g.ipv4 kickstartPort

/-- What the calls of a kickstart should be. -/
structure KickstartRight (asio : Asio) (groups : List HostAddress) (k : Kickstarted) : Prop where
  /-- Without a socket there are no calls. -/
  none_of_not_constructs : asio.constructs = false → k.calls = []
  /-- All groups are joined and get their packet, also when some of the calls fail. -/
  complete : asio.constructs = true → asio.AllSucceed [] (kickstartSetUp 0) →
    k.calls = kickstartCalls groups ++ [.close]
  /-- The first call of the set-up that fails is the last one of all. -/
  stopped : asio.constructs = true → ¬asio.AllSucceed [] (kickstartSetUp 0) →
    ∃ before c after, kickstartSetUp 0 = before ++ c :: after ∧ asio.AllSucceed [] before ∧
      asio.succeeds before c = false ∧ k.calls = before ++ [c]
  threw_iff : k.threw = true ↔ asio.constructs = false ∨
    asio.AllSucceed [] (kickstartSetUp 0) ∧ asio.succeeds (kickstartCalls groups) .close = false

/-- **A kickstart does what it should**, when the groups are valid addresses. -/
theorem kickstart_right {asio : Asio} (hreads : asio.ReadsAddresses) {groups : List HostAddress}
    (hvalid : ∀ g ∈ groups, g.valid = true) :
    KickstartRight asio groups (kickstartLoopbackMulticast asio groups) := by
  have hany : asio.makeAddress "0.0.0.0".toList = some 0 := by
    have htext : "0.0.0.0".toList = inetNtop 0 := by decide
    rw [htext]
    exact hreads 0
  unfold kickstartLoopbackMulticast
  cases hconstructs : asio.constructs with
  | false =>
    have hnot : asio.constructs ≠ true := by
      rw [hconstructs]
      exact Bool.false_ne_true
    exact ⟨fun _ => rfl, fun h => absurd h hnot, fun h => absurd h hnot,
      iff_of_true rfl (Or.inl hconstructs)⟩
  | true =>
    rw [hany]
    simp only [Bool.not_true, Bool.false_eq_true, if_false]
    rcases asio.setUp_spec [] (kickstartSetUp 0) with
      ⟨hall, hrun⟩ | ⟨before, c, after, hcs, hbefore, hfails, hrun⟩
    · rw [hrun]
      simp only [Bool.not_true, Bool.false_eq_true, if_false, List.nil_append]
      rw [Asio.forEachGroup_eq hreads _ _ hvalid]
      simp only [Bool.not_true, Bool.false_eq_true, if_false]
      rw [Asio.forEachGroup_eq hreads _ _ hvalid]
      simp only [Bool.not_true, Bool.false_eq_true, if_false]
      refine ⟨fun h => absurd (hconstructs.symm.trans h) nofun, fun _ _ => rfl,
        fun _ h => absurd hall h, ?_⟩
      simp [hconstructs, hall, kickstartCalls]
    · have hnot : ¬asio.AllSucceed [] (kickstartSetUp 0) := by
        intro hall
        rw [hall before c after hcs] at hfails
        cases hfails
      rw [hrun]
      simp only [Bool.not_false, if_true, List.nil_append]
      refine ⟨fun h => absurd (hconstructs.symm.trans h) nofun, fun _ h => absurd h hnot,
        fun _ _ => ⟨before, c, after, hcs, hbefore, hfails, rfl⟩, ?_⟩
      simp [hconstructs, hnot]

/-- **When a kickstart of a socket throws**, by what asio answers: it cannot construct the
kickstart socket, or it sets it up and cannot close it. -/
theorem World.kickstartThrows_iff {np : Npcap} {w : World R}
    (hreads : (np.asio w.driver.kickstarts.length).ReadsAddresses)
    (hvalid : ∀ g ∈ w.socket.multicastGroups, g.valid = true) :
    let asio := np.asio w.driver.kickstarts.length
    w.kickstartThrows np = true ↔ asio.constructs = false ∨
      asio.AllSucceed [] (kickstartSetUp 0) ∧
        asio.succeeds (kickstartCalls w.socket.multicastGroups) .close = false :=
  (kickstart_right hreads hvalid).threw_iff

/-- With groups that differ, each of them gets one packet. -/
theorem count_sendTo {groups : List HostAddress} (hnodup : groups.Nodup)
    (hvalid : ∀ g ∈ groups, g.valid = true) {g : HostAddress} (hg : g ∈ groups) :
    (kickstartCalls groups ++ [KickstartCall.close]).count
      (KickstartCall.sendTo [] g.ipv4 kickstartPort) = 1 := by
  let send : HostAddress → KickstartCall := fun g => .sendTo [] g.ipv4 kickstartPort
  have hjoined : (groups.map fun g => KickstartCall.joinGroup g.ipv4).count (send g) = 0 := by
    refine List.count_eq_zero.mpr ?_
    intro hmem
    obtain ⟨g', -, heq⟩ := List.mem_map.mp hmem
    cases heq
  have hsent : (groups.map send).count (send g) = 1 := by
    refine List.count_eq_one_of_mem ?_ (List.mem_map_of_mem hg)
    refine hnodup.map_on ?_
    rintro ⟨v, n⟩ hx ⟨v', n'⟩ hy heq
    have hv : v = v' := (hvalid _ hx).trans (hvalid _ hy).symm
    cases heq
    rw [hv]
  have hrest : (kickstartSetUp 0).count (send g) = 0 ∧
      ([.close] : List KickstartCall).count (send g) = 0 := by
    constructor
    · simp [kickstartSetUp, send]
    · simp [send]
  unfold kickstartCalls
  rw [List.count_append, List.count_append, List.count_append]
  show (kickstartSetUp 0).count (send g) + _ + (groups.map send).count (send g) +
    List.count (send g) [.close] = 1
  rw [hrest.1, hjoined, hsent, hrest.2]

/-! ### The kickstarts of a socket -/

theorem Driver.kickstarts_record (d : Driver) (c : Call) :
    (d.record c).kickstarts = c.kickstartGroups.toList ++ d.kickstarts := by
  unfold Driver.kickstarts Driver.record
  cases hc : c.kickstartGroups with
  | none =>
    rw [List.filterMap_cons_none hc]
    rfl
  | some groups =>
    rw [List.filterMap_cons_some hc]
    rfl

namespace World

variable {np : Npcap} {api : IPReassembly R} {w w' : World R}

/-- A call that is no kickstart. -/
theorem kickstarts_record (w : World R) {c : Call} (hc : c.kickstartGroups = none) :
    (w.record c).driver.kickstarts = w.driver.kickstarts := by
  unfold record
  rw [Driver.kickstarts_record, hc]
  rfl

theorem kickstarts_updateCaptureFilter (w : World R) (dev : PcapDev) :
    (w.updateCaptureFilter np dev).driver.kickstarts = w.driver.kickstarts := by
  unfold updateCaptureFilter
  simp only
  split
  · exact kickstarts_record w rfl
  · rw [kickstarts_record _ rfl]
    exact kickstarts_record w rfl

@[simp] theorem kickstarts_updateAll (w : World R) :
    (w.updateAllCaptureFilters np).driver.kickstarts = w.driver.kickstarts := by
  unfold updateAllCaptureFilters
  exact foldl_same _ (fun v => v.driver.kickstarts) kickstarts_updateCaptureFilter _ w

@[simp] theorem kickstarts_kickstart (w : World R) :
    (w.kickstartLoopbackMulticast np).1.driver.kickstarts =
      w.socket.multicastGroups :: w.driver.kickstarts :=
  Driver.kickstarts_record w.driver (.kickstart w.socket.multicastGroups)

theorem kickstarts_openPcapDevice (np : Npcap) (api : IPReassembly R) (w : World R)
    (deviceName : DeviceName) :
    (w.openPcapDeviceNolock np api deviceName).1.driver.kickstarts = w.driver.kickstarts := by
  unfold openPcapDeviceNolock pcapCreate
  simp only
  cases np.create w.driver.created with
  | false => rfl
  | true =>
    have hactivate : ∀ v : World R, (v.pcapActivate np w.driver.created).1.driver.kickstarts =
        v.driver.kickstarts := by
      intro v
      unfold pcapActivate
      simp only
      rw [kickstarts_record _ rfl]
      split
      · exact kickstarts_record v rfl
      · rfl
    simp only [if_true]
    split
    · exact hactivate _
    · rw [kickstarts_record _ rfl]
      exact hactivate _

theorem kickstarts_openLoopbackDevice (w : World R) :
    (w.openLoopbackDevice np api).1.driver.kickstarts = w.driver.kickstarts :=
  kickstarts_openPcapDevice np api (w.getLoopbackDeviceName np).1 _

/-- Opening devices starts nothing. -/
theorem kickstarts_openDevices {alldevs : DeviceList} {localAddress : HostAddress} {ok : Bool}
    (h : w.openDevices np api alldevs localAddress = some (w', ok)) :
    w'.driver.kickstarts = w.driver.kickstarts := by
  have hfind : (w.getDeviceByIp np alldevs localAddress).1.driver.kickstarts =
      w.driver.kickstarts := by
    rw [(getDeviceByIp_spec np w alldevs localAddress).2]
  cases openDevices_case h with
  | loopback => exact kickstarts_openLoopbackDevice w
  | noDevices => rfl
  | all devices =>
    exact foldl_same _ (fun v => v.driver.kickstarts)
      (fun v dev => kickstarts_openPcapDevice np api v dev.1) devices w
  | notFound => exact hfind
  | adapterFails dev _ _ _ _ _ hopen =>
    have hadapter := kickstarts_openPcapDevice np api
      (w.getDeviceByIp np alldevs localAddress).1 dev.1
    rw [hopen] at hadapter
    exact hadapter.trans hfind
  | adapterOpens dev v _ _ _ _ hopen =>
    have hadapter := kickstarts_openPcapDevice np api
      (w.getDeviceByIp np alldevs localAddress).1 dev.1
    rw [hopen] at hadapter
    exact (kickstarts_openLoopbackDevice v).trans (hadapter.trans hfind)

theorem kickstarts_close (w : World R) : w.close.driver.kickstarts = w.driver.kickstarts :=
  foldl_same (fun v dev => v.record (.close dev.pcapHandle)) (fun v => v.driver.kickstarts)
    (fun v _ => kickstarts_record v rfl) w.socket.pcapDevices
    { w with socket.pcapDevicesClosed := true }

end World

/-- An operation starts the loopback traffic: a group is joined while multicast loopback is
enabled, or it gets enabled. -/
def Op.kickstarts (s : UdpcapSocket R) (out : OpResult) : Op → Bool
  | .joinMulticastGroup _ => decide (out ≠ .returned false) && s.multicastLoopbackEnabled
  | .setMulticastLoopbackEnabled enabled => enabled && !s.multicastLoopbackEnabled
  | _ => false

namespace World

variable {np : Npcap} {api : IPReassembly R} {w w' : World R}

theorem kickstarts_join (np : Npcap) (w : World R) (g : HostAddress) :
    (w.joinMulticastGroup np g).1.driver.kickstarts =
      (if (w.joinMulticastGroup np g).2 ≠ .returned false ∧ w.socket.multicastLoopbackEnabled then
        [(w.joinMulticastGroup np g).1.socket.multicastGroups] else []) ++
          w.driver.kickstarts := by
  have hjoined : (w.joined np g).driver.kickstarts = w.driver.kickstarts := kickstarts_updateAll _
  by_cases hgranted : w.JoinGranted g
  · have hresult : (w.joinMulticastGroup np g).2 ≠ .returned false := fun hfalse =>
      (w.joinMulticastGroup_eq_false np g).mp hfalse hgranted
    by_cases henabled : w.socket.multicastLoopbackEnabled = true
    · rw [if_pos ⟨hresult, henabled⟩, joinMulticastGroup_of_granted np hgranted, if_pos henabled,
        kickstarts_kickstart, hjoined]
      rfl
    · rw [if_neg fun hboth => henabled hboth.2, joinMulticastGroup_of_granted np hgranted,
        if_neg henabled]
      exact hjoined
  · rw [joinMulticastGroup_of_refused np hgranted]
    simp

theorem kickstarts_setMulticastLoopbackEnabled (np : Npcap) (w : World R) (enabled : Bool) :
    (w.setMulticastLoopbackEnabled np enabled).1.driver.kickstarts =
      (if enabled && !w.socket.multicastLoopbackEnabled then
        [(w.setMulticastLoopbackEnabled np enabled).1.socket.multicastGroups] else []) ++
          w.driver.kickstarts := by
  unfold setMulticastLoopbackEnabled
  split
  next hsame =>
    rw [hsame]
    simp
  next hdiffers =>
    cases enabled with
    | false => simp
    | true =>
      have hdisabled : w.socket.multicastLoopbackEnabled = false := by simpa using hdiffers
      rw [if_pos rfl, hdisabled]
      -- the groups are the same, whether the kickstart throws or not
      simp only
      split
      · simp
      · simp

/-- **Which operations start the loopback traffic**, and for which groups. -/
theorem kickstarts_apply {op : Op} {out : OpResult}
    (h : w.apply np api op = some (w', out)) : w'.driver.kickstarts =
      (if op.kickstarts w.socket out then [w'.socket.multicastGroups] else []) ++
        w.driver.kickstarts := by
  cases op with
  | bind alldevs a p =>
    obtain ⟨⟨v, ok⟩, hbind, hv⟩ := Option.map_eq_some_iff.mp h
    cases hv
    rcases bind_openDevices hbind with ⟨-, rfl⟩ | ⟨-, -, -, u, hopen, rfl⟩
    · rfl
    · have hu := kickstarts_openDevices hopen
      cases ok with
      | false => exact hu
      | true =>
        have hfinish : (u.finishBind np a p).driver.kickstarts = u.driver.kickstarts := by
          unfold finishBind
          rw [kickstarts_updateAll]
        exact hfinish.trans hu
  | setReceiveBufferSize n =>
    cases h
    rcases w.setReceiveBufferSize_cases n with ⟨-, heq⟩ | ⟨-, -, heq⟩
    · rw [heq]
      rfl
    · rw [heq]
      rfl
  | joinMulticastGroup g =>
    have hjoin := kickstarts_join np w g
    rw [Option.some.inj h] at hjoin
    simpa [Op.kickstarts] using hjoin
  | leaveMulticastGroup g =>
    cases h
    rcases w.leaveMulticastGroup_cases np g with ⟨-, heq⟩ | ⟨-, -, v, rfl, heq⟩
    · rw [heq]
      rfl
    · rw [heq, kickstarts_updateAll]
      rfl
  | setMulticastLoopbackEnabled enabled =>
    have hset := kickstarts_setMulticastLoopbackEnabled np w enabled
    rw [Option.some.inj h] at hset
    exact hset
  | close =>
    cases h
    exact kickstarts_close w

/-- The groups of a socket stay in order. -/
theorem ordered_apply {op : Op} {out : OpResult}
    (hordered : StdSet.Ordered HostAddress.lt w.socket.multicastGroups)
    (h : w.apply np api op = some (w', out)) :
    StdSet.Ordered HostAddress.lt w'.socket.multicastGroups := by
  cases apply_case h with
  | bindFails alldevs a p _ opened hopen =>
    rw [hopen.socket_eq]
    exact hordered
  | binds alldevs a p v opened hopen =>
    rw [finishBind_socket, hopen.socket_eq]
    exact hordered
  | joins g v _ _ hv =>
    rw [updateAllCaptureFilters_socket, hv]
    exact hordered.emplace g fun _ _ _ => HostAddress.lt_trans
  | joinsKickstart g v _ _ hv | joinThrows g v _ _ hv =>
    rw [kickstartLoopbackMulticast_socket, updateAllCaptureFilters_socket, hv]
    exact hordered.emplace g fun _ _ _ => HostAddress.lt_trans
  | leaves g v _ hv =>
    rw [updateAllCaptureFilters_socket, hv]
    exact hordered.erase g
  | setsLoopback enabled v hv =>
    rw [updateAllCaptureFilters_socket, hv]
    exact hordered
  | setLoopbackThrows v hv =>
    rw [kickstartLoopbackMulticast_socket, hv]
    exact hordered
  | closes =>
    rw [close_socket]
    exact hordered
  | resizes | resizeRefused | joinRefused | leaveRefused | keepsLoopback => exact hordered

end World

/-! ### Sessions -/

/-- All kickstarts after those of `before` do what they should, each for groups that
differ. -/
def KickstartsRight (asio : Asio) (before : List (List HostAddress)) (d : Driver) : Prop :=
  ∃ since, d.kickstarts = since ++ before ∧ ∀ groups ∈ since,
    (∀ g ∈ groups, g.isMulticast = true) ∧
      KickstartRight asio groups (kickstartLoopbackMulticast asio groups) ∧
      ∀ g ∈ groups, (kickstartCalls groups ++ [KickstartCall.close]).count
        (KickstartCall.sendTo [] g.ipv4 kickstartPort) = 1

/-- The invariant: the groups of the socket and of all kickstarts are in order. -/
structure World.KickstartGroups (before : List (List HostAddress)) (w : World R) : Prop where
  ordered : StdSet.Ordered HostAddress.lt w.socket.multicastGroups
  addresses : w.socket.Addresses
  since : ∃ since, w.driver.kickstarts = since ++ before ∧ ∀ groups ∈ since,
    StdSet.Ordered HostAddress.lt groups ∧ ∀ g ∈ groups, g.isMulticast = true

namespace World.KickstartGroups

variable {np : Npcap} {api : IPReassembly R} {w w' : World R} {before : List (List HostAddress)}

theorem create (initialized : Bool) (driver : Driver) (helpers : NpcapHelpers) :
    (World.create initialized driver helpers : World R).KickstartGroups driver.kickstarts where
  ordered := List.Pairwise.nil
  addresses := UdpcapSocket.Addresses.create initialized
  since := ⟨[], rfl, fun _ h => absurd h List.not_mem_nil⟩

theorem apply (h : w.KickstartGroups before) {op : Op} {out : OpResult}
    (hop : w.apply np api op = some (w', out)) : w'.KickstartGroups before where
  ordered := World.ordered_apply h.ordered hop
  addresses := h.addresses.apply hop
  since := by
    obtain ⟨since, hsince, hgroups⟩ := h.since
    have hkickstarts := World.kickstarts_apply hop
    rw [hsince] at hkickstarts
    split at hkickstarts
    · refine ⟨w'.socket.multicastGroups :: since, hkickstarts, ?_⟩
      refine List.forall_mem_cons.mpr ⟨⟨World.ordered_apply h.ordered hop, ?_⟩, hgroups⟩
      exact (h.addresses.apply hop).multicast
    · exact ⟨since, hkickstarts, hgroups⟩

/-- **Kickstarts do what they should.** -/
theorem right (h : w.KickstartGroups before) {asio : Asio} (hreads : asio.ReadsAddresses) :
    KickstartsRight asio before w.driver := by
  obtain ⟨since, hsince, hgroups⟩ := h.since
  refine ⟨since, hsince, ?_⟩
  intro groups hmem
  obtain ⟨hordered, hmulticast⟩ := hgroups groups hmem
  have hvalid : ∀ g ∈ groups, g.valid = true := fun g hg =>
    HostAddress.valid_of_isMulticast (hmulticast g hg)
  refine ⟨hmulticast, kickstart_right hreads hvalid, ?_⟩
  intro g hg
  exact count_sendTo (hordered.nodup HostAddress.lt_irrefl) hvalid hg

/-- Every step of a session keeps the invariant. -/
theorem step {handler : Handler R} {s t : Session R} {l : SessionLabel}
    (h : s.world.KickstartGroups before) (hstep : sessionStep np api handler s l = some t) :
    t.world.KickstartGroups before := by
  rcases sessionStep_world hstep with ⟨op, out, -, -, hop⟩ | hreassembles
  · exact h.apply hop
  · obtain ⟨reassemblers, hsocket⟩ := hreassembles.socket
    refine ⟨?_, h.addresses.reassembles hreassembles, ?_⟩
    · rw [hsocket]
      exact h.ordered
    · rw [hreassembles.driver]
      exact h.since

end World.KickstartGroups

/-- **Every kickstart of a session does what it should**: it never throws for the sake of
an address, it gets to every group once unless the set-up of its socket fails, and only a
socket that cannot be constructed or closed makes it throw. -/
theorem session_kickstarts {asio : Asio} (hreads : asio.ReadsAddresses) (np : Npcap)
    (api : IPReassembly R) (handler : Handler R) (initialized : Bool) (driver : Driver)
    (helpers : NpcapHelpers) (labels : List SessionLabel) :
    Foundation.HoldsAlong (sessionStep np api handler)
      (fun s => KickstartsRight asio driver.kickstarts s.world.driver)
      (Session.start (World.create initialized driver helpers)) labels := by
  refine Foundation.holdsAlong_of_invariant
    (I := fun s => s.world.KickstartGroups driver.kickstarts) ?_ ?_ ?_
  · exact fun s hs => hs.right hreads
  · exact fun s l t hs hstep => hs.step hstep
  · exact World.KickstartGroups.create initialized driver helpers

/-- A socket is bound to the loopback device, joins a group, and switches multicast
loopback off and on. -/
theorem session_kickstarts_twice :
    let np := Npcap.ofLinkTypes fun _ => linktypeNull
    let step := sessionStep np SmallPcpp.api (packetHandlerRawPtr SmallPcpp.pcpp SmallPcpp.api)
    let labels : List SessionLabel := [.op (.bind none .localHost 5000),
      .op (.joinMulticastGroup (.ofInt 0x010000EF)), .op (.setMulticastLoopbackEnabled false),
      .op (.setMulticastLoopbackEnabled true)]
    Foundation.HoldsAlong step (fun s => KickstartsRight .withoutClose [] s.world.driver)
        smallStart labels ∧
      (Foundation.run step smallStart labels).map (fun s =>
        s.world.driver.kickstarts.map fun groups =>
          (kickstartLoopbackMulticast .withoutClose groups).calls.length) = some [8, 8] ∧
      (kickstartLoopbackMulticast .withoutClose [.ofInt 0x010000EF]).threw = true := by
  intro np step labels
  refine ⟨?_, by decide +kernel, by decide +kernel⟩
  refine session_kickstarts ?_ _ _ _ true ⟨0, []⟩ .initial _
  exact fun n => inetPton_eq_some_iff.mpr rfl

/-! ### The packets of a kickstart -/

/-- An empty packet of a kickstart for a group, as the driver sees it: it comes from the
port of the kickstart, and goes to the same port. -/
def IsKickstartPacket (v : PacketView) (group : HostAddress) : Prop :=
  ∃ ip, v.net = .ip ip ∧ ip.protocol = 17 ∧ ip.isFragment = false ∧
    ip.ports = some (kickstartPort.toNat, kickstartPort.toNat) ∧
    ip.destination = octets group.ipv4

/-- **Which sockets a packet of a kickstart is for**: those that are bound to its port and
have joined the group. -/
theorem admits_kickstart_iff {np : Npcap} {s : UdpcapSocket R} {pcapDev : PcapDev}
    {v : PacketView} {group : HostAddress} (hgroup : group.isMulticast = true)
    (hgroups : ∀ g ∈ s.multicastGroups, g.valid = true) (hv : IsKickstartPacket v group) :
    s.Admits np pcapDev v ↔ ¬pcapDev.HasSent np v ∧ s.boundPort = kickstartPort ∧
      group ∈ s.multicastGroups ∧
      (pcapDev.isLoopback = false ∨ s.multicastLoopbackEnabled = true) := by
  obtain ⟨ip, hnet, hprotocol, hfragment, hports, hdestination⟩ := hv
  have hmulticast : ip.isMulticast = true := by
    rw [isMulticast_of_destination hdestination, decide_eq_true_eq]
    exact le_of_isMulticast hgroup
  have hport : MayHavePort s.boundPort ip ↔ s.boundPort = kickstartPort := by
    have hwhole : ¬(ip.moreFragments = true ∨ ip.fragmentOffset ≠ 0) := by
      rw [← ip.isFragment_iff, hfragment]
      exact Bool.false_ne_true
    unfold MayHavePort
    rw [hports]
    constructor
    · rintro ⟨-, hfrag | ⟨src, dst, heq, hsame⟩⟩
      · exact absurd hfrag hwhole
      · cases heq
        rw [or_self] at hsame
        exact (UInt16.toNat_inj.mp hsame).symm
    · intro heq
      exact ⟨hprotocol, Or.inr ⟨_, _, rfl, Or.inl (by rw [heq])⟩⟩
  have hwants : s.Wants pcapDev ip ↔ group ∈ s.multicastGroups ∧
      (pcapDev.isLoopback = false ∨ s.multicastLoopbackEnabled = true) := by
    have hmem : (∃ g ∈ s.multicastGroups, ip.destination = octets g.ipv4) ↔
        group ∈ s.multicastGroups := by
      rw [hdestination]
      constructor
      · rintro ⟨⟨v, n⟩, hg, heq⟩
        have hn := octets_injective heq
        have hv := hgroups _ hg
        have hv' := HostAddress.valid_of_isMulticast hgroup
        obtain ⟨v', n'⟩ := group
        simp only at hn hv hv'
        subst hn hv hv'
        exact hg
      · intro hg
        exact ⟨group, hg, rfl⟩
    unfold UdpcapSocket.Wants
    rw [hmem, hmulticast]
    simp
  unfold UdpcapSocket.Admits
  refine and_congr_right ?_
  intro _
  constructor
  · rintro ⟨ip', hip', hp, hw⟩
    rw [hnet] at hip'
    cases hip'
    exact ⟨hport.mp hp, hwants.mp hw⟩
  · rintro ⟨hp, hw⟩
    exact ⟨ip, hnet, hport.mpr hp, hwants.mpr hw⟩

/-! ### Networks -/

/-- A device of a bound socket stores the packets of a kickstart that the driver keeps only
if the socket is bound to the port of the kickstart and has joined the group. -/
def Network.KickstartsHeard (np : Npcap) (view : KernelView) (n : Network R) : Prop :=
  ∀ x ∈ n.captures, x.socket.boundState = true → ∀ group : HostAddress,
    group.isMulticast = true →
    IsKickstartPacket (view (np.datalink x.pcapDev.pcapHandle) x.pktData) group →
    (x.stored = true ↔ x.kept = true ∧
      ¬x.pcapDev.HasSent np (view (np.datalink x.pcapDev.pcapHandle) x.pktData) ∧
      x.socket.boundPort = kickstartPort ∧ group ∈ x.socket.multicastGroups ∧
      (x.pcapDev.isLoopback = false ∨ x.socket.multicastLoopbackEnabled = true))

namespace Network

variable {np : Npcap} {recognize : Recognizer R} {view : KernelView} {n : Network R}

theorem Tracked.kickstartsHeard (hn : n.Tracked np view recognize) :
    n.KickstartsHeard np view := by
  intro x hx hbound group hgroup hv
  have hvalid : ∀ g ∈ x.socket.multicastGroups, g.valid = true := fun g hg =>
    HostAddress.valid_of_isMulticast ((hn.addressed x hx).multicast g hg)
  rw [hn.stored x hx hbound, admits_kickstart_iff hgroup hvalid hv]

end Network

/-- **Who hears a kickstart**: in every state of a network, the packets of a kickstart that
come by between the operations of a socket are stored for it if it is bound to their port and
has joined the group, and otherwise they are not. -/
theorem network_kickstarts {np : Npcap} (hok : World.FiltersSucceed np) (api : IPReassembly R)
    (recognize : Recognizer R) (view : KernelView) (initialized : Bool) (driver : Driver)
    (helpers : NpcapHelpers) (labels : List NetworkLabel)
    (hkeeps : Foundation.StepsMeet (networkStep np api (handlerOf recognize) view)
      (Network.KeepsFilters np) (Network.start (World.create initialized driver helpers)) labels) :
    Foundation.HoldsAlong (networkStep np api (handlerOf recognize) view)
      (Network.KickstartsHeard np view)
      (Network.start (World.create initialized driver helpers)) labels := by
  refine Foundation.holdsAlong_of_stepsMeet (I := Network.Tracked np view recognize)
    (fun _ hn => hn.kickstartsHeard) (fun _ _ _ hn hl hm => hn.step hok hl hm) ?_ hkeeps
  exact Network.Tracked.start np view recognize initialized driver helpers

/-- The packet of a kickstart for 239.0.0.1, in a loopback frame. -/
def kickstartFrame : Bytes :=
  loopbackFrame ([0x45, 0, 0, 28, 0, 7, 0, 0, 0, 17, 0, 0, 10, 0, 0, 1, 239, 0, 0, 1] ++
    [0xF2, 0x30, 0xF2, 0x30, 0, 8, 0, 0])

/-- Two bindings of a socket to the loopback device, with the same group: to port 5000,
where it does not hear a kickstart, and to port 62000, where it does. -/
theorem network_kickstarts_loopback :
    let np := Npcap.ofLinkTypes fun _ => linktypeNull
    let step := networkStep np SmallPcpp.api
      (handlerOf (recognizePacket SmallPcpp.pcpp SmallPcpp.api)) SmallPcpp.kernelView
    let start := Network.start (World.create true ⟨0, []⟩ .initial)
    let heard : UInt16 → List NetworkLabel := fun port =>
      [.session (.op (.bind none .localHost port)),
        .session (.op (.joinMulticastGroup (.ofInt 0x010000EF))), .frame 0 kickstartFrame true,
        .session (.op (.leaveMulticastGroup (.ofInt 0x010000EF))), .session (.op .close)]
    Foundation.HoldsAlong step (Network.KickstartsHeard np SmallPcpp.kernelView) start
        (heard 5000 ++ heard 62000) ∧
      (Foundation.run step start (heard 5000 ++ heard 62000)).map (fun n =>
        n.captures.map Capture.stored) = some [false, true] ∧
      IsKickstartPacket (SmallPcpp.kernelView linktypeNull kickstartFrame) (.ofInt 0x010000EF) := by
  intro np step start heard
  refine ⟨network_kickstarts (filtersSucceed_ofLinkTypes _) _ _ _ _ _ _ _ ?_, by decide +kernel,
    ?_⟩
  · decide +kernel
  · exact ⟨_, rfl, by decide, by decide, by decide, by decide⟩

end Udpcap
