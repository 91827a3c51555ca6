import Udpcap.Foundation.Resources
import Udpcap.Session
import Udpcap.SmallPcpp
import Udpcap.SocketSpec

/-!
# The life of a handle

Every handle that `pcap_create` returns is closed at most once and not used after it
is closed, and the open handles are those in the lists of the socket, whatever
fails on the way.

## Main definitions

* `Driver.handleLog` — what has been done to handles so far.
* `Driver.Holds` — exactly the given handles are open.
* `UdpcapSocket.Consistent` — the three lists and the flags fit together.
* `Session.HandlesBalanced` — the property of a session.

## Main results

* `Driver.Holds.create`, `Driver.Holds.use`, `Driver.Holds.close` — the balance of
  one call.
* `World.preserved_balanced` — **every action of an operation keeps the balance.**
* `handles_balanced` — the property in every state of a session.
-/

namespace Udpcap

open Foundation

variable {R : Type} {np : Npcap} {api : IPReassembly R}

/-! ### The log of handles -/

/-- What a call does to a handle.  Some calls leave no event, because they stand next to one
that does, with the same handle and no `pcap_close` in between: `pcap_set_snaplen`,
`pcap_set_promisc`, `pcap_set_immediate_mode` and `pcap_setnonblock` before `pcap_activate`,
`pcap_getevent` after it, `pcap_perror` after it or after `pcap_setfilter`, and `pcap_datalink`
and `pcap_oid_get_request` before `pcap_compile`. -/
def Call.handleEvents : Call → List (ResourceEvent Handle)
  | .create _ (some h) => [.acquire h]
  | .create _ none => []
  | .setBufferSize h _ => [.use h]
  | .activate h _ => [.use h]
  | .compile h _ _ => [.use h]
  | .setFilter h _ _ => [.use h]
  | .close h => [.release h]
  | .kickstart _ => []

namespace Driver

/-- What has been done to handles so far, the latest event first. -/
def handleLog (d : Driver) : List (ResourceEvent Handle) := d.calls.flatMap Call.handleEvents

/-- `pcap_create` has returned the handle, and `pcap_close` has not been called on it. -/
def IsOpen (d : Driver) (h : Handle) : Prop :=
  ResourceEvent.acquire h ∈ d.handleLog ∧ ResourceEvent.release h ∉ d.handleLog

/-- The handles have been used as they should be, and those in `handles` are open. -/
structure Holds (d : Driver) (handles : List Handle) : Prop where
  disciplined : Disciplined d.handleLog
  acquired_lt : ∀ h, ResourceEvent.acquire h ∈ d.handleLog → h < d.created
  live : (live d.handleLog).Perm handles

theorem record_handleLog (d : Driver) (c : Call) :
    (d.record c).handleLog = c.handleEvents ++ d.handleLog := rfl

namespace Holds

variable {d : Driver} {handles : List Handle} {h : Handle}

theorem isOpen_iff (hd : d.Holds handles) : d.IsOpen h ↔ h ∈ handles := by
  rw [← hd.live.mem_iff, hd.disciplined.mem_live]
  rfl

theorem nodup (hd : d.Holds handles) : handles.Nodup :=
  hd.live.nodup_iff.mp hd.disciplined.nodup_live

/-- A new handle. -/
theorem create (hd : d.Holds handles) (deviceName : DeviceName) :
    Holds ⟨d.created + 1, .create deviceName (some d.created) :: d.calls⟩
      (d.created :: handles) where
  disciplined := by
    refine ⟨?_, hd.disciplined⟩
    intro hacquired
    exact absurd (hd.acquired_lt _ hacquired) (lt_irrefl _)
  acquired_lt := by
    intro h hacquired
    rcases List.mem_cons.mp hacquired with heq | hacquired
    · cases heq
      exact Nat.lt_succ_self _
    · exact Nat.lt_succ_of_lt (hd.acquired_lt h hacquired)
  live := hd.live.cons _

/-- `pcap_create` returns no handle. -/
theorem create_none (hd : d.Holds handles) (deviceName : DeviceName) :
    Holds ⟨d.created + 1, .create deviceName none :: d.calls⟩ handles where
  disciplined := hd.disciplined
  acquired_lt := fun h hacquired => Nat.lt_succ_of_lt (hd.acquired_lt h hacquired)
  live := hd.live

/-- An open handle is used. -/
theorem use (hd : d.Holds handles) (hmem : h ∈ handles) {c : Call}
    (hc : c.handleEvents = [.use h]) : (d.record c).Holds handles := by
  have hlog : (d.record c).handleLog = .use h :: d.handleLog := by
    rw [record_handleLog, hc]
    rfl
  refine ⟨?_, ?_, ?_⟩
  · rw [hlog]
    exact ⟨hd.live.mem_iff.mpr hmem, hd.disciplined⟩
  · intro h' hacquired
    rw [hlog] at hacquired
    rcases List.mem_cons.mp hacquired with heq | hacquired
    · cases heq
    · exact hd.acquired_lt h' hacquired
  · rw [hlog]
    exact hd.live

/-- An open handle is closed. -/
theorem close (hd : d.Holds (h :: handles)) : (d.record (.close h)).Holds handles where
  disciplined := ⟨hd.live.mem_iff.mpr List.mem_cons_self, hd.disciplined⟩
  acquired_lt := by
    intro h' hacquired
    rcases List.mem_cons.mp hacquired with heq | hacquired
    · cases heq
    · exact hd.acquired_lt h' hacquired
  live := List.erase_cons_head h handles ▸ hd.live.erase h

/-- A call that does nothing to a handle. -/
theorem record (hd : d.Holds handles) {c : Call} (hc : c.handleEvents = []) :
    (d.record c).Holds handles := by
  have hlog : (d.record c).handleLog = d.handleLog := by
    rw [record_handleLog, hc]
    rfl
  exact ⟨hlog ▸ hd.disciplined, hlog ▸ hd.acquired_lt, hlog ▸ hd.live⟩

theorem perm (hd : d.Holds handles) {handles' : List Handle} (hperm : handles.Perm handles') :
    d.Holds handles' :=
  ⟨hd.disciplined, hd.acquired_lt, hd.live.trans hperm⟩

end Holds

end Driver

/-! ### Operations -/

namespace World

variable {w w' : World R}

/-- The open handles are those of the open devices. -/
def Balanced (w : World R) : Prop := w.driver.Holds (w.socket.pcapDevices.map PcapDev.pcapHandle)

/-- `pcap_activate` uses the handle. -/
theorem pcapActivate_holds (np : Npcap) {h : Handle} {handles : List Handle}
    (hw : w.driver.Holds handles) (hmem : h ∈ handles) :
    (w.pcapActivate np h).1.driver.Holds handles := by
  unfold pcapActivate
  simp only
  split
  · exact Driver.Holds.use (hw.use hmem rfl) hmem rfl
  · exact hw.use hmem rfl

/-- Whatever fails on the way, a device that is opened is entered into the socket, and
one that is not is closed. -/
theorem balanced_openPcapDeviceNolock (hw : w.Balanced) (deviceName : DeviceName) :
    (w.openPcapDeviceNolock np api deviceName).1.Balanced := by
  unfold openPcapDeviceNolock pcapCreate
  simp only
  cases hcreate : np.create w.driver.created with
  | false =>
    rw [if_neg Bool.false_ne_true]
    exact hw.create_none deviceName
  | true =>
    rw [if_pos rfl]
    -- the new handle is open, but not yet in the list
    let v : World R := { w with
      driver := ⟨w.driver.created + 1,
        .create deviceName (some w.driver.created) :: w.driver.calls⟩ }
    have hv : v.driver.Holds (w.driver.created :: w.socket.pcapDevices.map PcapDev.pcapHandle) :=
      hw.create deviceName
    have hactive := pcapActivate_holds np hv List.mem_cons_self
    have hsocket : (v.pcapActivate np w.driver.created).1.socket = w.socket :=
      (pcapActivate_spec np v w.driver.created).1
    show Balanced (if _ then _ else _ : World R × Bool).1
    split
    · unfold Balanced addDevice
      simp only
      rw [hsocket, List.map_append]
      exact hactive.perm (List.perm_append_singleton _ _).symm
    · unfold Balanced
      show Driver.Holds _ ((v.pcapActivate np w.driver.created).1.socket.pcapDevices.map _)
      rw [hsocket]
      exact hactive.close

theorem balanced_updateCaptureFilter (hw : w.Balanced) (dev : PcapDev)
    (hdev : dev ∈ w.socket.pcapDevices) : (w.updateCaptureFilter np dev).Balanced := by
  have hmem : dev.pcapHandle ∈ w.socket.pcapDevices.map PcapDev.pcapHandle :=
    List.mem_map_of_mem hdev
  unfold updateCaptureFilter
  simp only
  split
  · exact hw.use hmem rfl
  · exact Driver.Holds.use (hw.use hmem rfl) hmem rfl

/-- Closing devices one after another. -/
theorem holds_foldl_close (devs : List PcapDev)
    (hw : w.driver.Holds (devs.map PcapDev.pcapHandle)) :
    (devs.foldl (fun w dev => w.record (.close dev.pcapHandle)) w).driver.Holds [] := by
  induction devs generalizing w with
  | nil => exact hw
  | cons dev devs ih =>
    apply ih
    exact hw.close

/-- `close` closes every open handle. -/
theorem holds_close (hw : w.Balanced) : w.close.driver.Holds [] := by
  unfold close
  exact holds_foldl_close (w := { w with socket.pcapDevicesClosed := true }) _ hw

/-- **Every action of an operation keeps the balance.** -/
theorem preserved_balanced (np : Npcap) (api : IPReassembly R) : Preserved np api Balanced where
  isLoopbackDevice := fun _ _ hw => hw
  getLoopbackDeviceName := fun _ hw => hw
  opens := fun _ deviceName hw => balanced_openPcapDeviceNolock hw deviceName
  filters := fun _ dev hdev hw => balanced_updateCaptureFilter hw dev hdev
  kickstart := fun _ hw => hw.record rfl
  socket := by
    intro w s hdevices hw
    unfold Balanced at hw ⊢
    rw [hdevices]
    exact hw
  closes := by
    intro w hw
    unfold Balanced
    rw [close_socket]
    exact holds_close hw

end World

/-! ### The three lists -/

namespace UdpcapSocket

/-- The devices, their events and their reassemblers are entered in the same order, and
the flags fit the lists. -/
structure Consistent (s : UdpcapSocket R) : Prop where
  handles_eq : s.pcapWin32Handles = s.pcapDevices.map PcapDev.pcapHandle
  reassemblers_length : s.pcapDevicesIpReassembly.length = s.pcapDevices.length
  not_closed : s.isBound = true → s.isClosed = false
  localAddress : s.isBound = false → s.localAddress.isValid = false
  localPort : s.isBound = false → s.localPort = 0

theorem consistent_create (initialized : Bool) : (create initialized : UdpcapSocket R).Consistent :=
  ⟨rfl, rfl, nofun, fun _ => rfl, fun _ => rfl⟩

/-- Entries that change together stay aligned. -/
theorem Consistent.lists {s t : UdpcapSocket R} (hs : s.Consistent) (h : s.Lockstep api t) :
    t.pcapWin32Handles = t.pcapDevices.map PcapDev.pcapHandle ∧
      t.pcapDevicesIpReassembly.length = t.pcapDevices.length := by
  refine ⟨h.handles_eq hs.handles_eq, ?_⟩
  cases h with
  | opened opened reassemblers hdevices hhandles hreassemblers hlength =>
    rw [hreassemblers, hdevices, List.length_append, List.length_append, List.length_map, hlength,
      hs.reassemblers_length]
  | cleared hdevices hhandles hreassemblers =>
    rw [hdevices, hreassemblers]
    rfl

end UdpcapSocket

namespace World

variable {w w' : World R}

/-- **An operation keeps flags and lists consistent.** -/
theorem consistent_apply (hw : w.socket.Consistent) {op : Op} {out : OpResult}
    (hop : w.apply np api op = some (w', out)) : w'.socket.Consistent := by
  obtain ⟨hhandles, hreassemblers⟩ := hw.lists (lockstep_apply hop)
  cases apply_case hop with
  | bindFails alldevs a p v opened hopen =>
    rw [hopen.socket_eq] at hhandles hreassemblers ⊢
    exact ⟨hhandles, hreassemblers, hw.not_closed, hw.localAddress, hw.localPort⟩
  | binds alldevs a p v opened hopen =>
    rw [finishBind_socket] at hhandles hreassemblers ⊢
    exact ⟨hhandles, hreassemblers, fun _ => rfl, nofun, nofun⟩
  | joins g v _ _ hv | joinsKickstart g v _ _ hv | joinThrows g v _ _ hv | leaves g v _ hv
  | setLoopbackThrows v hv =>
    subst hv
    simp only [kickstartLoopbackMulticast_socket, updateAllCaptureFilters_socket] at *
    exact ⟨hhandles, hreassemblers, hw.not_closed, hw.localAddress, hw.localPort⟩
  | setsLoopback enabled v hv =>
    rw [updateAllCaptureFilters_socket, hv] at hhandles hreassemblers ⊢
    exact ⟨hhandles, hreassemblers, hw.not_closed, hw.localAddress, hw.localPort⟩
  | closes =>
    rw [close_socket] at hhandles hreassemblers ⊢
    exact ⟨hhandles, hreassemblers, nofun, fun _ => rfl, fun _ => rfl⟩
  | resizes | resizeRefused | joinRefused | leaveRefused | keepsLoopback =>
    exact ⟨hhandles, hreassemblers, hw.not_closed, hw.localAddress, hw.localPort⟩

end World

/-! ### Receiving -/

section Receive

variable {pcpp : Pcpp}

/-- The handler keeps every reassembler in its place. -/
theorem packetHandlerRawPtr_length {reassemblers reassemblers' : List (IpReassembly R)}
    {callbackArgs callbackArgs' : CallbackArgsRawPtr} {pktData : Bytes} {env : ProcessEnv}
    (h : packetHandlerRawPtr pcpp api reassemblers callbackArgs pktData env =
      some (reassemblers', callbackArgs')) : reassemblers'.length = reassemblers.length := by
  rw [packetHandlerRawPtr_eq] at h
  obtain ⟨⟨rs, d⟩, hrec, heq⟩ := Option.map_eq_some_iff.mp h
  cases heq
  unfold recognizePacket at hrec
  simp only at hrec
  split at hrec
  · cases hrec
    rfl
  · split at hrec
    · obtain ⟨k, -, hrec⟩ := Option.bind_eq_some_iff.mp hrec
      obtain ⟨r, -, hrec⟩ := Option.bind_eq_some_iff.mp hrec
      split at hrec
      · cases hrec
      · cases hrec
        exact List.length_set
    · cases hrec
      rfl

/-- A step of `receiveDatagram` leaves the socket alone, apart from the contents of its
reassemblers. -/
theorem receiveStep_reassemblers {s s' : UdpcapSocket R} {rx rx' : Receiver} {reply : Reply}
    (h : receiveStep (packetHandlerRawPtr pcpp api) s rx reply = some (s', rx')) :
    ∃ reassemblers, reassemblers.length = s.pcapDevicesIpReassembly.length ∧
      s' = { s with pcapDevicesIpReassembly := reassemblers } := by
  rcases receiveStep_cases h with
    ⟨k, pcapDev, pktData, env, -, -, ⟨-, heq, -⟩ | ⟨reassemblers, callbackArgs, hrun, heq, -⟩⟩ |
    ⟨-, heq, -⟩
  · exact ⟨_, rfl, heq⟩
  · exact ⟨reassemblers, packetHandlerRawPtr_length hrun, heq⟩
  · exact ⟨_, rfl, heq⟩

end Receive

/-! ### Sessions -/

/-- The handles and lists of a socket between two steps of a session. -/
structure Session.HandlesBalanced (s : Session R) : Prop where
  /-- The three lists are equally long, and each event belongs to its device. -/
  handles_eq : s.world.socket.pcapWin32Handles =
    s.world.socket.pcapDevices.map PcapDev.pcapHandle
  reassemblers_length : s.world.socket.pcapDevicesIpReassembly.length =
    s.world.socket.pcapDevices.length
  /-- The handles that are created and not yet closed are those of the devices. -/
  isOpen_iff : ∀ h, s.world.driver.IsOpen h ↔
    h ∈ s.world.socket.pcapDevices.map PcapDev.pcapHandle
  nodup : (s.world.socket.pcapDevices.map PcapDev.pcapHandle).Nodup
  /-- No handle is used before it is created. -/
  disciplined : Disciplined s.world.driver.handleLog
  /-- No handle is closed twice, or used after it is closed. -/
  after_close : ∀ later earlier h,
    s.world.driver.handleLog = later ++ .release h :: earlier →
      ResourceEvent.acquire h ∉ later ∧ ResourceEvent.use h ∉ later ∧
        ResourceEvent.release h ∉ later
  /-- A handle is open when `pcap_next_ex` is called with it. -/
  polls_open : ∀ c ∈ s.current, ∀ k pcapDev, c.receiver.pc = .poll k pcapDev →
    s.world.driver.IsOpen pcapDev.pcapHandle
  not_closed : s.world.socket.isBound = true → s.world.socket.isClosed = false
  localAddress : s.world.socket.isBound = false → s.world.socket.localAddress.isValid = false
  localPort : s.world.socket.isBound = false → s.world.socket.localPort = 0
  /-- After `close`, and so after the destruction of the socket, no handle is open. -/
  destroyed : ∀ h, ¬s.world.close.driver.IsOpen h

/-- The invariant behind it. -/
structure Session.HandlesKept (handler : Handler R) (s : Session R) : Prop where
  wellFormed : s.WellFormed handler
  balanced : s.world.Balanced
  consistent : s.world.socket.Consistent

theorem Session.HandlesKept.handlesBalanced {handler : Handler R} {s : Session R}
    (h : s.HandlesKept handler) : s.HandlesBalanced where
  handles_eq := h.consistent.handles_eq
  reassemblers_length := h.consistent.reassemblers_length
  isOpen_iff := fun _ => h.balanced.isOpen_iff
  nodup := h.balanced.nodup
  disciplined := h.balanced.disciplined
  after_close := by
    intro later earlier k hlog
    have hdisciplined := h.balanced.disciplined
    rw [hlog] at hdisciplined
    exact hdisciplined.after_release
  polls_open := by
    intro c hc k pcapDev hpc
    have hdevice := (h.wellFormed.atDevice c hc).at_poll hpc
    have hmem : pcapDev ∈ s.world.socket.pcapDevices := List.mem_of_getElem? hdevice.getElem?
    exact h.balanced.isOpen_iff.mpr (List.mem_map_of_mem hmem)
  not_closed := h.consistent.not_closed
  localAddress := h.consistent.localAddress
  localPort := h.consistent.localPort
  destroyed := by
    intro k hopen
    have hnone := (World.holds_close h.balanced).isOpen_iff.mp hopen
    cases hnone

section Sessions

variable {pcpp : Pcpp} {s t : Session R} {l : SessionLabel}

/-- **A step of a session changes the three lists together.** -/
theorem session_lockstep (h : sessionStep np api (packetHandlerRawPtr pcpp api) s l = some t) :
    s.world.socket.Lockstep api t.world.socket := by
  rcases sessionStep_cases h with ⟨h', pktData, -, rfl⟩ | ⟨op, w, out, -, -, hop, rfl⟩ |
    ⟨args, -, -, rfl⟩ | ⟨reply, c, rx, -, heffect⟩
  · exact .of_eq rfl rfl rfl
  · exact World.lockstep_apply hop
  · exact .of_eq rfl rfl rfl
  · obtain ⟨reassemblers, hlength, hsocket⟩ := receiveStep_reassemblers heffect.step
    rw [hsocket]
    exact .of_eq rfl rfl hlength

/-- Every step of a session keeps the invariant. -/
theorem Session.HandlesKept.step (hs : s.HandlesKept (packetHandlerRawPtr pcpp api))
    (h : sessionStep np api (packetHandlerRawPtr pcpp api) s l = some t) :
    t.HandlesKept (packetHandlerRawPtr pcpp api) := by
  refine ⟨hs.wellFormed.step h, ?_, ?_⟩
  · rcases sessionStep_cases h with ⟨h', pktData, -, rfl⟩ | ⟨op, w, out, -, -, hop, rfl⟩ |
      ⟨args, -, -, rfl⟩ | ⟨reply, c, rx, -, heffect⟩
    · exact hs.balanced
    · exact (World.preserved_balanced np api).apply hs.balanced hop
    · exact hs.balanced
    · obtain ⟨reassemblers, -, hsocket⟩ := receiveStep_reassemblers heffect.step
      unfold World.Balanced
      rw [hsocket, heffect.driver_eq]
      exact hs.balanced
  · rcases sessionStep_cases h with ⟨h', pktData, -, rfl⟩ | ⟨op, w, out, -, -, hop, rfl⟩ |
      ⟨args, -, -, rfl⟩ | ⟨reply, c, rx, -, heffect⟩
    · exact hs.consistent
    · exact World.consistent_apply hs.consistent hop
    · exact hs.consistent
    · obtain ⟨reassemblers, hlength, hsocket⟩ := receiveStep_reassemblers heffect.step
      rw [hsocket]
      exact ⟨hs.consistent.handles_eq, hlength.trans hs.consistent.reassemblers_length,
        hs.consistent.not_closed, hs.consistent.localAddress, hs.consistent.localPort⟩

end Sessions

/-- **In every state of every session** the handles are balanced, and every step changes
the three lists together. -/
theorem handles_balanced (np : Npcap) (pcpp : Pcpp) (api : IPReassembly R) (initialized : Bool)
    (helpers : NpcapHelpers) (labels : List SessionLabel) :
    let step := sessionStep np api (packetHandlerRawPtr pcpp api)
    let start : Session R := Session.start (World.create initialized ⟨0, []⟩ helpers)
    HoldsAlong step Session.HandlesBalanced start labels ∧
      StepsMeet step (fun s l => ∀ t, step s l = some t →
        s.world.socket.Lockstep api t.world.socket) start labels := by
  intro step start
  constructor
  · refine holdsAlong_of_invariant (I := Session.HandlesKept (packetHandlerRawPtr pcpp api))
      (fun s hs => hs.handlesBalanced) (fun s l t hs hst => hs.step hst) ?_
    refine ⟨Session.wellFormed_start _ _, ⟨trivial, ?_, .nil⟩, UdpcapSocket.consistent_create _⟩
    intro h hacquired
    exact absurd hacquired List.not_mem_nil
  · exact stepsMeet_of_forall (fun s l t hst => session_lockstep hst) labels start

-- the adapter is opened, the loopback device is not; the second `bind` opens both, and
-- the handle that was left over is closed with them
example :
    let np : Npcap := { Npcap.ofLinkTypes fun _ => linktypeNull with
      activate := fun h => if h = 1 then -1 else 0 }
    let adapter : PcapIf := ⟨"eth".toList, some [], [0x0100007E]⟩
    let bind : Op := .bind (some [adapter]) (HostAddress.ofInt 0x0100007E) 5000
    let step := sessionStep np SmallPcpp.api (packetHandlerRawPtr SmallPcpp.pcpp SmallPcpp.api)
    let start : Session SmallPcpp.Reassembler :=
      Session.start (World.create true ⟨0, []⟩ .initial)
    (Foundation.run step start [.op bind, .op bind, .op .close]).map (fun s =>
      (s.world.driver.created, live s.world.driver.handleLog)) = some (4, []) := by
  decide +kernel

end Udpcap
