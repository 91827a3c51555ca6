import Udpcap.Session
import Udpcap.SmallPcpp
import Udpcap.SocketSpec

/-!
# The installed filters are current

While the socket is bound, every open device has the filter that `createFilterString`
yields for the present state of the socket, unless a kickstart ends with an exception:
`setMulticastLoopbackEnabled` sets the flag and starts the loopback traffic before it
updates the filters.

## Main definitions

* `World.FiltersCurrent` — the property.
* `World.Filters` — what holds of the filters in any case.
* `World.LeavesFilterBehind` — a state in which the flag changes and the filters do not.

## Main results

* `World.Filters.apply_cases` — **what an operation does to the filters.**
* `filters_current_iff` — **the filters are current throughout a session if and only if no
  exception of a kickstart leaves one behind.**
* `filter_left_behind` — a session in which one is left behind.
-/

namespace Udpcap

variable {R : Type} {np : Npcap} {api : IPReassembly R}

namespace World

/-- Every open device of a bound socket has the filter for the state of the socket. -/
def FiltersCurrent (np : Npcap) (w : World R) : Prop :=
  w.socket.boundState = true → ∀ dev ∈ w.socket.pcapDevices,
    w.driver.installedFilter dev.pcapHandle = some (w.socket.filterString np dev)

/-- The open devices have handles of their own, also those that are left over from a
`bind` that failed. -/
structure HandlesApart (w : World R) : Prop where
  handle_lt : ∀ dev ∈ w.socket.pcapDevices, dev.pcapHandle < w.driver.created
  nodup : (w.socket.pcapDevices.map PcapDev.pcapHandle).Nodup

namespace HandlesApart

variable {w w' : World R}

theorem congr (h : w.HandlesApart) (hdevices : w'.socket.pcapDevices = w.socket.pcapDevices)
    (hcreated : w'.driver.created = w.driver.created) : w'.HandlesApart where
  handle_lt := by
    rw [hdevices, hcreated]
    exact h.handle_lt
  nodup := by
    rw [hdevices]
    exact h.nodup

/-- The devices of a socket stay apart when others are opened. -/
theorem opens (h : w.HandlesApart) {opened : List PcapDev} (hopen : Opens api w w' opened) :
    w'.HandlesApart where
  handle_lt := by
    rw [hopen.socket_eq]
    intro dev hdev
    rcases List.mem_append.mp hdev with hdev | hdev
    · exact lt_of_lt_of_le (h.handle_lt dev hdev) hopen.created_le
    · exact (hopen.handle_mem dev hdev).2
  nodup := by
    rw [hopen.socket_eq, List.map_append]
    refine List.nodup_append'.mpr ⟨h.nodup, hopen.nodup, ?_⟩
    intro k hk hk'
    obtain ⟨dev, hdev, rfl⟩ := List.mem_map.mp hk
    obtain ⟨dev', hdev', heq⟩ := List.mem_map.mp hk'
    have hlt := h.handle_lt dev hdev
    have hle := (hopen.handle_mem dev' hdev').1
    rw [heq] at hle
    exact absurd hlt (not_lt.mpr hle)

/-- Every operation keeps the devices apart. -/
theorem apply (h : w.HandlesApart) {op : Op} {out : OpResult}
    (hop : w.apply np api op = some (w', out)) : w'.HandlesApart := by
  cases apply_case hop with
  | bindFails alldevs a p _ opened hopen => exact h.opens hopen
  | binds alldevs a p v opened hopen =>
    exact (h.opens hopen).congr (by simp) (by simp [finishBind])
  | joins g v _ _ hv | leaves g v _ hv =>
    subst hv
    exact h.congr (by simp) (by simp)
  | joinsKickstart g v _ _ hv | joinThrows g v _ _ hv =>
    subst hv
    have hjoined : (w.joined np g).HandlesApart := h.congr (by simp) (by simp [joined])
    exact hjoined.congr rfl rfl
  | setsLoopback enabled v hv hcreated => exact h.congr (by simp [hv]) (by simp [hcreated])
  | setLoopbackThrows v hv =>
    subst hv
    exact h.congr rfl rfl
  | closes => exact ⟨by simp, by simp⟩
  | resizes n => exact h.congr rfl rfl
  | resizeRefused | joinRefused | leaveRefused | keepsLoopback => exact h

end HandlesApart

/-- What holds of the filters of a bound socket in any case: every open device has the filter
for the state of the socket, up to multicast loopback, which may have been enabled since. -/
structure Filters (np : Npcap) (w : World R) : Prop where
  apart : w.HandlesApart
  installed : w.socket.boundState = true → ∀ dev ∈ w.socket.pcapDevices, ∃ b : Bool,
    (b = true → w.socket.multicastLoopbackEnabled = true) ∧
      w.driver.installedFilter dev.pcapHandle =
        some ({ w.socket with multicastLoopbackEnabled := b }.filterString np dev)

/-- A change of the state of the socket that is followed by an update of all filters. -/
theorem HandlesApart.updateAll {w : World R} (h : w.HandlesApart) (hok : FiltersSucceed np) :
    (w.updateAllCaptureFilters np).FiltersCurrent np := by
  intro _ dev hdev
  rw [updateAllCaptureFilters_socket] at hdev ⊢
  exact installedFilter_updateAll hok w h.nodup dev hdev

/-- The kickstart touches neither the socket nor the filters. -/
theorem FiltersCurrent.kickstart {w : World R} (h : w.FiltersCurrent np) :
    (w.kickstartLoopbackMulticast np).1.FiltersCurrent np := h

theorem filtersCurrent_of_unbound {w : World R} (h : w.socket.boundState = false) :
    w.FiltersCurrent np := by
  intro hbound
  rw [h] at hbound
  cases hbound

namespace Filters

variable {w w' : World R}

theorem create (np : Npcap) (initialized : Bool) (driver : Driver) (helpers : NpcapHelpers) :
    (World.create initialized driver helpers : World R).Filters np where
  apart := ⟨fun _ hdev => absurd hdev List.not_mem_nil, List.nodup_nil⟩
  installed := fun _ _ hdev => absurd hdev List.not_mem_nil

theorem of_current (h : w.HandlesApart) (hcurrent : w.FiltersCurrent np) : w.Filters np :=
  ⟨h, fun hbound dev hdev =>
    ⟨w.socket.multicastLoopbackEnabled, id, hcurrent hbound dev hdev⟩⟩

/-- **What an operation does to the filters**: it leaves everything as it is, or it leaves
the filters of a bound socket current, or the kickstart of `setMulticastLoopbackEnabled`
throws and only the flag has changed. -/
theorem apply_cases (hok : FiltersSucceed np) (h : w.HandlesApart) {op : Op} {out : OpResult}
    (hop : w.apply np api op = some (w', out)) : w' = w ∨ w'.FiltersCurrent np ∨
      (op = .setMulticastLoopbackEnabled true ∧ w.socket.multicastLoopbackEnabled = false ∧
        w.kickstartThrows np = true ∧
        w' = ({ w with socket.multicastLoopbackEnabled := true }.kickstartLoopbackMulticast
          np).1) := by
  cases apply_case hop with
  | bindFails alldevs a p _ opened hopen hbound =>
    -- devices may be left over, but the socket is not bound, or nothing has been opened
    cases hstate : w.socket.boundState with
    | true => exact Or.inl (hbound hstate)
    | false => exact Or.inr (Or.inl (filtersCurrent_of_unbound (by rw [hopen.socket_eq, hstate])))
  | binds alldevs a p v opened hopen =>
    have hapart : World.HandlesApart { v with
        socket.boundAddress := a
        socket.boundPort := p
        socket.boundState := true
        socket.pcapDevicesClosed := false } := (h.opens hopen).congr rfl rfl
    exact Or.inr (Or.inl (hapart.updateAll hok))
  | joins g v _ _ hv | leaves g v _ hv =>
    have hapart : v.HandlesApart := h.congr (by rw [hv]) (by rw [hv])
    exact Or.inr (Or.inl (hapart.updateAll hok))
  | joinsKickstart g v _ _ hv | joinThrows g v _ _ hv =>
    -- the filters are updated before the kickstart
    have hapart : v.HandlesApart := h.congr (by rw [hv]) (by rw [hv])
    exact Or.inr (Or.inl (hapart.updateAll hok).kickstart)
  | setsLoopback enabled v hv hcreated =>
    exact Or.inr (Or.inl ((h.congr (by rw [hv]) hcreated).updateAll hok))
  | setLoopbackThrows v hv hdisabled hthrows =>
    subst hv
    exact Or.inr (Or.inr ⟨rfl, hdisabled, hthrows, rfl⟩)
  | closes => exact Or.inr (Or.inl (filtersCurrent_of_unbound (by rw [close_socket])))
  | resizes n hbound => exact Or.inr (Or.inl (filtersCurrent_of_unbound hbound))
  | resizeRefused | joinRefused | leaveRefused | keepsLoopback => exact Or.inl rfl

/-- **Every operation keeps what holds of the filters.** -/
theorem apply (hok : FiltersSucceed np) (h : w.Filters np) {op : Op} {out : OpResult}
    (hop : w.apply np api op = some (w', out)) : w'.Filters np := by
  have hapart := h.apart.apply hop
  rcases apply_cases hok h.apart hop with rfl | hcurrent | ⟨-, hdisabled, -, rfl⟩
  · exact h
  · exact of_current hapart hcurrent
  · -- the filters are those from before, and the flag has been set
    refine ⟨hapart, ?_⟩
    intro hbound dev hdev
    obtain ⟨b, hb, hinstalled⟩ := h.installed hbound dev hdev
    exact ⟨b, fun _ => rfl, hinstalled⟩

end Filters

/-! ### A filter that is left behind -/

/-- Multicast loopback is about to be enabled on a bound socket, the filter of a device
depends on it, and the kickstart ends with an exception. -/
structure LeavesFilterBehind (np : Npcap) (w : World R) : Prop where
  isBound : w.socket.boundState = true
  disabled : w.socket.multicastLoopbackEnabled = false
  groups_ne_nil : w.socket.multicastGroups ≠ []
  loopbackDevice : ∃ dev ∈ w.socket.pcapDevices, dev.isLoopback = true
  throws : w.kickstartThrows np = true

instance (np : Npcap) (w : World R) : Decidable (w.LeavesFilterBehind np) :=
  decidable_of_iff (w.socket.boundState = true ∧ w.socket.multicastLoopbackEnabled = false ∧
      w.socket.multicastGroups ≠ [] ∧ (∃ dev ∈ w.socket.pcapDevices, dev.isLoopback = true) ∧
      w.kickstartThrows np = true)
    ⟨fun h => ⟨h.1, h.2.1, h.2.2.1, h.2.2.2.1, h.2.2.2.2⟩,
      fun h => ⟨h.isBound, h.disabled, h.groups_ne_nil, h.loopbackDevice, h.throws⟩⟩

/-- The filter of a device depends on multicast loopback exactly if it is a loopback device
and there are groups. -/
theorem filterString_enabled_eq_iff (np : Npcap) {s : UdpcapSocket R}
    (hdisabled : s.multicastLoopbackEnabled = false) (dev : PcapDev) :
    { s with multicastLoopbackEnabled := true }.filterString np dev = s.filterString np dev ↔
      ¬(dev.isLoopback = true ∧ s.multicastGroups ≠ []) := by
  unfold UdpcapSocket.filterString
  rw [hdisabled]
  exact createFilterString_enabled_eq_iff ..

/-- **An exception leaves a filter behind exactly in such a state.** -/
theorem filtersCurrent_kickstart_iff {w : World R} (hcurrent : w.FiltersCurrent np)
    (hdisabled : w.socket.multicastLoopbackEnabled = false)
    (hthrows : w.kickstartThrows np = true) :
    ({ w with socket.multicastLoopbackEnabled := true }.kickstartLoopbackMulticast
      np).1.FiltersCurrent np ↔ ¬w.LeavesFilterBehind np := by
  constructor
  · rintro hkept ⟨hbound, -, hgroups, ⟨dev, hdev, hloopback⟩, -⟩
    have hsame := (hkept hbound dev hdev).symm.trans (hcurrent hbound dev hdev)
    exact (filterString_enabled_eq_iff np hdisabled dev).mp (Option.some.inj hsame)
      ⟨hloopback, hgroups⟩
  · -- no filter depends on the flag
    intro hnot hbound dev hdev
    have hsame := (filterString_enabled_eq_iff np hdisabled dev).mpr fun hdepends =>
      hnot ⟨hbound, hdisabled, hdepends.2, ⟨dev, hdev, hdepends.1⟩, hthrows⟩
    exact (hcurrent hbound dev hdev).trans (congrArg some hsame.symm)

/-- An operation keeps the filters current unless it leaves one behind. -/
theorem FiltersCurrent.apply {w w' : World R} (hok : FiltersSucceed np) (h : w.FiltersCurrent np)
    (hapart : w.HandlesApart) {op : Op} {out : OpResult}
    (hop : w.apply np api op = some (w', out))
    (hbehind : op = .setMulticastLoopbackEnabled true → ¬w.LeavesFilterBehind np) :
    w'.FiltersCurrent np := by
  rcases Filters.apply_cases hok hapart hop with rfl | hcurrent | ⟨hset, hdisabled, hthrows, rfl⟩
  · exact h
  · exact hcurrent
  · exact (filtersCurrent_kickstart_iff h hdisabled hthrows).mpr (hbehind hset)

end World

/-! ### Sessions -/

variable {handler : Handler R} {s t : Session R}

/-- **A step of `receiveDatagram`** changes nothing that the filters depend on. -/
theorem World.HandlesApart.reassembles {w w' : World R} (h : w.HandlesApart)
    (hw : w.Reassembles w') : w'.HandlesApart := by
  obtain ⟨⟨reassemblers, hsocket⟩, hdriver⟩ := hw
  exact h.congr (by rw [hsocket]) (by rw [hdriver])

theorem World.Filters.reassembles {w w' : World R} (h : w.Filters np) (hw : w.Reassembles w') :
    w'.Filters np := by
  refine ⟨h.apart.reassembles hw, ?_⟩
  obtain ⟨⟨reassemblers, hsocket⟩, hdriver⟩ := hw
  rw [hsocket, hdriver]
  exact h.installed

theorem World.FiltersCurrent.reassembles {w w' : World R} (h : w.FiltersCurrent np)
    (hw : w.Reassembles w') : w'.FiltersCurrent np := by
  obtain ⟨⟨reassemblers, hsocket⟩, hdriver⟩ := hw
  unfold World.FiltersCurrent
  rw [hsocket, hdriver]
  exact h

/-- Every step of a session keeps the devices apart. -/
theorem handlesApart_step {l : SessionLabel} (h : s.world.HandlesApart)
    (hstep : sessionStep np api handler s l = some t) : t.world.HandlesApart := by
  rcases sessionStep_world hstep with ⟨op, out, -, -, hop⟩ | hreassembles
  · exact h.apply hop
  · exact h.reassembles hreassembles

/-- Every step of a session keeps what holds of the filters. -/
theorem filters_step (hok : World.FiltersSucceed np) {l : SessionLabel} (h : s.world.Filters np)
    (hstep : sessionStep np api handler s l = some t) : t.world.Filters np := by
  rcases sessionStep_world hstep with ⟨op, out, -, -, hop⟩ | hreassembles
  · exact h.apply hok hop
  · exact h.reassembles hreassembles

/-- A call of `setMulticastLoopbackEnabled(true)`. -/
def SessionLabel.enablesLoopback : SessionLabel → Bool
  | .op operation => operation = .setMulticastLoopbackEnabled true
  | .arrive .. | .call _ | .reply _ => false

theorem SessionLabel.enablesLoopback_iff {l : SessionLabel} :
    l.enablesLoopback = true ↔ l = .op (.setMulticastLoopbackEnabled true) := by
  cases l <;> simp [enablesLoopback]

/-- A step does not enable multicast loopback with an exception that leaves a filter
behind. -/
def Session.KeepsFilters (np : Npcap) (s : Session R) (l : SessionLabel) : Prop :=
  l.enablesLoopback = true → s.current.isNone = true → ¬s.world.LeavesFilterBehind np

instance (np : Npcap) (s : Session R) (l : SessionLabel) : Decidable (s.KeepsFilters np l) :=
  inferInstanceAs (Decidable (_ → _ → ¬_))

/-- Every other step keeps the filters current. -/
theorem filtersCurrent_step (hok : World.FiltersSucceed np) {l : SessionLabel}
    (h : s.world.FiltersCurrent np) (hapart : s.world.HandlesApart) (hl : s.KeepsFilters np l)
    (hstep : sessionStep np api handler s l = some t) : t.world.FiltersCurrent np := by
  rcases sessionStep_world hstep with ⟨op, out, rfl, hcurrent, hop⟩ | hreassembles
  · refine h.apply hok hapart hop ?_
    rintro rfl
    exact hl (SessionLabel.enablesLoopback_iff.mpr rfl) (Option.isNone_iff_eq_none.mpr hcurrent)
  · exact h.reassembles hreassembles

/-- A step that leaves a filter behind. -/
theorem not_filtersCurrent_of_behind (handler : Handler R) {l : SessionLabel}
    (h : s.world.FiltersCurrent np) (hl : ¬s.KeepsFilters np l) :
    ∃ t, sessionStep np api handler s l = some t ∧ ¬t.world.FiltersCurrent np := by
  unfold Session.KeepsFilters at hl
  push Not at hl
  obtain ⟨hlabel, hcurrent, hbehind⟩ := hl
  obtain rfl := SessionLabel.enablesLoopback_iff.mp hlabel
  let w := ({ s.world with socket.multicastLoopbackEnabled := true }.kickstartLoopbackMulticast
    np).1
  have hset : s.world.setMulticastLoopbackEnabled np true = (w, .threw) := by
    have hthrows : World.kickstartThrows np
        { s.world with socket.multicastLoopbackEnabled := true } = true := hbehind.throws
    unfold World.setMulticastLoopbackEnabled
    rw [if_neg (by rw [hbehind.disabled]; exact Bool.false_ne_true)]
    show (if World.kickstartThrows np _ then _ else _) = _
    rw [hthrows]
    rfl
  have happly : s.world.apply np api (.setMulticastLoopbackEnabled true) = some (w, .threw) :=
    congrArg some hset
  refine ⟨{ s with world := w }, ?_, ?_⟩
  · unfold sessionStep
    simp only
    rw [Option.isNone_iff_eq_none.mp hcurrent, happly]
    rfl
  · intro hkept
    exact (World.filtersCurrent_kickstart_iff h hbehind.disabled hbehind.throws).mp hkept hbehind

/-- **The filters are current in every state of a session if and only if no exception of a
kickstart leaves one behind.** -/
theorem filters_current_iff (hok : World.FiltersSucceed np) (api : IPReassembly R)
    (handler : Handler R) (initialized : Bool) (driver : Driver) (helpers : NpcapHelpers)
    (labels : List SessionLabel) :
    let start := Session.start (World.create initialized driver helpers)
    Foundation.HoldsAlong (sessionStep np api handler) (fun s => s.world.FiltersCurrent np)
        start labels ↔
      Foundation.StepsMeet (sessionStep np api handler) (Session.KeepsFilters np) start labels := by
  intro start
  constructor
  · -- the first step that does not meet the condition leads to a state with an old filter
    refine Foundation.HoldsAlong.stepsMeet ?_
    exact fun s l hs hl => not_filtersCurrent_of_behind handler hs hl
  · refine Foundation.holdsAlong_of_stepsMeet
      (I := fun s : Session R => s.world.Filters np ∧ s.world.FiltersCurrent np)
      (fun s hs => hs.2) ?_ ?_
    · rintro s l t ⟨hfilters, hcurrent⟩ hl hst
      exact ⟨filters_step hok hfilters hst,
        filtersCurrent_step hok hcurrent hfilters.apart hl hst⟩
    · exact ⟨World.Filters.create np initialized driver helpers,
        fun _ _ hdev => absurd hdev List.not_mem_nil⟩

theorem filtersSucceed_ofLinkTypes (datalink : Handle → LinkLayerType) :
    World.FiltersSucceed (Npcap.ofLinkTypes datalink) := fun _ _ => ⟨nofun, nofun⟩

/-- A socket is bound to the loopback device, joins a group with multicast loopback disabled,
and enables it. -/
def loopbackEnabledLast : List SessionLabel :=
  [.op (.bind none .localHost 5000), .op (.setMulticastLoopbackEnabled false),
    .op (.joinMulticastGroup (HostAddress.ofInt 0x010000EF)),
    .op (.setMulticastLoopbackEnabled true)]

/-- The kickstart returns, and the filter is updated. -/
theorem filters_current_one_group :
    let np := Npcap.ofLinkTypes fun _ => linktypeNull
    let start : Session SmallPcpp.Reassembler :=
      Session.start (World.create true ⟨0, []⟩ .initial)
    let step := sessionStep np SmallPcpp.api (packetHandlerRawPtr SmallPcpp.pcpp SmallPcpp.api)
    Foundation.HoldsAlong step (fun s => s.world.FiltersCurrent np) start loopbackEnabledLast ∧
      (Foundation.run step start loopbackEnabledLast).map (fun s =>
        (s.world.socket.boundState, s.world.socket.pcapDevices.length,
          s.world.socket.multicastLoopbackEnabled)) = some (true, 1, true) := by
  refine ⟨(filters_current_iff (filtersSucceed_ofLinkTypes _) _ _ _ _ _ _).mpr ?_, ?_⟩
  · decide +kernel
  · decide +kernel

/-- The kickstart socket cannot be closed.  The loopback device keeps the filter for disabled
multicast loopback, which does not let the group pass, although multicast loopback is
enabled. -/
theorem filter_left_behind :
    let np := { Npcap.ofLinkTypes fun _ => linktypeNull with asio := fun _ => .withoutClose }
    let start : Session SmallPcpp.Reassembler :=
      Session.start (World.create true ⟨0, []⟩ .initial)
    let step := sessionStep np SmallPcpp.api (packetHandlerRawPtr SmallPcpp.pcpp SmallPcpp.api)
    World.FiltersSucceed np ∧
      ¬Foundation.HoldsAlong step (fun s => s.world.FiltersCurrent np) start
        loopbackEnabledLast := by
  intro np start step
  refine ⟨fun _ _ => ⟨nofun, nofun⟩, ?_⟩
  refine Foundation.not_holdsAlong (fun s => s.world.socket.boundState ∧
    s.world.socket.pcapDevices.any fun dev =>
      s.world.driver.installedFilter dev.pcapHandle ≠ some (s.world.socket.filterString np dev))
    ?_ ?_
  · intro s hs h
    obtain ⟨hbound, hany⟩ := of_decide_eq_true hs
    obtain ⟨dev, hdev, hdiffers⟩ := List.any_eq_true.mp hany
    exact of_decide_eq_true hdiffers (h hbound dev hdev)
  · decide +kernel

end Udpcap
