import Udpcap.SocketSpec

/-!
# The name of the loopback device

`GetLoopbackDeviceName` and `IsLoopbackDevice` build the name of the loopback device
from the same cached text, one with the prefix `npcap_` and one without it.

## Main definitions

* `Registry.uuid`, `latestUuid` — what the lookups in the registry have told.
* `HelperCall`, `NpcapGlobals.after` — the calls that may have been made before.
* `PcapDev.TreatedAsLoopback` — a device is recorded as the loopback device.

## Main results

* `NpcapGlobals.tracks_after` — **the cache holds the text of the latest lookup that
  found one**, whatever was called.
* `isLoopbackDevice_getLoopbackDeviceName` — the name is recognised exactly if that text
  is empty.
* `loopback_agrees_iff` — the same for the devices that `bind` opens.
-/

namespace Udpcap

/-! ### What the registry has told -/

/-- The text that a lookup takes for the UUID of the loopback adapter, `none` if Npcap
or its loopback support is not found. -/
def Registry.uuid : Registry → Option (List Char)
  | .missing => none
  | .parameters loopbackSupport loopbackAdapter =>
    if loopbackSupport.getD 0 = 0 then none
    else some (NpcapHelpers.uuidOf (loopbackAdapter.getD []))

/-- The text of the latest of the first `n` lookups that have found one. -/
def latestUuid (registry : ℕ → Registry) : ℕ → List Char
  | 0 => []
  | n + 1 => ((registry n).uuid).getD (latestUuid registry n)

namespace NpcapHelpers

variable {registry : ℕ → Registry} {g : NpcapHelpers}

/-- The cache holds the text of the latest lookup that found one. -/
def Tracks (registry : ℕ → Registry) (g : NpcapHelpers) : Prop :=
  g.loopbackDeviceUuidString = latestUuid registry g.lookups

/-- The number of lookups once `GetLoopbackDeviceName` has returned. -/
def lookupsForName (g : NpcapHelpers) : ℕ :=
  if g.loopbackDeviceNameInitialized then g.lookups else g.lookups + 1

/-- A lookup that finds no text writes an error text. -/
theorem load_of_none (h : (registry g.lookups).uuid = none) :
    ∃ text, text ≠ "Npcap is ready" ∧ loadLoopbackDeviceNameFromRegistry registry g =
      ({ g with humanReadibleError := text, lookups := g.lookups + 1 }, false) := by
  unfold loadLoopbackDeviceNameFromRegistry
  cases hfound : registry g.lookups with
  | missing => exact ⟨_, by decide, rfl⟩
  | parameters loopbackSupport loopbackAdapter =>
    rw [hfound] at h
    by_cases hzero : loopbackSupport.getD 0 = 0
    · exact ⟨_, by decide, if_pos hzero⟩
    · simp [Registry.uuid, hzero] at h

/-- A lookup that finds a text stores it. -/
theorem load_of_some {uuid : List Char} (h : (registry g.lookups).uuid = some uuid) :
    loadLoopbackDeviceNameFromRegistry registry g =
      ({ g with loopbackDeviceUuidString := uuid, lookups := g.lookups + 1 }, true) := by
  unfold loadLoopbackDeviceNameFromRegistry
  cases hfound : registry g.lookups with
  | missing =>
    rw [hfound] at h
    cases h
  | parameters loopbackSupport loopbackAdapter =>
    rw [hfound] at h
    by_cases hzero : loopbackSupport.getD 0 = 0
    · simp [Registry.uuid, hzero] at h
    · simp only [Registry.uuid, if_neg hzero, Option.some.injEq] at h
      simp only [if_neg hzero, h]

/-- **What a lookup does**, apart from the error text. -/
theorem load_spec (registry : ℕ → Registry) (g : NpcapHelpers) :
    let o := loadLoopbackDeviceNameFromRegistry registry g
    o.1.lookups = g.lookups + 1 ∧
      o.1.loopbackDeviceUuidString =
        ((registry g.lookups).uuid).getD g.loopbackDeviceUuidString ∧
      o.1.loopbackDeviceNameInitialized = g.loopbackDeviceNameInitialized ∧
      o.2 = ((registry g.lookups).uuid).isSome := by
  intro o
  cases huuid : (registry g.lookups).uuid with
  | none =>
    obtain ⟨text, -, hload⟩ := load_of_none huuid
    simp [o, hload]
  | some uuid => simp [o, load_of_some huuid]

theorem lookups_load (registry : ℕ → Registry) (g : NpcapHelpers) :
    (loadLoopbackDeviceNameFromRegistry registry g).1.lookups = g.lookups + 1 :=
  (load_spec registry g).1

theorem uuid_load (registry : ℕ → Registry) (g : NpcapHelpers) :
    (loadLoopbackDeviceNameFromRegistry registry g).1.loopbackDeviceUuidString =
      ((registry g.lookups).uuid).getD g.loopbackDeviceUuidString :=
  (load_spec registry g).2.1

theorem loopbackDeviceNameInitialized_load (registry : ℕ → Registry) (g : NpcapHelpers) :
    (loadLoopbackDeviceNameFromRegistry registry g).1.loopbackDeviceNameInitialized =
      g.loopbackDeviceNameInitialized :=
  (load_spec registry g).2.2.1

/-- A lookup succeeds exactly if it finds a text. -/
theorem loaded_load (registry : ℕ → Registry) (g : NpcapHelpers) :
    (loadLoopbackDeviceNameFromRegistry registry g).2 = ((registry g.lookups).uuid).isSome :=
  (load_spec registry g).2.2.2

theorem tracks_load (hg : g.Tracks registry) :
    (loadLoopbackDeviceNameFromRegistry registry g).1.Tracks registry := by
  unfold Tracks at hg ⊢
  rw [lookups_load, uuid_load, hg]
  rfl

/-- All three questions look up the registry unless the name is known. -/
theorem tracks_ask (hg : g.Tracks registry) (initialized : Bool) :
    Tracks registry (if g.loopbackDeviceNameInitialized then g
      else { (loadLoopbackDeviceNameFromRegistry registry g).1 with
        loopbackDeviceNameInitialized := initialized }) := by
  split
  · exact hg
  · exact tracks_load hg

theorem tracks_isLoopbackDevice (hg : g.Tracks registry) (deviceName : DeviceName) :
    (isLoopbackDevice registry g deviceName).1.Tracks registry :=
  tracks_ask hg (loadLoopbackDeviceNameFromRegistry registry g).2

theorem tracks_getLoopbackDeviceUuidString (hg : g.Tracks registry) :
    (getLoopbackDeviceUuidString registry g).1.Tracks registry :=
  tracks_ask hg (loadLoopbackDeviceNameFromRegistry registry g).2

theorem tracks_getLoopbackDeviceName (hg : g.Tracks registry) :
    (getLoopbackDeviceName registry g).1.Tracks registry :=
  tracks_ask hg true

theorem tracks_loadNpcapDlls (hg : g.Tracks registry) (dlls : DllResult) :
    (loadNpcapDlls dlls g).1.Tracks registry := by
  cases dlls with
  | noSystemDirectory => exact hg
  | noDllDirectory => exact hg
  | noLibrary => exact hg
  | loaded => exact hg

theorem tracks_testLoopbackDevice (hg : g.Tracks registry)
    (alldevs : Except String (List DeviceName)) :
    (testLoopbackDevice registry alldevs g).1.Tracks registry := by
  have hloop : ∀ (devices : List DeviceName) (o : NpcapHelpers × Bool), o.1.Tracks registry →
      (devices.foldl (fun o name => ((isLoopbackDevice registry o.1 name).1,
        o.2 || (isLoopbackDevice registry o.1 name).2)) o).1.Tracks registry := by
    intro devices
    induction devices with
    | nil => intro o ho; exact ho
    | cons name devices ih => intro o ho; exact ih _ (tracks_isLoopbackDevice ho name)
  cases alldevs with
  | error errbuf => exact hg
  | ok devices =>
    have hdevices := hloop devices (g, false) hg
    unfold testLoopbackDevice
    simp only at hdevices ⊢
    split
    · exact hdevices
    · exact hdevices

end NpcapHelpers

/-! ### Histories -/

/-- A call of a function of `npcap_helpers.h`. -/
inductive HelperCall
  | initializeNpcap (dlls : NpcapHelpers.DllResult) (alldevs : Except String (List DeviceName))
  | getLoopbackDeviceName
  | getLoopbackDeviceUuidString
  | isLoopbackDevice (deviceName : DeviceName)

namespace NpcapGlobals

variable {registry : ℕ → Registry}

/-- The globals after a call. -/
def apply (registry : ℕ → Registry) (g : NpcapGlobals) : HelperCall → NpcapGlobals
  | .initializeNpcap dlls alldevs => (g.initializeNpcap registry dlls alldevs).1
  | .getLoopbackDeviceName =>
    { g with helpers := (NpcapHelpers.getLoopbackDeviceName registry g.helpers).1 }
  | .getLoopbackDeviceUuidString =>
    { g with helpers := (NpcapHelpers.getLoopbackDeviceUuidString registry g.helpers).1 }
  | .isLoopbackDevice deviceName =>
    { g with helpers := (NpcapHelpers.isLoopbackDevice registry g.helpers deviceName).1 }

/-- The globals after a sequence of calls from program start. -/
def after (registry : ℕ → Registry) (calls : List HelperCall) : NpcapGlobals :=
  calls.foldl (apply registry) initial

theorem tracks_initializeNpcap {g : NpcapGlobals} (hg : g.helpers.Tracks registry)
    (dlls : NpcapHelpers.DllResult) (alldevs : Except String (List DeviceName)) :
    (g.initializeNpcap registry dlls alldevs).1.helpers.Tracks registry := by
  have hload : (NpcapHelpers.loadLoopbackDeviceNameFromRegistry registry
      { g.helpers with humanReadibleError := "Unknown error" }).1.Tracks registry :=
    NpcapHelpers.tracks_load hg
  have hdlls := NpcapHelpers.tracks_loadNpcapDlls hload dlls
  have htest := NpcapHelpers.tracks_testLoopbackDevice hdlls alldevs
  unfold initializeNpcap
  simp only
  split
  · exact hg
  · split
    · exact hdlls
    · split
      · exact htest
      · exact htest

theorem tracks_apply {g : NpcapGlobals} (hg : g.helpers.Tracks registry) (call : HelperCall) :
    (g.apply registry call).helpers.Tracks registry := by
  cases call with
  | initializeNpcap dlls alldevs => exact tracks_initializeNpcap hg dlls alldevs
  | getLoopbackDeviceName => exact NpcapHelpers.tracks_getLoopbackDeviceName hg
  | getLoopbackDeviceUuidString => exact NpcapHelpers.tracks_getLoopbackDeviceUuidString hg
  | isLoopbackDevice deviceName => exact NpcapHelpers.tracks_isLoopbackDevice hg deviceName

/-- **The cache holds the text of the latest lookup that found one**, whatever was
called. -/
theorem tracks_after (registry : ℕ → Registry) (calls : List HelperCall) :
    (after registry calls).helpers.Tracks registry := by
  have hfold : ∀ (calls : List HelperCall) (g : NpcapGlobals), g.helpers.Tracks registry →
      (calls.foldl (apply registry) g).helpers.Tracks registry := by
    intro calls
    induction calls with
    | nil => intro g hg; exact hg
    | cons call calls ih => intro g hg; exact ih _ (tracks_apply hg call)
  exact hfold calls initial rfl

end NpcapGlobals

/-! ### The name and the predicate -/

namespace NpcapHelpers

variable {registry : ℕ → Registry} {g : NpcapHelpers}

theorem getLoopbackDeviceName_spec (registry : ℕ → Registry) (g : NpcapHelpers) :
    (getLoopbackDeviceName registry g).1.loopbackDeviceNameInitialized = true ∧
      (getLoopbackDeviceName registry g).1.lookups = g.lookupsForName := by
  unfold getLoopbackDeviceName lookupsForName
  simp only
  split
  next hinit => exact ⟨hinit, rfl⟩
  next => exact ⟨rfl, lookups_load registry g⟩

/-- The prefixes differ, so the two names for a UUID do. -/
theorem map_toLower_npcap_ne (uuid : List Char) :
    ("\\device\\npcap_\x7b".toList ++ uuid ++ "\x7d".toList).map Char.toLower ≠ npfLoopback ∧
      ("\\device\\\x7b".toList ++ uuid ++ "\x7d".toList).map Char.toLower ≠
        ("\\device\\npcap_\x7b".toList ++ uuid ++ "\x7d".toList).map Char.toLower := by
  constructor
  · intro heq
    have htake := congrArg (List.take 15) heq
    rw [List.append_assoc, List.map_append, List.take_left' (by decide)] at htake
    revert htake
    decide
  · intro heq
    have hlength := congrArg List.length heq
    simp only [List.length_map, List.length_append] at hlength
    have hshort : "\\device\\\x7b".toList.length = 9 := by decide
    have hlong : "\\device\\npcap_\x7b".toList.length = 15 := by decide
    omega

/-- **The name of the loopback device is recognised exactly if the cached text is
empty.** -/
theorem isLoopbackDevice_getLoopbackDeviceName (registry : ℕ → Registry) (g : NpcapHelpers) :
    (isLoopbackDevice registry (getLoopbackDeviceName registry g).1
        (getLoopbackDeviceName registry g).2).2 = true ↔
      (getLoopbackDeviceName registry g).1.loopbackDeviceUuidString = [] := by
  obtain ⟨hinit, -⟩ := getLoopbackDeviceName_spec registry g
  have hname : (getLoopbackDeviceName registry g).2 =
      if (getLoopbackDeviceName registry g).1.loopbackDeviceUuidString ≠ [] then
        "\\device\\npcap_\x7b".toList ++
          (getLoopbackDeviceName registry g).1.loopbackDeviceUuidString ++ "\x7d".toList
      else npfLoopback := rfl
  rw [hname]
  generalize (getLoopbackDeviceName registry g).1 = h at hinit ⊢
  unfold isLoopbackDevice
  simp only
  rw [if_pos hinit]
  by_cases huuid : h.loopbackDeviceUuidString = []
  · simp only [huuid, ne_eq, not_true_eq_false, if_false, iff_true]
    decide
  · obtain ⟨hnpf, hlegacy⟩ := map_toLower_npcap_ne h.loopbackDeviceUuidString
    rw [if_pos huuid, if_pos huuid]
    constructor
    · intro hor
      rcases (Bool.or_eq_true _ _).mp hor with hnpf' | hlegacy'
      · exact absurd (of_decide_eq_true hnpf') hnpf
      · exact absurd (of_decide_eq_true hlegacy') hlegacy
    · intro hnil
      exact absurd hnil huuid

/-- The text is that of the latest lookup that found one, with the lookup that
`GetLoopbackDeviceName` makes. -/
theorem Tracks.uuid_eq (hg : g.Tracks registry) :
    (getLoopbackDeviceName registry g).1.loopbackDeviceUuidString =
      latestUuid registry g.lookupsForName := by
  rw [tracks_getLoopbackDeviceName hg, (getLoopbackDeviceName_spec registry g).2]

/-- Once the name is known, the question does not change what is cached. -/
theorem isLoopbackDevice_of_initialized (hinit : g.loopbackDeviceNameInitialized = true)
    (deviceName : DeviceName) : (isLoopbackDevice registry g deviceName).1 = g := by
  unfold isLoopbackDevice
  simp only
  rw [if_pos hinit]

end NpcapHelpers

/-! ### The devices that `bind` opens -/

/-- The device is recorded as the loopback device, and its capture filters have the form
for it. -/
def PcapDev.TreatedAsLoopback (np : Npcap) (dev : PcapDev) : Prop :=
  dev.isLoopback = true ∧ ∀ (R : Type) (s : UdpcapSocket R),
    s.filterString np dev = createFilterString (getMac np dev.pcapHandle) true s.boundAddress
      s.boundPort s.multicastGroups s.multicastLoopbackEnabled

theorem PcapDev.treatedAsLoopback_iff (np : Npcap) (dev : PcapDev) :
    dev.TreatedAsLoopback np ↔ dev.isLoopback = true := by
  constructor
  · intro h
    exact h.1
  · intro h
    refine ⟨h, ?_⟩
    intro R s
    rw [← h]
    rfl

namespace World

variable {R : Type} {np : Npcap} {api : IPReassembly R} {w w' : World R}

/-- Opening a device asks whether it is the loopback device, or nothing. -/
theorem helpers_openPcapDeviceNolock (np : Npcap) (api : IPReassembly R) (w : World R)
    (deviceName : DeviceName) :
    (w.openPcapDeviceNolock np api deviceName).1.helpers =
        (NpcapHelpers.isLoopbackDevice np.registry w.helpers deviceName).1 ∨
      (w.openPcapDeviceNolock np api deviceName).1.helpers = w.helpers := by
  obtain ⟨-, -, hopened, hfailed⟩ := openPcapDeviceNolock_spec np api w deviceName
  cases hopen : np.opens w.driver.created with
  | true => exact Or.inl (hopened hopen).2
  | false => exact Or.inr (hfailed hopen).2

/-- Every action keeps the cache up to date. -/
theorem preserved_tracks (np : Npcap) (api : IPReassembly R) :
    Preserved np api fun w => w.helpers.Tracks np.registry where
  isLoopbackDevice := fun _ name hw => NpcapHelpers.tracks_isLoopbackDevice hw name
  getLoopbackDeviceName := fun _ hw => NpcapHelpers.tracks_getLoopbackDeviceName hw
  opens := by
    intro w name hw
    rcases helpers_openPcapDeviceNolock np api w name with heq | heq
    · rw [heq]
      exact NpcapHelpers.tracks_isLoopbackDevice hw name
    · rw [heq]
      exact hw
  filters := by
    intro w dev _ hw
    rw [updateCaptureFilter_helpers]
    exact hw
  kickstart := fun _ hw => hw
  socket := fun _ _ _ hw => hw
  closes := by
    intro w hw
    rw [close_helpers]
    exact hw

/-- The loopback device that is opened is recorded as such exactly if the cached text is
empty. -/
theorem openLoopbackDevice_isLoopback (hw : w.helpers.Tracks np.registry)
    (hopen : (w.openLoopbackDevice np api).2 = true) :
    ∃ dev, (w.openLoopbackDevice np api).1.socket.pcapDevices.getLast? = some dev ∧
      (dev.isLoopback = true ↔
        latestUuid np.registry (w.openLoopbackDevice np api).1.helpers.lookups = []) := by
  obtain ⟨hinit, hlookups⟩ := NpcapHelpers.getLoopbackDeviceName_spec np.registry w.helpers
  obtain ⟨hresult, -, hopened, -⟩ := openPcapDeviceNolock_spec np api
    (w.getLoopbackDeviceName np).1 (w.getLoopbackDeviceName np).2
  have hok : np.opens (w.getLoopbackDeviceName np).1.driver.created = true :=
    hresult.symm.trans hopen
  obtain ⟨hsocket, hhelpers⟩ := hopened hok
  refine ⟨(w.getLoopbackDeviceName np).1.nextDevice np (w.getLoopbackDeviceName np).2, ?_, ?_⟩
  · unfold openLoopbackDevice
    rw [hsocket]
    exact List.getLast?_concat
  · unfold openLoopbackDevice
    rw [hhelpers]
    show (NpcapHelpers.isLoopbackDevice np.registry
        (NpcapHelpers.getLoopbackDeviceName np.registry w.helpers).1
        (NpcapHelpers.getLoopbackDeviceName np.registry w.helpers).2).2 = true ↔
      latestUuid np.registry (NpcapHelpers.isLoopbackDevice np.registry
        (NpcapHelpers.getLoopbackDeviceName np.registry w.helpers).1 _).1.lookups = []
    rw [NpcapHelpers.isLoopbackDevice_getLoopbackDeviceName,
      NpcapHelpers.isLoopbackDevice_of_initialized hinit, hlookups, hw.uuid_eq]

/-- The devices of one address end with the loopback device. -/
theorem openDevices_isLoopback (hw : w.helpers.Tracks np.registry) {alldevs : DeviceList}
    {localAddress : HostAddress} {ok : Bool}
    (hopen : w.openDevices np api alldevs localAddress = some (w', ok)) (hok : ok = true)
    (hone : localAddress.isLoopback = true ∨ HostAddress.eq localAddress .any = false) :
    ∃ dev, w'.socket.pcapDevices.getLast? = some dev ∧
      (dev.isLoopback = true ↔ latestUuid np.registry w'.helpers.lookups = []) := by
  cases openDevices_case hopen with
  | loopback => exact openLoopbackDevice_isLoopback hw hok
  | all devices hloopback hany =>
    rcases hone with hone | hone
    · rw [hloopback] at hone
      cases hone
    · rw [hany] at hone
      cases hone
  | adapterOpens dev u _ _ _ _ hadapter =>
    have hfound := (preserved_tracks np api).getDeviceByIp alldevs localAddress hw
    have hu := (preserved_tracks np api).opens _ dev.1 hfound
    rw [hadapter] at hu
    exact openLoopbackDevice_isLoopback hu hok
  | noDevices | notFound | adapterFails => cases hok

/-- **A successful `bind` to one address ends with the loopback device**, which is
recorded as such exactly if the cached text is empty. -/
theorem bind_loopbackDevice (hw : w.helpers.Tracks np.registry) {alldevs : DeviceList}
    {localAddress : HostAddress} {localPort : UInt16}
    (hbind : w.bind np api alldevs localAddress localPort = some (w', true))
    (hone : localAddress.isLoopback = true ∨ HostAddress.eq localAddress .any = false) :
    ∃ dev, w'.socket.pcapDevices.getLast? = some dev ∧
      (dev.TreatedAsLoopback np ↔ latestUuid np.registry w'.helpers.lookups = []) := by
  rcases bind_openDevices hbind with ⟨hfalse, -⟩ | ⟨-, -, -, v, hopen, hw'⟩
  · cases hfalse
  · obtain ⟨dev, hlast, hiff⟩ := openDevices_isLoopback hw hopen rfl hone
    rw [hw', if_pos rfl]
    refine ⟨dev, ?_, ?_⟩
    · rw [finishBind_socket]
      exact hlast
    · rw [PcapDev.treatedAsLoopback_iff, hiff]
      unfold finishBind
      rw [updateAllCaptureFilters_helpers]

end World

/-- **The name of the loopback device and the predicate agree exactly if the text that is
taken for the UUID of the loopback adapter is empty**, after every sequence of calls; so
do the name and the record of the devices that `bind` opens. -/
theorem loopback_agrees_iff {R : Type} (np : Npcap) (api : IPReassembly R)
    (calls : List HelperCall) :
    let g := (NpcapGlobals.after np.registry calls).helpers
    ((NpcapHelpers.isLoopbackDevice np.registry (NpcapHelpers.getLoopbackDeviceName np.registry g).1
        (NpcapHelpers.getLoopbackDeviceName np.registry g).2).2 = true ↔
      latestUuid np.registry g.lookupsForName = []) ∧
    ∀ (w w' : World R) (alldevs : DeviceList) (localAddress : HostAddress) (localPort : UInt16),
      w.helpers = g → w.bind np api alldevs localAddress localPort = some (w', true) →
        (localAddress.isLoopback = true ∨ HostAddress.eq localAddress .any = false) →
          ∃ dev, w'.socket.pcapDevices.getLast? = some dev ∧
            (dev.TreatedAsLoopback np ↔ latestUuid np.registry w'.helpers.lookups = []) := by
  intro g
  have hg := NpcapGlobals.tracks_after np.registry calls
  constructor
  · rw [NpcapHelpers.isLoopbackDevice_getLoopbackDeviceName, hg.uuid_eq]
  · intro w w' alldevs localAddress localPort hw hbind hone
    refine World.bind_loopbackDevice ?_ hbind hone
    rw [hw]
    exact hg

/-- The registry of a machine with a loopback adapter of its own. -/
def Npcap.withLoopbackAdapter : Npcap :=
  { Npcap.ofLinkTypes fun _ => linktypeNull with
    registry := fun _ =>
      .parameters (some 1) (some "\\Device\\\x7b6DBF8591-55F9-4DEF-A317-54B9563A42E3\x7d".toList) }

/-- With such an adapter, the device whose name is asked for is not taken for the
loopback device. -/
theorem loopback_not_recognised :
    let registry := Npcap.withLoopbackAdapter.registry
    let g := (NpcapGlobals.after registry []).helpers
    (NpcapHelpers.isLoopbackDevice registry (NpcapHelpers.getLoopbackDeviceName registry g).1
        (NpcapHelpers.getLoopbackDeviceName registry g).2).2 = false ∧
      ((World.create true ⟨0, []⟩ g : World Unit).bind Npcap.withLoopbackAdapter
          ⟨fun _ => (), fun _ _ => ⟨(), .nonIpPacket, none, []⟩, fun _ _ => (), fun _ => 0⟩ none
          .localHost 5000).map
        (fun o => (o.2, o.1.socket.pcapDevices.map PcapDev.isLoopback)) = some (true, [false]) := by
  decide +kernel

end Udpcap
