import Udpcap.Foundation.LentMemory
import Udpcap.SocketSpec

/-!
# The search for a device

`getDeviceByIp` on the list that `pcap_findalldevs` lends.  Every field of a node is read
from memory that `pcap_freealldevs` takes back, and a match is copied into the result only
after that.

## Main definitions

* `DeviceNode`, `FindAllDevs` — the nodes of the list, and what `pcap_findalldevs` hands out.
* `getDeviceByIp` — the search, with its reads in order.
* `adapters` — the devices that are not taken for the loopback device.
* `FindsDevice` — what the search is for.

## Main results

* `exec_searchDevices_of_none`, `exec_searchDevices_of_match` — the two runs.
* `freedOnce_runGetDeviceByIp` — the list is freed exactly once on every path.
* `World.getDeviceByIp_of_none`, `World.getDeviceByIp_of_match` — **the search of the socket
  is this search without a match, and returns what this one should have returned with one.**
* `finds_device_iff` — **the search does what it is for exactly if there is nothing to
  find.**
-/

namespace Udpcap

open Foundation Foundation.LentM Foundation.ResourceEvent

/-! ### The list -/

/-- A `sockaddr` of a device: its family, and its bytes where an IPv4 address would
stand. -/
structure PcapAddr where
  saFamily : UInt16
  sAddr : UInt32
  deriving DecidableEq, Repr

/-- `AF_INET` -/
def afInet : UInt16 := 2

/-- It is the IPv4 address `ip`. -/
def PcapAddr.Matches (ip : HostAddress) (addr : PcapAddr) : Prop :=
  addr.saFamily = afInet ∧ addr.sAddr = ip.toInt

instance (ip : HostAddress) (addr : PcapAddr) : Decidable (addr.Matches ip) :=
  inferInstanceAs (Decidable (_ ∧ _))

/-- A node of the list.  The description may be a null pointer. -/
structure DeviceNode where
  name : DeviceName
  description : Option (List Char)
  addresses : List PcapAddr
  deriving DecidableEq, Repr

/-- What `pcap_findalldevs` hands out.  After an error the list may be a null pointer. -/
inductive FindAllDevs
  | ok (devices : List DeviceNode)
  | failed (alldevs : Option (List DeviceNode))

/-- The devices that can be searched. -/
def FindAllDevs.devices : FindAllDevs → List DeviceNode
  | .ok devices => devices
  | .failed _ => []

namespace DeviceNode

/-- The device has the IPv4 address. -/
def HasIp (ip : HostAddress) (dev : DeviceNode) : Prop :=
  ∃ addr ∈ dev.addresses, addr.Matches ip

instance (ip : HostAddress) (dev : DeviceNode) : Decidable (dev.HasIp ip) :=
  inferInstanceAs (Decidable (∃ addr ∈ dev.addresses, addr.Matches ip))

/-- The device with its IPv4 addresses only. -/
def toPcapIf (dev : DeviceNode) : PcapIf where
  name := dev.name
  description := dev.description
  addresses := (dev.addresses.filter fun addr => addr.saFamily = afInet).map PcapAddr.sAddr

theorem mem_addresses_toPcapIf {ip : HostAddress} {dev : DeviceNode} :
    ip.toInt ∈ dev.toPcapIf.addresses ↔ dev.HasIp ip := by
  simp [toPcapIf, HasIp, PcapAddr.Matches, and_assoc]

end DeviceNode

/-! ### The search -/

/-- Computations on the list, which ask the registry on the way. -/
abbrev ListM := LentM Unit NpcapHelpers

/-- The body of the loop over the addresses of a device: whether the address matches. -/
def matchAddress (ip : HostAddress) (addr : PcapAddr) : ListM Bool := do
  let saFamily ← read () addr.saFamily
  if saFamily = afInet then do
    let sAddr ← read () addr.sAddr
    pure (decide (sAddr = ip.toInt))
  else pure false

/-- The loop over the addresses of a device, up to the first one that matches. -/
def searchAddresses (ip : HostAddress) : List PcapAddr → ListM Bool
  | [] => pure false
  | addr :: addresses => do
    let matched ← matchAddress ip addr
    if matched then pure true
    else do
      -- the pointer to the next address
      read () ()
      searchAddresses ip addresses

/-- The body of the loop over the devices, up to the match. -/
def matchDevice (registry : ℕ → Registry) (ip : HostAddress) (dev : DeviceNode) :
    ListM Bool := do
  let name ← read () dev.name
  let isLoopback ← act fun g => NpcapHelpers.isLoopbackDevice registry g name
  if isLoopback then pure false
  else do
    let addresses ← read () dev.addresses
    searchAddresses ip addresses

/-- The name and the description as strings. -/
def copyNames (dev : DeviceNode) : ListM (DeviceName × List Char) := do
  let name ← read () dev.name
  let description ← read () dev.description
  let description ← deref description
  pure (name, description)

/-- The loop over the devices, and the two places where the list is freed. -/
def searchDevices (registry : ℕ → Registry) (ip : HostAddress) :
    List DeviceNode → ListM (DeviceName × List Char)
  | [] => do
    giveBack ()
    pure ([], [])
  | dev :: devices => do
    let matched ← matchDevice registry ip dev
    if matched then do
      -- the list is freed before the name and the description are copied
      giveBack ()
      copyNames dev
    else do
      read () ()
      searchDevices registry ip devices

/-- `getDeviceByIp` -/
def getDeviceByIp (registry : ℕ → Registry) (ip : HostAddress) (alldevs : FindAllDevs) :
    ListM (DeviceName × List Char) :=
  if !ip.isValid then pure ([], [])
  else match alldevs with
    | .failed none => pure ([], [])
    | .failed (some _) => do
      lend ()
      giveBack ()
      pure ([], [])
    | .ok devices => do
      lend ()
      searchDevices registry ip devices

/-! ### What the search is for -/

/-- The devices that are not taken for the loopback device when they are asked for in list
order. -/
def adapters (registry : ℕ → Registry) : NpcapHelpers → List DeviceNode → List DeviceNode
  | _, [] => []
  | g, dev :: devices =>
    let (g, isLoopback) := NpcapHelpers.isLoopbackDevice registry g dev.name
    if isLoopback then adapters registry g devices else dev :: adapters registry g devices

/-- The first adapter with the address. -/
def firstAdapter (registry : ℕ → Registry) (g : NpcapHelpers) (ip : HostAddress)
    (devices : List DeviceNode) : Option DeviceNode :=
  (adapters registry g devices).find? fun dev => dev.HasIp ip

/-- The globals of `npcap_helpers.cpp` once the search has ended. -/
def afterSearch (registry : ℕ → Registry) (ip : HostAddress) :
    NpcapHelpers → List DeviceNode → NpcapHelpers
  | g, [] => g
  | g, dev :: devices =>
    let (g, isLoopback) := NpcapHelpers.isLoopbackDevice registry g dev.name
    if isLoopback = false ∧ dev.HasIp ip then g else afterSearch registry ip g devices

theorem firstAdapter_cons (registry : ℕ → Registry) (g : NpcapHelpers) (ip : HostAddress)
    (dev : DeviceNode) (devices : List DeviceNode) :
    firstAdapter registry g ip (dev :: devices) =
      if (NpcapHelpers.isLoopbackDevice registry g dev.name).2 = false ∧ dev.HasIp ip then some dev
      else firstAdapter registry (NpcapHelpers.isLoopbackDevice registry g dev.name).1 ip
        devices := by
  cases hloopback : (NpcapHelpers.isLoopbackDevice registry g dev.name).2 with
  | true => simp [firstAdapter, adapters, hloopback]
  | false => by_cases hip : dev.HasIp ip <;> simp [firstAdapter, adapters, hloopback, hip]

theorem afterSearch_cons (registry : ℕ → Registry) (ip : HostAddress) (g : NpcapHelpers)
    (dev : DeviceNode) (devices : List DeviceNode) :
    afterSearch registry ip g (dev :: devices) =
      if (NpcapHelpers.isLoopbackDevice registry g dev.name).2 = false ∧ dev.HasIp ip then
        (NpcapHelpers.isLoopbackDevice registry g dev.name).1
      else afterSearch registry ip (NpcapHelpers.isLoopbackDevice registry g dev.name).1
        devices := rfl

/-- The list is freed exactly once if it is handed out. -/
def FreedOnce (log : List (ResourceEvent Unit)) : Prop :=
  log.count (release ()) = log.count (acquire ()) ∧ log.count (acquire ()) ≤ 1

/-- **What the search is for**: it returns the first adapter with the address, or the empty
pair, it frees the list exactly once, and it reads no freed memory. -/
structure FindsDevice (registry : ℕ → Registry) (g : NpcapHelpers) (ip : HostAddress)
    (alldevs : FindAllDevs)
    (o : Except MemoryFault (DeviceName × List Char) × Lent Unit NpcapHelpers) : Prop where
  returns : ∃ r, o.1 = .ok r ∧
    match firstAdapter registry g ip alldevs.devices with
    | none => r = ([], [])
    | some dev => r.1 = dev.name ∧ ∀ description ∈ dev.description, r.2 = description
  freedOnce : FreedOnce o.2.log
  disciplined : Disciplined o.2.log

/-! ### The runs -/

variable {registry : ℕ → Registry} {ip : HostAddress}

theorem reads_matchAddress (ip : HostAddress) (addr : PcapAddr) {w : Lent Unit NpcapHelpers}
    (hlive : () ∈ live w.log) :
    ∃ w', w'.state = w.state ∧
      Reads () (matchAddress ip addr) w (decide (addr.Matches ip)) w' := by
  have hfamily := Reads.read hlive addr.saFamily
  by_cases hinet : addr.saFamily = afInet
  · have hlive' : () ∈ live (w.record (use ())).log := hlive
    have hsAddr := Reads.read hlive' addr.sAddr
    have hmatches : decide (addr.Matches ip) = decide (addr.sAddr = ip.toInt) := by
      simp [PcapAddr.Matches, hinet]
    refine ⟨(w.record (use ())).record (use ()), rfl, hfamily.bind ?_⟩
    rw [if_pos hinet, hmatches]
    exact hsAddr.bind (Reads.pure () _ _)
  · have hmatches : decide (addr.Matches ip) = false := by
      simp [PcapAddr.Matches, hinet]
    refine ⟨w.record (use ()), rfl, hfamily.bind ?_⟩
    rw [if_neg hinet, hmatches]
    exact Reads.pure () false _

/-- The loop over the addresses finds the address if it is there. -/
theorem reads_searchAddresses (ip : HostAddress) (addresses : List PcapAddr)
    {w : Lent Unit NpcapHelpers} (hlive : () ∈ live w.log) :
    ∃ w', w'.state = w.state ∧ Reads () (searchAddresses ip addresses) w
      (decide (∃ addr ∈ addresses, addr.Matches ip)) w' := by
  induction addresses generalizing w with
  | nil => exact ⟨w, rfl, Reads.pure () false w⟩
  | cons addr addresses ih =>
    obtain ⟨w', hstate, hmatch⟩ := reads_matchAddress ip addr hlive
    have hlive' : () ∈ live w'.log := hmatch.2.live_eq ▸ hlive
    by_cases hmatches : addr.Matches ip
    · refine ⟨w', hstate, hmatch.bind ?_⟩
      simpa [hmatches] using Reads.pure () true w'
    · have hnext := Reads.read hlive' ()
      obtain ⟨w'', hstate', hrest⟩ := ih (w := w'.record (use ())) hlive'
      refine ⟨w'', hstate'.trans hstate, hmatch.bind ?_⟩
      simpa [hmatches] using hnext.bind hrest

/-- A device matches if it is not taken for the loopback device and has the address. -/
theorem reads_matchDevice (registry : ℕ → Registry) (ip : HostAddress) (dev : DeviceNode)
    {w : Lent Unit NpcapHelpers} (hlive : () ∈ live w.log) :
    ∃ w', w'.state = (NpcapHelpers.isLoopbackDevice registry w.state dev.name).1 ∧
      Reads () (matchDevice registry ip dev) w
        (decide ((NpcapHelpers.isLoopbackDevice registry w.state dev.name).2 = false ∧
          dev.HasIp ip)) w' := by
  have hname := Reads.read hlive dev.name
  have hasked := Reads.act ()
    (fun g => NpcapHelpers.isLoopbackDevice registry g dev.name) (w.record (use ()))
  simp only [Lent.state_record] at hasked
  -- the world once the registry has been asked
  generalize hu : (⟨(NpcapHelpers.isLoopbackDevice registry w.state dev.name).1,
    (w.record (use ())).log⟩ : Lent Unit NpcapHelpers) = u at hasked
  have hstate : u.state = (NpcapHelpers.isLoopbackDevice registry w.state dev.name).1 := by
    rw [← hu]
  have hlive' : () ∈ live u.log := hasked.2.live_eq ▸ hlive
  cases hloopback : (NpcapHelpers.isLoopbackDevice registry w.state dev.name).2 with
  | true =>
    refine ⟨u, hstate, hname.bind (hasked.bind ?_)⟩
    simpa [hloopback] using Reads.pure () false u
  | false =>
    have haddresses := Reads.read hlive' dev.addresses
    obtain ⟨w', hstate', hsearch⟩ := reads_searchAddresses ip dev.addresses
      (w := u.record (use ())) hlive'
    refine ⟨w', hstate'.trans hstate, hname.bind (hasked.bind ?_)⟩
    simpa [hloopback, DeviceNode.HasIp] using haddresses.bind hsearch

/-- **The search**: it reads the list while it is there, frees it, and copies the names of
the first adapter with the address. -/
theorem exec_searchDevices (registry : ℕ → Registry) (ip : HostAddress)
    (devices : List DeviceNode) {w : Lent Unit NpcapHelpers} (hlive : () ∈ live w.log) :
    ∃ v, AfterReads () w v ∧ v.state = afterSearch registry ip w.state devices ∧
      exec (searchDevices registry ip devices) w = exec (do
        giveBack ()
        match firstAdapter registry w.state ip devices with
        | none => pure ([], [])
        | some dev => copyNames dev) v := by
  induction devices generalizing w with
  | nil => exact ⟨w, .refl () w, rfl, rfl⟩
  | cons dev devices ih =>
    obtain ⟨w', hstate, hmatch⟩ := reads_matchDevice registry ip dev hlive
    have hlive' : () ∈ live w'.log := hmatch.2.live_eq ▸ hlive
    unfold searchDevices
    rw [hmatch.exec_bind]
    by_cases hmatches : (NpcapHelpers.isLoopbackDevice registry w.state dev.name).2 = false ∧
      dev.HasIp ip
    · refine ⟨w', hmatch.2, ?_, ?_⟩
      · rw [afterSearch_cons, if_pos hmatches, hstate]
      · rw [firstAdapter_cons, if_pos hmatches, if_pos (by simpa using hmatches)]
    · have hnext := Reads.read hlive' ()
      obtain ⟨v, hreads, hafter, hrest⟩ := ih (w := w'.record (use ())) hlive'
      rw [Lent.state_record, hstate] at hafter hrest
      refine ⟨v, (hmatch.2.trans hnext.2).trans hreads, ?_, ?_⟩
      · rw [afterSearch_cons, if_neg hmatches, hafter]
      · rw [firstAdapter_cons, if_neg hmatches, if_neg (by simpa using hmatches),
          hnext.exec_bind, hrest]

/-- Without a match, the search returns the empty pair, and the list is freed last. -/
theorem exec_searchDevices_of_none {devices : List DeviceNode} {w : Lent Unit NpcapHelpers}
    (hlive : () ∈ live w.log) (hnone : firstAdapter registry w.state ip devices = none) :
    ∃ v, AfterReads () w v ∧ v.state = afterSearch registry ip w.state devices ∧
      exec (searchDevices registry ip devices) w = (.ok ([], []), v.record (release ())) := by
  obtain ⟨v, hreads, hafter, hexec⟩ := exec_searchDevices registry ip devices hlive
  refine ⟨v, hreads, hafter, ?_⟩
  rw [hexec, hnone]
  rfl

/-- With a match, the name is read from the freed list. -/
theorem exec_searchDevices_of_match {devices : List DeviceNode} {w : Lent Unit NpcapHelpers}
    (hlive : live w.log = [()]) {dev : DeviceNode}
    (hfirst : firstAdapter registry w.state ip devices = some dev) :
    ∃ v, AfterReads () w v ∧ v.state = afterSearch registry ip w.state devices ∧
      exec (searchDevices registry ip devices) w =
        (.error .notLive, (v.record (release ())).record (use ())) := by
  obtain ⟨v, hreads, hafter, hexec⟩ := exec_searchDevices registry ip devices (w := w)
    (by simp [hlive])
  have hdead : () ∉ live (v.record (release ())).log := by
    show () ∉ (live v.log).erase ()
    simp [hreads.live_eq, hlive]
  refine ⟨v, hreads, hafter, ?_⟩
  rw [hexec, hfirst]
  simp only [LentM.exec_bind, exec_giveBack]
  unfold copyNames
  rw [LentM.exec_bind, exec_read_of_not_live hdead]

/-! ### Exactly when it finds the device -/

theorem firstAdapter_eq_none_iff {g : NpcapHelpers} {devices : List DeviceNode} :
    firstAdapter registry g ip devices = none ↔
      ∀ dev ∈ adapters registry g devices, ¬dev.HasIp ip := by
  simp [firstAdapter]

/-- The outcome of `getDeviceByIp` on a list that has not been touched. -/
def runGetDeviceByIp (registry : ℕ → Registry) (g : NpcapHelpers) (ip : HostAddress)
    (alldevs : FindAllDevs) :
    Except MemoryFault (DeviceName × List Char) × Lent Unit NpcapHelpers :=
  exec (getDeviceByIp registry ip alldevs) ⟨g, []⟩

section Valid

variable {g : NpcapHelpers} (hvalid : ip.isValid = true)

include hvalid

theorem runGetDeviceByIp_failed (devices : List DeviceNode) :
    runGetDeviceByIp registry g ip (.failed none) = (.ok ([], []), ⟨g, []⟩) ∧
      runGetDeviceByIp registry g ip (.failed (some devices)) =
        (.ok ([], []), ⟨g, [release (), acquire ()]⟩) := by
  unfold runGetDeviceByIp getDeviceByIp
  rw [hvalid]
  exact ⟨rfl, rfl⟩

theorem runGetDeviceByIp_ok (devices : List DeviceNode) :
    runGetDeviceByIp registry g ip (.ok devices) =
      exec (searchDevices registry ip devices) ⟨g, [acquire ()]⟩ := by
  unfold runGetDeviceByIp getDeviceByIp
  rw [hvalid]
  rfl

/-- **The list is freed exactly once on every path.** -/
theorem freedOnce_runGetDeviceByIp (registry : ℕ → Registry) (g : NpcapHelpers)
    (alldevs : FindAllDevs) :
    FreedOnce (runGetDeviceByIp registry g ip alldevs).2.log := by
  have hrun : ∀ v, AfterReads () (⟨g, [acquire ()]⟩ : Lent Unit NpcapHelpers) v →
      FreedOnce (v.record (release ())).log ∧
        FreedOnce ((v.record (release ())).record (use ())).log := by
    intro v hreads
    have hreleases := hreads.count_eq (e := release ()) (by decide)
    have hacquires := hreads.count_eq (e := acquire ()) (by decide)
    simp [FreedOnce, hreleases, hacquires]
  have hlive : () ∈ live (⟨g, [acquire ()]⟩ : Lent Unit NpcapHelpers).log := List.mem_cons_self
  cases alldevs with
  | failed alldevs =>
    cases alldevs with
    | none => simp [(runGetDeviceByIp_failed hvalid []).1, FreedOnce]
    | some devices => simp [(runGetDeviceByIp_failed hvalid devices).2, FreedOnce]
  | ok devices =>
    rw [runGetDeviceByIp_ok hvalid]
    cases hfirst : firstAdapter registry g ip devices with
    | none =>
      obtain ⟨v, hreads, -, hexec⟩ := exec_searchDevices_of_none hlive hfirst
      rw [hexec]
      exact (hrun v hreads).1
    | some dev =>
      obtain ⟨v, hreads, -, hexec⟩ := exec_searchDevices_of_match
        (w := ⟨g, [acquire ()]⟩) rfl hfirst
      rw [hexec]
      exact (hrun v hreads).2

/-- Without a match, the search does what it is for. -/
theorem findsDevice_of_none {devices : List DeviceNode}
    (hnone : firstAdapter registry g ip devices = none) :
    FindsDevice registry g ip (.ok devices) (runGetDeviceByIp registry g ip (.ok devices)) := by
  have hlive : () ∈ live (⟨g, [acquire ()]⟩ : Lent Unit NpcapHelpers).log := List.mem_cons_self
  obtain ⟨v, hreads, -, hexec⟩ := exec_searchDevices_of_none hlive hnone
  have hdisciplined := hreads.disciplined hlive (by simp [Disciplined])
  have hfreed := freedOnce_runGetDeviceByIp hvalid registry g (.ok devices)
  rw [runGetDeviceByIp_ok hvalid, hexec] at hfreed ⊢
  refine ⟨⟨_, rfl, ?_⟩, hfreed, hreads.live_eq ▸ hlive, hdisciplined⟩
  show match firstAdapter registry g ip devices with
    | none => (([], []) : DeviceName × List Char) = ([], [])
    | some dev => _
  rw [hnone]

/-- A match is never returned. -/
theorem not_findsDevice_of_match {devices : List DeviceNode} {dev : DeviceNode}
    (hfirst : firstAdapter registry g ip devices = some dev) :
    ¬FindsDevice registry g ip (.ok devices)
      (runGetDeviceByIp registry g ip (.ok devices)) := by
  obtain ⟨v, hreads, -, hexec⟩ := exec_searchDevices_of_match
    (w := ⟨g, [acquire ()]⟩) rfl hfirst
  rw [runGetDeviceByIp_ok hvalid, hexec]
  intro hfinds
  obtain ⟨r, hr, -⟩ := hfinds.returns
  cases hr

end Valid

/-- **The search does what it is for exactly if there is nothing to find**: no device
that is not taken for the loopback device has the address. -/
theorem finds_device_iff (registry : ℕ → Registry) (g : NpcapHelpers) (ip : HostAddress)
    (alldevs : FindAllDevs) (hvalid : ip.isValid = true) :
    FindsDevice registry g ip alldevs (runGetDeviceByIp registry g ip alldevs) ↔
      ∀ dev ∈ adapters registry g alldevs.devices, ¬dev.HasIp ip := by
  rw [← firstAdapter_eq_none_iff]
  cases alldevs with
  | failed alldevs =>
    have hnone : firstAdapter registry g ip [] = none := rfl
    refine ⟨fun _ => hnone, fun _ => ?_⟩
    have hfreed := freedOnce_runGetDeviceByIp hvalid registry g (.failed alldevs)
    cases alldevs with
    | none =>
      rw [(runGetDeviceByIp_failed hvalid []).1] at hfreed ⊢
      exact ⟨⟨_, rfl, rfl⟩, hfreed, trivial⟩
    | some devices =>
      rw [(runGetDeviceByIp_failed hvalid devices).2] at hfreed ⊢
      exact ⟨⟨_, rfl, rfl⟩, hfreed, by simp [Disciplined, live]⟩
  | ok devices =>
    show _ ↔ firstAdapter registry g ip devices = none
    cases hfirst : firstAdapter registry g ip devices with
    | none => simp [findsDevice_of_none hvalid hfirst]
    | some dev => simp [not_findsDevice_of_match hvalid hfirst]

/-- An adapter with the address 10.0.0.1. -/
def ethernetAdapter : DeviceNode :=
  ⟨"eth".toList, some "Ethernet".toList, [⟨afInet, 0x0100000A⟩]⟩

/-- The adapter does not have the address 127.0.0.1. -/
theorem finds_device_nowhere :
    FindsDevice (fun _ => .missing) .initial .localHost (.ok [ethernetAdapter])
      (runGetDeviceByIp (fun _ => .missing) .initial .localHost (.ok [ethernetAdapter])) :=
  (finds_device_iff _ _ _ _ rfl).mpr (by decide +kernel)

/-- The name of the adapter is read from the list that has been freed. -/
theorem adapter_read_after_free :
    let ip := HostAddress.ofInt 0x0100000A
    let o := runGetDeviceByIp (fun _ => .missing) .initial ip (.ok [ethernetAdapter])
    firstAdapter (fun _ => .missing) .initial ip [ethernetAdapter] = some ethernetAdapter ∧
      o.1 = .error .notLive ∧ o.2.log.take 2 = [use (), release ()] ∧
        ¬FindsDevice (fun _ => .missing) .initial ip (.ok [ethernetAdapter]) o := by
  have hfirst : firstAdapter (fun _ => .missing) .initial (.ofInt 0x0100000A) [ethernetAdapter] =
      some ethernetAdapter := by
    decide +kernel
  exact ⟨hfirst, by decide +kernel, by decide +kernel, not_findsDevice_of_match rfl hfirst⟩

/-! ### The search of the socket -/

namespace World

variable {R : Type} (np : Npcap)

theorem findDevice_cons (ip : HostAddress) (dev : DeviceNode) (devices : List PcapIf)
    (w : World R) :
    let u := { w with helpers := (NpcapHelpers.isLoopbackDevice np.registry w.helpers dev.name).1 }
    w.findDevice np ip (dev.toPcapIf :: devices) =
      if (NpcapHelpers.isLoopbackDevice np.registry w.helpers dev.name).2 = false ∧
          dev.HasIp ip then (u, deviceNames dev.toPcapIf)
      else u.findDevice np ip devices := by
  intro u
  show (if (NpcapHelpers.isLoopbackDevice np.registry w.helpers dev.name).2 = true then
      u.findDevice np ip devices
    else if ip.toInt ∈ dev.toPcapIf.addresses then (u, deviceNames dev.toPcapIf)
    else u.findDevice np ip devices) = _
  simp only [DeviceNode.mem_addresses_toPcapIf]
  cases hloopback : (NpcapHelpers.isLoopbackDevice np.registry w.helpers dev.name).2 with
  | true => simp
  | false => simp

/-- The search of the socket returns what the list holds while it is there. -/
theorem findDevice_eq (ip : HostAddress) (devices : List DeviceNode) (w : World R) :
    (w.findDevice np ip (devices.map DeviceNode.toPcapIf)).1.helpers =
        afterSearch np.registry ip w.helpers devices ∧
      (w.findDevice np ip (devices.map DeviceNode.toPcapIf)).2 =
        match firstAdapter np.registry w.helpers ip devices with
        | none => some ([], [])
        | some dev => deviceNames dev.toPcapIf := by
  induction devices generalizing w with
  | nil => exact ⟨rfl, rfl⟩
  | cons dev devices ih =>
    rw [List.map_cons, findDevice_cons, firstAdapter_cons, afterSearch_cons]
    by_cases hmatches : (NpcapHelpers.isLoopbackDevice np.registry w.helpers dev.name).2 = false ∧
      dev.HasIp ip
    · simp [hmatches]
    · rw [if_neg hmatches, if_neg hmatches, if_neg hmatches]
      exact ih _

/-- **Without a match, the search on the list is that of the socket**: the result and the
globals are the same. -/
theorem getDeviceByIp_of_none {ip : HostAddress} (hvalid : ip.isValid = true)
    {devices : List DeviceNode} (w : World R)
    (hnone : firstAdapter np.registry w.helpers ip devices = none) :
    ∃ log, runGetDeviceByIp np.registry w.helpers ip (.ok devices) =
      (.ok ([], []), ⟨(w.getDeviceByIp np (some (devices.map DeviceNode.toPcapIf)) ip).1.helpers,
        log⟩) ∧
      (w.getDeviceByIp np (some (devices.map DeviceNode.toPcapIf)) ip).2 = some ([], []) := by
  obtain ⟨hhelpers, hresult⟩ := findDevice_eq np ip devices w
  obtain ⟨v, -, hafter, hexec⟩ := exec_searchDevices_of_none
    (w := ⟨w.helpers, [acquire ()]⟩) List.mem_cons_self hnone
  unfold getDeviceByIp
  rw [hvalid, runGetDeviceByIp_ok hvalid, hexec]
  refine ⟨release () :: v.log, ?_, ?_⟩
  · show _ = (_, (⟨(w.findDevice np ip (devices.map DeviceNode.toPcapIf)).1.helpers, _⟩ : Lent _ _))
    rw [hhelpers, ← hafter]
    rfl
  · show (w.findDevice np ip (devices.map DeviceNode.toPcapIf)).2 = _
    rw [hresult, hnone]

/-- **With a match, the search on the list ends with the read from the freed list**, and that
of the socket returns what the list held: the globals are the same. -/
theorem getDeviceByIp_of_match {ip : HostAddress} (hvalid : ip.isValid = true)
    {devices : List DeviceNode} (w : World R) {dev : DeviceNode}
    (hfirst : firstAdapter np.registry w.helpers ip devices = some dev) :
    ∃ log, runGetDeviceByIp np.registry w.helpers ip (.ok devices) =
      (.error .notLive,
        ⟨(w.getDeviceByIp np (some (devices.map DeviceNode.toPcapIf)) ip).1.helpers, log⟩) ∧
      (w.getDeviceByIp np (some (devices.map DeviceNode.toPcapIf)) ip).2 =
        dev.description.map fun description => (dev.name, description) := by
  obtain ⟨hhelpers, hresult⟩ := findDevice_eq np ip devices w
  obtain ⟨v, -, hafter, hexec⟩ := exec_searchDevices_of_match
    (w := ⟨w.helpers, [acquire ()]⟩) rfl hfirst
  unfold getDeviceByIp
  rw [hvalid, runGetDeviceByIp_ok hvalid, hexec]
  refine ⟨use () :: release () :: v.log, ?_, ?_⟩
  · show _ = (_, (⟨(w.findDevice np ip (devices.map DeviceNode.toPcapIf)).1.helpers, _⟩ : Lent _ _))
    rw [hhelpers, ← hafter]
    rfl
  · show (w.findDevice np ip (devices.map DeviceNode.toPcapIf)).2 = _
    rw [hresult, hfirst]
    rfl

end World

end Udpcap
