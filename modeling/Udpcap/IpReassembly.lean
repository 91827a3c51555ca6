import Mathlib.Data.List.AList
import Udpcap.Foundation.EraseLoop
import Udpcap.Pcpp

/-!
# The reassembly wrapper

`IpReassembly` of `ip_reassembly.cpp`: a `pcpp::IPReassembly` together with a
timestamp for every package in it, by which packages are dropped that have not
received a fragment for too long.

## Main definitions

* `IpReassembly` — the object.
* `removeOldPackages`, `onFragmentsCleanCallback`, `processPacket` — its methods.
* `Undefined` — the two ways a call can have undefined behaviour.

Times are readings of the steady clock in nanoseconds.
-/

namespace Udpcap

/-- The value type of `timestamp_map_`, keyed by the hash value. -/
abbrev TimestampMap := AList fun _ : Int32 => PacketKey × Int

/-- An entry of `timestamp_map_`. -/
abbrev TimestampEntry := Sigma fun _ : Int32 => PacketKey × Int

/-- The order in which an unordered map iterates: any permutation of the entries. -/
structure IterOrder where
  visit : List TimestampEntry → List TimestampEntry
  visit_perm : ∀ l, (visit l).Perm l

/-- From the newest entry to the oldest. -/
def IterOrder.newestFirst : IterOrder := ⟨id, fun _ => List.Perm.refl _⟩

/-- From the oldest entry to the newest. -/
def IterOrder.oldestFirst : IterOrder := ⟨List.reverse, fun l => l.reverse_perm⟩

/-- What is written to `std::cerr`. -/
inductive Diagnostic
  /-- The two stores are out of sync. -/
  | outOfSync (currentCapacity mapSize : ℕ)
  /-- Pcap++ deleted a fragment that the wrapper did not know anything about. -/
  | unknownFragment (key : PacketKey)
  deriving DecidableEq, Repr

/-- `IpReassembly`, with everything it has written to `std::cerr`. -/
structure IpReassembly (R : Type) where
  maxPackageAge : Int
  ipReassembly : R
  timestampMap : TimestampMap
  diagnostics : List Diagnostic

/-- The environment of one `processPacket` call: the two readings of the clock
and the order in which the map iterates. -/
structure ProcessEnv where
  /-- The clock in `removeOldPackages`. -/
  now : Int
  /-- The clock in `updatePackageInTimestampMap`. -/
  updateNow : Int
  order : IterOrder

/-- A call at a time. -/
def ProcessEnv.at (time : Int) (order : IterOrder) : ProcessEnv := ⟨time, time, order⟩

/-- Where a call has undefined behaviour, with the object at that moment. -/
inductive Undefined (R : Type)
  /-- The loop of `removeOldPackages` incremented the end iterator. -/
  | endIncremented (s : IpReassembly R)
  /-- A null pointer returned by `getPacketKey` was dereferenced. -/
  | nullPacketKey (s : IpReassembly R)

/-- `getPacketKey`: IPv4 first; IPv6 only with a fragmentation header. -/
def getPacketKey (packet : Packet) : Option PacketKey :=
  match packet.ipv4Layer with
  | some ipv4Layer =>
    some (.ipv4 (ntohs ipv4Layer.ipId) ipv4Layer.srcIPv4Address ipv4Layer.dstIPv4Address)
  | none =>
    match packet.ipv6Layer with
    | some ipv6Layer =>
      match ipv6Layer.fragHeaderId with
      | some id => some (.ipv6 (ntohl id) ipv6Layer.srcIPv6Address ipv6Layer.dstIPv6Address)
      | none => none
    | none => none

/-- The wrapper computes the key that Pcap++ files a fragment under. -/
theorem getPacketKey_of_fragmentKey {p : Packet} {k : PacketKey}
    (h : IPReassembly.fragmentKey p = some k) : getPacketKey p = some k := by
  unfold IPReassembly.fragmentKey at h
  unfold getPacketKey
  cases hip : p.ipv4Layer with
  | some ip =>
    rw [hip] at h
    simp only at h ⊢
    split at h
    · exact h
    · cases h
  | none =>
    rw [hip] at h
    cases hip6 : p.ipv6Layer with
    | none => rw [hip6] at h; cases h
    | some ip =>
      rw [hip6] at h
      simp only at h ⊢
      cases hid : ip.fragHeaderId with
      | none => rw [hid] at h; cases h
      | some id => rw [hid] at h; exact h

namespace IpReassembly

variable {R : Type} (pcpp : Pcpp) (api : IPReassembly R)

/-- The constructor. -/
def create (maxPackageAge : Int) (maxPacketsToStore : ℕ) : IpReassembly R :=
  ⟨maxPackageAge, api.create maxPacketsToStore, ∅, []⟩

/-- The key type of `timestamp_map_` is `int32_t`. -/
def hashKey (key : PacketKey) : Int32 := (pcpp.getHashValue key).toInt32

/-! ### Dropping old packages -/

/-- `package_timestamp_it->second.second < (now - max_package_age_)` -/
def isExpired (maxPackageAge now : Int) (e : TimestampEntry) : Bool :=
  decide (e.2.2 < now - maxPackageAge)

/-- The loop of `removeOldPackages`. -/
def removeOldLoop (s : IpReassembly R) (env : ProcessEnv) :
    Foundation.Sweep R TimestampEntry :=
  Foundation.sweep (isExpired s.maxPackageAge env.now) (fun r e => api.removePacket r e.2.1)
    s.ipReassembly (env.order.visit s.timestampMap.entries)

theorem nodupKeys_removeOldLoop (s : IpReassembly R) (env : ProcessEnv) :
    (removeOldLoop api s env).kept.NodupKeys := by
  have hperm := (Foundation.sweep_perm (isExpired s.maxPackageAge env.now)
    (fun r e => api.removePacket r e.2.1) s.ipReassembly
    (env.order.visit s.timestampMap.entries)).trans (env.order.visit_perm _)
  have hall := (List.perm_nodupKeys hperm).mpr s.timestampMap.nodupKeys
  exact hall.sublist (List.sublist_append_right _ _)

/-- The object after the loop. -/
def afterLoop (s : IpReassembly R) (env : ProcessEnv) : IpReassembly R :=
  { s with
    ipReassembly := (removeOldLoop api s env).state
    timestampMap := ⟨(removeOldLoop api s env).kept, nodupKeys_removeOldLoop api s env⟩ }

/-- `removeOldPackages` -/
def removeOldPackages (s : IpReassembly R) (env : ProcessEnv) :
    Except (Undefined R) (IpReassembly R) :=
  let t := afterLoop api s env
  if (removeOldLoop api s env).pastEnd then .error (.endIncremented t)
  else
    let mapSize := t.timestampMap.entries.length
    let capacity := api.getCurrentCapacity t.ipReassembly
    .ok (if mapSize ≠ capacity then
      { t with diagnostics := t.diagnostics ++ [.outOfSync capacity mapSize] } else t)

/-! ### The timestamp map -/

/-- `removePackageFromTimestampMap` -/
def removePackageFromTimestampMap (s : IpReassembly R) (key : PacketKey) : IpReassembly R :=
  { s with timestampMap := s.timestampMap.erase (hashKey pcpp key) }

/-- `updatePackageInTimestampMap`: an existing entry keeps its key object. -/
def updatePackageInTimestampMap (s : IpReassembly R) (env : ProcessEnv) (key : PacketKey) :
    IpReassembly R :=
  let held := match s.timestampMap.lookup (hashKey pcpp key) with
    | some (known, _) => known
    | none => key
  { s with timestampMap := s.timestampMap.insert (hashKey pcpp key) (held, env.updateNow) }

/-- `onFragmentsCleanCallback` -/
def onFragmentsCleanCallback (s : IpReassembly R) (key : PacketKey) : IpReassembly R :=
  if hashKey pcpp key ∈ s.timestampMap then
    { s with timestampMap := s.timestampMap.erase (hashKey pcpp key) }
  else { s with diagnostics := s.diagnostics ++ [.unknownFragment key] }

/-! ### Processing -/

/-- The part of `processPacket` that follows the expiry.  The callback only touches
the map, which Pcap++ does not read, so it is run when Pcap++ has returned. -/
def reassemble (s : IpReassembly R) (env : ProcessEnv) (fragment : Packet) :
    Except (Undefined R) (IpReassembly R × Option RawPacket × ReassemblyStatus) :=
  let o := api.processPacket s.ipReassembly fragment
  let s := o.cleaned.foldl (onFragmentsCleanCallback pcpp) { s with ipReassembly := o.object }
  if o.status.isReassembled then
    match getPacketKey fragment with
    | none => .error (.nullPacketKey s)
    | some key => .ok (removePackageFromTimestampMap pcpp s key, o.packet, o.status)
  else if o.status.isStored then
    match getPacketKey fragment with
    | none => .error (.nullPacketKey s)
    | some key => .ok (updatePackageInTimestampMap pcpp s env key, o.packet, o.status)
  else .ok (s, o.packet, o.status)

/-- `processPacket(pcpp::Packet*, ..)` -/
def processPacket (s : IpReassembly R) (env : ProcessEnv) (fragment : Packet) :
    Except (Undefined R) (IpReassembly R × Option RawPacket × ReassemblyStatus) := do
  let s ← removeOldPackages api s env
  reassemble pcpp api s env fragment

/-- `processPacket(pcpp::RawPacket*, ..)` -/
def processRawPacket (s : IpReassembly R) (env : ProcessEnv) (fragment : RawPacket) :
    Except (Undefined R) (IpReassembly R × Option RawPacket × ReassemblyStatus) :=
  processPacket pcpp api s env (pcpp.parse .unknownProtocol fragment)

end IpReassembly

end Udpcap
