import Udpcap.IpReassembly
import Udpcap.SmallPcpp

/-!
# The two stores of the reassembly wrapper are in sync

`timestamp_map_` and the wrapped `pcpp::IPReassembly` are updated on four paths:
expiry, eviction through the callback, completion and refresh.  Between calls they
hold the same key hashes.  The loop of `removeOldPackages` may skip an entry or
increment the end iterator, but whatever it erases it erases from both.

## Main definitions

* `InSync` — the invariant.
* `processAll` — a sequence of `processPacket` calls.

## Main results

* `InSync.afterLoop`, `InSync.processPacket` — the loop and the call preserve the
  invariant.
* `processAll_in_sync` — **the stores hold the same keys after every sequence of
  calls**, nothing is ever reported, and no null key is dereferenced.
-/

namespace Udpcap

namespace IpReassembly

variable {R : Type} {pcpp : Pcpp} {api : IPReassembly R} {view : IPReassembly.View R}
  {maxPackets : ℕ}

theorem toInt32_inj {a b : UInt32} : a.toInt32 = b.toInt32 ↔ a = b := by
  constructor
  · intro h
    have := congrArg Int32.toUInt32 h
    simpa using this
  · rintro rfl
    rfl

/-! ### The invariant -/

/-- The keys of a timestamp map are the hashes in `stored`, and every entry is
filed under the hash of the key object that it holds. -/
structure Mirrors (pcpp : Pcpp) (stored : Finset UInt32) (m : TimestampMap) : Prop where
  mem_iff : ∀ h : UInt32, h ∈ stored ↔ h.toInt32 ∈ m
  entry_key : ∀ e ∈ m.entries, e.1 = hashKey pcpp e.2.1

namespace Mirrors

variable {stored : Finset UInt32} {m : TimestampMap}

/-- The keys of the map are the stored hashes. -/
theorem keys_eq (h : Mirrors pcpp stored m) :
    m.keys.toFinset = stored.image UInt32.toInt32 := by
  ext k
  rw [List.mem_toFinset, AList.mem_keys.symm, Finset.mem_image]
  constructor
  · intro hk
    refine ⟨k.toUInt32, (h.mem_iff _).mpr ?_, by simp⟩
    simpa using hk
  · rintro ⟨a, ha, rfl⟩
    exact (h.mem_iff a).mp ha

/-- The two stores have the same size. -/
theorem length_eq (h : Mirrors pcpp stored m) : m.entries.length = stored.card := by
  have hcard := congrArg Finset.card h.keys_eq
  rw [Finset.card_image_of_injective _ fun _ _ hab => toInt32_inj.mp hab,
    List.toFinset_card_of_nodup m.keys_nodup] at hcard
  rw [← hcard]
  simp [AList.keys, List.keys]

/-- Dropping a key from both stores. -/
theorem erase (h : Mirrors pcpp stored m) (key : PacketKey) :
    Mirrors pcpp (stored.erase (pcpp.getHashValue key)) (m.erase (hashKey pcpp key)) := by
  refine ⟨?_, ?_⟩
  · intro a
    rw [Finset.mem_erase, AList.mem_erase, h.mem_iff, hashKey, Ne, Ne, toInt32_inj]
  · intro e he
    exact h.entry_key e ((List.kerase_sublist _ _).subset he)

/-- Refreshing or adding a key in both stores. -/
theorem update {s : IpReassembly R} (h : Mirrors pcpp stored s.timestampMap) (env : ProcessEnv)
    (key : PacketKey) :
    Mirrors pcpp (insert (pcpp.getHashValue key) stored)
      (updatePackageInTimestampMap pcpp s env key).timestampMap := by
  unfold updatePackageInTimestampMap
  simp only
  -- the key object held by the map has the hash that it is filed under
  have hheld : ∀ held t, s.timestampMap.lookup (hashKey pcpp key) = some (held, t) →
      hashKey pcpp key = hashKey pcpp held := by
    intro held t hl
    exact h.entry_key _ (AList.mem_lookup_iff.mp hl)
  refine ⟨?_, ?_⟩
  · intro a
    rw [Finset.mem_insert, AList.mem_insert, h.mem_iff, hashKey, toInt32_inj]
  · intro e he
    rw [AList.entries_insert, List.mem_cons] at he
    rcases he with rfl | he
    · simp only
      cases hl : s.timestampMap.lookup (hashKey pcpp key) with
      | none => rfl
      | some kt => exact hheld kt.1 kt.2 hl
    · exact h.entry_key e ((List.kerase_sublist _ _).subset he)

end Mirrors

/-- The two stores hold the same key hashes, within the capacity, and no
inconsistency has been reported. -/
structure InSync (pcpp : Pcpp) (view : IPReassembly.View R) (maxPackets : ℕ)
    (s : IpReassembly R) : Prop where
  wellFormed : view.wellFormed s.ipReassembly
  mirrors : Mirrors pcpp (view.storedHashes s.ipReassembly) s.timestampMap
  card_le : (view.storedHashes s.ipReassembly).card ≤ maxPackets
  quiet : s.diagnostics = []

/-- A new object has nothing in either store. -/
theorem InSync.create (hspec : api.Spec view pcpp.getHashValue maxPackets)
    (maxPackageAge : Int) :
    InSync pcpp view maxPackets (create api maxPackageAge maxPackets) := by
  have hempty := hspec.create_stored
  refine ⟨hspec.create_wellFormed, ⟨?_, ?_⟩, ?_, rfl⟩
  · intro a
    unfold IpReassembly.create
    simp only
    rw [hempty]
    simp
  · intro e he
    cases he
  · unfold IpReassembly.create
    simp only
    rw [hempty]
    simp

/-! ### Dropping old packages -/

theorem wellFormed_foldl (hspec : api.Spec view pcpp.getHashValue maxPackets)
    (es : List TimestampEntry) {r : R} (hr : view.wellFormed r) :
    view.wellFormed (es.foldl (fun r e => api.removePacket r e.2.1) r) := by
  induction es generalizing r with
  | nil => exact hr
  | cons e es ih => exact ih (hspec.remove_wellFormed r e.2.1 hr)

/-- Removing a list of packages removes their key hashes. -/
theorem mem_stored_foldl (hspec : api.Spec view pcpp.getHashValue maxPackets)
    (es : List TimestampEntry) {r : R} (hr : view.wellFormed r) (h : UInt32) :
    h ∈ view.storedHashes (es.foldl (fun r e => api.removePacket r e.2.1) r) ↔
      h ∈ view.storedHashes r ∧ ∀ e ∈ es, pcpp.getHashValue e.2.1 ≠ h := by
  induction es generalizing r with
  | nil => simp
  | cons e es ih =>
    rw [List.foldl_cons, ih (hspec.remove_wellFormed r e.2.1 hr),
      hspec.remove_stored r e.2.1 hr, Finset.mem_erase, List.forall_mem_cons]
    constructor
    · rintro ⟨⟨hne, hmem⟩, hes⟩
      exact ⟨hmem, Ne.symm hne, hes⟩
    · rintro ⟨hmem, hne, hes⟩
      exact ⟨⟨Ne.symm hne, hmem⟩, hes⟩

/-- What the loop erases and what it keeps are the entries of the map. -/
theorem removeOldLoop_perm (api : IPReassembly R) (s : IpReassembly R) (env : ProcessEnv) :
    ((removeOldLoop api s env).erased ++ (removeOldLoop api s env).kept).Perm
      s.timestampMap.entries :=
  (Foundation.sweep_perm _ _ _ _).trans (env.order.visit_perm _)

/-- Pcap++ is told to remove what the loop erases. -/
theorem removeOldLoop_state (api : IPReassembly R) (s : IpReassembly R) (env : ProcessEnv) :
    (removeOldLoop api s env).state =
      (removeOldLoop api s env).erased.foldl (fun r e => api.removePacket r e.2.1)
        s.ipReassembly :=
  Foundation.sweep_state _ _ _ _

/-- **The loop keeps the stores in sync**, whichever entries it skips and even if
it increments the end iterator. -/
theorem InSync.afterLoop (hspec : api.Spec view pcpp.getHashValue maxPackets)
    {s : IpReassembly R} (h : InSync pcpp view maxPackets s) (env : ProcessEnv) :
    InSync pcpp view maxPackets (afterLoop api s env) := by
  have hperm := removeOldLoop_perm api s env
  have hstate := removeOldLoop_state api s env
  unfold IpReassembly.afterLoop
  generalize nodupKeys_removeOldLoop api s env = hkept
  generalize removeOldLoop api s env = o at hperm hstate hkept ⊢
  have hnodup : (o.erased ++ o.kept).NodupKeys :=
    (List.perm_nodupKeys hperm).mpr s.timestampMap.nodupKeys
  have herased : ∀ e ∈ o.erased, e.1 = hashKey pcpp e.2.1 := fun e he =>
    h.mirrors.entry_key e (hperm.subset (List.mem_append_left _ he))
  have hmem : ∀ a : UInt32, a ∈ view.storedHashes o.state ↔ a.toInt32 ∈ o.kept.keys := by
    intro a
    have hsplit : a.toInt32 ∈ s.timestampMap ↔ a.toInt32 ∈ o.erased.keys ∨
        a.toInt32 ∈ o.kept.keys := by
      rw [AList.mem_keys, AList.keys, List.keys, ← (hperm.map Sigma.fst).mem_iff, List.map_append,
        List.mem_append]
    -- the hash of an erased entry is gone from both sides
    have hgone : (∀ e ∈ o.erased, pcpp.getHashValue e.2.1 ≠ a) ↔ a.toInt32 ∉ o.erased.keys := by
      rw [List.keys, List.mem_map]
      constructor
      · rintro hne ⟨e, he, hea⟩
        exact hne e he (toInt32_inj.mp ((herased e he).symm.trans hea))
      · intro hno e he hea
        exact hno ⟨e, he, by rw [herased e he, hashKey, hea]⟩
    have hdisj : a.toInt32 ∈ o.kept.keys → a.toInt32 ∉ o.erased.keys := by
      intro hk he
      rw [List.NodupKeys, List.keys, List.map_append] at hnodup
      exact (List.nodup_append'.mp hnodup).2.2 he hk
    rw [hstate, mem_stored_foldl hspec _ h.wellFormed, h.mirrors.mem_iff, hsplit, hgone]
    constructor
    · rintro ⟨hor, hno⟩
      exact hor.resolve_left hno
    · intro hk
      exact ⟨Or.inr hk, hdisj hk⟩
  refine ⟨?_, ⟨hmem, ?_⟩, ?_, h.quiet⟩
  · simp only
    rw [hstate]
    exact wellFormed_foldl hspec _ h.wellFormed
  · intro e he
    exact h.mirrors.entry_key e (hperm.subset (List.mem_append_right _ he))
  · refine le_trans (Finset.card_le_card ?_) h.card_le
    intro a ha
    rw [hstate, mem_stored_foldl hspec _ h.wellFormed] at ha
    exact ha.1

/-- `removeOldPackages` keeps the stores in sync and reports nothing. -/
theorem InSync.removeOldPackages (hspec : api.Spec view pcpp.getHashValue maxPackets)
    {s : IpReassembly R} (h : InSync pcpp view maxPackets s) (env : ProcessEnv) :
    removeOldPackages api s env = .error (.endIncremented (IpReassembly.afterLoop api s env)) ∨
      removeOldPackages api s env = .ok (IpReassembly.afterLoop api s env) := by
  have ht := h.afterLoop hspec env
  unfold IpReassembly.removeOldPackages
  simp only
  split
  · exact Or.inl rfl
  · right
    rw [if_neg]
    rw [hspec.currentCapacity _ ht.wellFormed, ht.mirrors.length_eq]
    simp

/-! ### One call -/

/-- The callback finds the evicted key. -/
theorem onFragmentsCleanCallback_of_mem {s : IpReassembly R} {stored : Finset UInt32}
    (h : Mirrors pcpp stored s.timestampMap) {old : PacketKey}
    (hold : pcpp.getHashValue old ∈ stored) :
    onFragmentsCleanCallback pcpp s old =
      { s with timestampMap := s.timestampMap.erase (hashKey pcpp old) } :=
  if_pos ((h.mem_iff _).mp hold)

/-- Filing a fragment under its key, when Pcap++ has stored it. -/
theorem InSync.of_stored {u : IpReassembly R} {stored : Finset UInt32} {key : PacketKey}
    (hwf : view.wellFormed u.ipReassembly) (hm : Mirrors pcpp stored u.timestampMap)
    (hquiet : u.diagnostics = [])
    (hstored : view.storedHashes u.ipReassembly = insert (pcpp.getHashValue key) stored)
    (hcard : (insert (pcpp.getHashValue key) stored).card ≤ maxPackets) (env : ProcessEnv) :
    InSync pcpp view maxPackets (updatePackageInTimestampMap pcpp u env key) := by
  refine ⟨hwf, ?_, ?_, hquiet⟩
  · have hup := hm.update env key
    rw [← hstored] at hup
    exact hup
  · rw [← hstored] at hcard
    exact hcard

/-- Forgetting a package, when Pcap++ has completed it. -/
theorem InSync.of_completed {u : IpReassembly R} {stored : Finset UInt32} {key : PacketKey}
    (hwf : view.wellFormed u.ipReassembly) (hm : Mirrors pcpp stored u.timestampMap)
    (hquiet : u.diagnostics = [])
    (hstored : view.storedHashes u.ipReassembly = stored.erase (pcpp.getHashValue key))
    (hcard : (stored.erase (pcpp.getHashValue key)).card ≤ maxPackets) :
    InSync pcpp view maxPackets (removePackageFromTimestampMap pcpp u key) := by
  refine ⟨hwf, ?_, ?_, hquiet⟩
  · have her := hm.erase key
    rw [← hstored] at her
    exact her
  · rw [← hstored] at hcard
    exact hcard

/-- Pcap++ and the wrapper keep the stores in sync once the old packages are gone.
One case for every way in which Pcap++ may change its store. -/
theorem InSync.reassemble (hspec : api.Spec view pcpp.getHashValue maxPackets)
    (hmax : 1 ≤ maxPackets) {s : IpReassembly R} (h : InSync pcpp view maxPackets s)
    (env : ProcessEnv) (fragment : Packet) :
    ∃ t out, reassemble pcpp api s env fragment = .ok (t, out) ∧
      InSync pcpp view maxPackets t := by
  have hwf := hspec.process_wellFormed s.ipReassembly fragment h.wellFormed
  have heff := hspec.process_stored s.ipReassembly fragment h.wellFormed
  have hle := h.card_le
  have hm := h.mirrors
  unfold IpReassembly.reassemble
  generalize api.processPacket s.ipReassembly fragment = o at hwf heff ⊢
  obtain ⟨r, status, packet, cleaned⟩ := o
  simp only at hwf heff ⊢
  -- a key whose hash Pcap++ files the fragment under is the one the wrapper computes
  have hkey : ∀ a, (IPReassembly.fragmentKey fragment).map pcpp.getHashValue = some a →
      ∃ key, getPacketKey fragment = some key ∧ pcpp.getHashValue key = a := by
    intro a ha
    obtain ⟨key, hfrag, hhash⟩ := Option.map_eq_some_iff.mp ha
    exact ⟨key, getPacketKey_of_fragmentKey hfrag, hhash⟩
  generalize view.storedHashes s.ipReassembly = stored at hm heff hle
  generalize hstored : view.storedHashes r = stored' at heff
  cases heff with
  | ignored hs =>
    refine ⟨{ s with ipReassembly := r }, (packet, status), ?_, hwf, ?_, ?_, h.quiet⟩
    · rcases hs with rfl | rfl | rfl <;> rfl
    · rw [hstored]
      exact hm
    · rw [hstored]
      exact hle
  | known hs hh hk =>
    obtain ⟨key, hget, rfl⟩ := hkey _ hh
    have hsame : insert (pcpp.getHashValue key) stored = stored := Finset.insert_eq_of_mem hk
    refine ⟨_, (packet, status), ?_, InSync.of_stored (u := { s with ipReassembly := r }) hwf hm
      h.quiet (hstored.trans hsame.symm) (hsame.symm ▸ hle) env⟩
    rw [if_neg (ReassemblyStatus.not_isReassembled hs), if_pos hs, hget]
    rfl
  | fresh hs hh hk hcap =>
    obtain ⟨key, hget, rfl⟩ := hkey _ hh
    have hcard : (insert (pcpp.getHashValue key) stored).card ≤ maxPackets := by
      rw [Finset.card_insert_of_notMem hk]
      omega
    refine ⟨_, (packet, status), ?_, InSync.of_stored (u := { s with ipReassembly := r }) hwf hm
      h.quiet hstored hcard env⟩
    rw [if_neg (ReassemblyStatus.not_isReassembled hs), if_pos hs, hget]
    rfl
  | @evicting _ _ old hs hh hk hcap hold =>
    obtain ⟨key, hget, rfl⟩ := hkey _ hh
    have hcard : (insert (pcpp.getHashValue key)
        (stored.erase (pcpp.getHashValue old))).card ≤ maxPackets := by
      rw [Finset.card_insert_of_notMem fun hmem => hk (Finset.mem_of_mem_erase hmem),
        Finset.card_erase_of_mem hold]
      omega
    refine ⟨_, (packet, status), ?_, InSync.of_stored (u := { s with
      ipReassembly := r
      timestampMap := s.timestampMap.erase (hashKey pcpp old) }) hwf (hm.erase old) h.quiet
        hstored hcard env⟩
    rw [if_neg (ReassemblyStatus.not_isReassembled hs), if_pos hs, hget, List.foldl_cons,
      onFragmentsCleanCallback_of_mem (s := { s with ipReassembly := r }) hm hold]
    rfl
  | completed hh =>
    obtain ⟨key, hget, rfl⟩ := hkey _ hh
    have hcard := le_trans (Finset.card_erase_le (s := stored) (a := pcpp.getHashValue key)) hle
    refine ⟨_, (packet, .reassembled), ?_, InSync.of_completed (u := { s with
      ipReassembly := r }) hwf hm h.quiet hstored hcard⟩
    rw [hget]
    rfl
  | @completedEvicting _ old hh hk hcap hold =>
    obtain ⟨key, hget, rfl⟩ := hkey _ hh
    -- the new key was in neither store
    have hnew : (stored.erase (pcpp.getHashValue old)).erase (pcpp.getHashValue key) =
        stored.erase (pcpp.getHashValue old) :=
      Finset.erase_eq_of_notMem fun hmem => hk (Finset.mem_of_mem_erase hmem)
    have hcard := le_trans (Finset.card_erase_le (s := stored) (a := pcpp.getHashValue old)) hle
    refine ⟨_, (packet, .reassembled), ?_, InSync.of_completed (u := { s with
      ipReassembly := r
      timestampMap := s.timestampMap.erase (hashKey pcpp old) }) hwf (hm.erase old) h.quiet
        (hstored.trans hnew.symm) (hnew.symm ▸ hcard)⟩
    rw [hget, List.foldl_cons,
      onFragmentsCleanCallback_of_mem (s := { s with ipReassembly := r }) hm hold]
    rfl

/-- **A call keeps the stores in sync.**  It ends in a state in sync, or the loop
has incremented the end iterator in one; a null key is never dereferenced. -/
theorem InSync.processPacket (hspec : api.Spec view pcpp.getHashValue maxPackets)
    (hmax : 1 ≤ maxPackets) {s : IpReassembly R} (h : InSync pcpp view maxPackets s)
    (env : ProcessEnv) (fragment : Packet) :
    processPacket pcpp api s env fragment =
        .error (.endIncremented (IpReassembly.afterLoop api s env)) ∨
      ∃ t out, processPacket pcpp api s env fragment = .ok (t, out) ∧
        InSync pcpp view maxPackets t := by
  unfold IpReassembly.processPacket
  rcases h.removeOldPackages hspec env with hrem | hrem
  · left
    rw [hrem]
    rfl
  · right
    rw [hrem]
    exact (h.afterLoop hspec env).reassemble hspec hmax env fragment

/-! ### All calls -/

/-- A sequence of calls, up to the first one with undefined behaviour. -/
def processAll (pcpp : Pcpp) (api : IPReassembly R) :
    IpReassembly R → List (ProcessEnv × Packet) → Except (Undefined R) (IpReassembly R)
  | s, [] => .ok s
  | s, (env, fragment) :: inputs => do
    let (t, _) ← processPacket pcpp api s env fragment
    processAll pcpp api t inputs

/-- The end of a sequence of calls: no null key was dereferenced, and the object is
in sync, also if the loop has incremented the end iterator. -/
theorem InSync.processAll (hspec : api.Spec view pcpp.getHashValue maxPackets)
    (hmax : 1 ≤ maxPackets) (inputs : List (ProcessEnv × Packet)) {s : IpReassembly R}
    (h : InSync pcpp view maxPackets s) :
    ∃ t, InSync pcpp view maxPackets t ∧
      (processAll pcpp api s inputs = .ok t ∨
        processAll pcpp api s inputs = .error (.endIncremented t)) := by
  induction inputs generalizing s with
  | nil => exact ⟨s, h, Or.inl rfl⟩
  | cons input inputs ih =>
    obtain ⟨env, fragment⟩ := input
    rw [IpReassembly.processAll]
    rcases h.processPacket hspec hmax env fragment with hend | ⟨t, out, hok, ht⟩
    · refine ⟨IpReassembly.afterLoop api s env, h.afterLoop hspec env, Or.inr ?_⟩
      rw [hend]
      rfl
    · rw [hok]
      exact ih ht

/-- The keys of the timestamp map are those stored in Pcap++, so the two have the
same size, which is within the capacity; nothing has been written to `std::cerr`. -/
def StoresAgree (view : IPReassembly.View R) (maxPackets : ℕ) (s : IpReassembly R) : Prop :=
  s.timestampMap.keys.toFinset = (view.storedHashes s.ipReassembly).image UInt32.toInt32 ∧
    s.timestampMap.entries.length = (view.storedHashes s.ipReassembly).card ∧
    s.timestampMap.entries.length ≤ maxPackets ∧ s.diagnostics = []

theorem InSync.storesAgree {s : IpReassembly R} (h : InSync pcpp view maxPackets s) :
    StoresAgree view maxPackets s := by
  have hlen := h.mirrors.length_eq
  exact ⟨h.mirrors.keys_eq, hlen, hlen.trans_le h.card_le, h.quiet⟩

/-- The same of the way in which a sequence of calls ends, which is not the
dereferencing of a null key. -/
def EndsInSync (view : IPReassembly.View R) (maxPackets : ℕ) :
    Except (Undefined R) (IpReassembly R) → Prop
  | .ok s => StoresAgree view maxPackets s
  | .error (.endIncremented s) => StoresAgree view maxPackets s
  | .error (.nullPacketKey _) => False

/-- **The keys of the timestamp map are the keys stored in Pcap++** after every
sequence of calls; nothing is ever written to `std::cerr`, and `getPacketKey` does
not return null where its result is dereferenced. -/
theorem processAll_in_sync (hspec : api.Spec view pcpp.getHashValue maxPackets)
    (hmax : 1 ≤ maxPackets) (maxPackageAge : Int) (inputs : List (ProcessEnv × Packet)) :
    EndsInSync view maxPackets
      (processAll pcpp api (create api maxPackageAge maxPackets) inputs) := by
  obtain ⟨t, ht, hok | hend⟩ :=
    (InSync.create hspec maxPackageAge).processAll hspec hmax inputs
  · rw [hok]
    exact ht.storesAgree
  · rw [hend]
    exact ht.storesAgree

/-- An object with room for one package: the second package evicts the first one,
and is then completed. -/
theorem processAll_in_sync_one_package :
    EndsInSync (SmallPcpp.view 1) 1
      (processAll SmallPcpp.pcpp SmallPcpp.api (create SmallPcpp.api 5 1)
        [(.at 0 .newestFirst, SmallPcpp.parse .unknownProtocol (SmallPcpp.firstHalf 1)),
          (.at 1 .newestFirst, SmallPcpp.parse .unknownProtocol (SmallPcpp.firstHalf 2)),
          (.at 2 .newestFirst,
            SmallPcpp.parse .unknownProtocol (SmallPcpp.secondHalf 2 [8]))]) :=
  processAll_in_sync (SmallPcpp.spec le_rfl) le_rfl 5 _

end IpReassembly

end Udpcap
