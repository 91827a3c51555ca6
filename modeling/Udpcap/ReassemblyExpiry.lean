import Udpcap.Foundation.Transition
import Udpcap.IpReassembly
import Udpcap.SmallPcpp

/-!
# What the reassembly wrapper forgets

The wrapper is compared with a reassembler that, before each input, forgets the
packages whose last accepted fragment is too old, all of them and nothing else.
The two agree as long as the loop of `removeOldPackages` happens to meet the
expired entries far enough apart; elsewhere it skips one, or runs past the end.

## Main definitions

* `Reference` — the reassembler that forgets exactly the expired packages.
* `ForgetsExactly` — a call of the wrapper does the same.
* `VisitsSparse` — no expired entry is the last one that the loop would visit, or
  is directly followed by another expired one.

## Main results

* `forgetsExactly_iff` — **a call forgets exactly the expired packages if and only
  if it visits a sparse order.**
* `Agrees.processPacket` — one such call answers as the reference does.
-/

namespace Udpcap

/-! ### The reference -/

/-- A reassembler that knows, for every incomplete package, the key of its first
accepted fragment and the time of its last one. -/
structure Reference (R : Type) where
  maxPackageAge : Int
  ipReassembly : R
  packages : TimestampMap

namespace Reference

variable {R : Type} (pcpp : Pcpp) (api : IPReassembly R)

def create (maxPackageAge : Int) (maxPacketsToStore : ℕ) : Reference R :=
  ⟨maxPackageAge, api.create maxPacketsToStore, ∅⟩

theorem nodupKeys_filter (m : TimestampMap) (p : TimestampEntry → Bool) :
    (m.entries.filter p).NodupKeys :=
  m.nodupKeys.sublist List.filter_sublist

/-- Forgets the packages whose last accepted fragment is older than the maximum
age, and keeps every other one. -/
def forget (t : Reference R) (now : Int) : Reference R :=
  let expired := IpReassembly.isExpired t.maxPackageAge now
  { t with
    ipReassembly := (t.packages.entries.filter expired).foldl
      (fun r e => api.removePacket r e.2.1) t.ipReassembly
    packages := ⟨t.packages.entries.filter fun e => !expired e, nodupKeys_filter _ _⟩ }

/-- Records that a fragment of a package was accepted. -/
def touch (m : TimestampMap) (key : PacketKey) (now : Int) : TimestampMap :=
  match m.lookup (IpReassembly.hashKey pcpp key) with
  | some (first, _) => m.insert (IpReassembly.hashKey pcpp key) (first, now)
  | none => m.insert (IpReassembly.hashKey pcpp key) (key, now)

/-- The incomplete packages after an input with the given effect. -/
def record (m : TimestampMap) (now : Int) (key : Option PacketKey) (status : ReassemblyStatus)
    (cleaned : List PacketKey) : TimestampMap :=
  let m := cleaned.foldl (fun m old => m.erase (IpReassembly.hashKey pcpp old)) m
  match key with
  | none => m
  | some key =>
    if status.isReassembled then m.erase (IpReassembly.hashKey pcpp key)
    else if status.isStored then touch pcpp m key now
    else m

/-- One input. -/
def processPacket (t : Reference R) (env : ProcessEnv) (fragment : Packet) :
    Reference R × Option RawPacket × ReassemblyStatus :=
  let t := forget api t env.now
  let o := api.processPacket t.ipReassembly fragment
  ({ t with
      ipReassembly := o.object
      packages := record pcpp t.packages env.updateNow (IPReassembly.fragmentKey fragment)
        o.status o.cleaned },
    o.packet, o.status)

end Reference

/-! ### The wrapper -/

namespace IpReassembly

variable {R : Type} {pcpp : Pcpp} {api : IPReassembly R}

/-- The entries in the order in which the loop would visit them all are sparse. -/
def VisitsSparse (s : IpReassembly R) (env : ProcessEnv) : Prop :=
  Foundation.Sparse (isExpired s.maxPackageAge env.now) (env.order.visit s.timestampMap.entries)

instance (s : IpReassembly R) (env : ProcessEnv) : Decidable (VisitsSparse s env) :=
  inferInstanceAs (Decidable (Foundation.Sparse _ _))

/-- `removeOldPackages` returns, and of the packages it keeps exactly those that
are not expired. -/
def ForgetsExactly (api : IPReassembly R) (s : IpReassembly R) (env : ProcessEnv) : Prop :=
  ∃ t, removeOldPackages api s env = .ok t ∧ ∀ e ∈ s.timestampMap.entries,
    (e ∈ t.timestampMap.entries ↔ isExpired s.maxPackageAge env.now e = false)

/-- When the loop stays in bounds, the map is what the loop kept. -/
theorem removeOldPackages_of_inBounds {s : IpReassembly R} {env : ProcessEnv}
    (h : (removeOldLoop api s env).pastEnd = false) :
    ∃ t, removeOldPackages api s env = .ok t ∧ t.maxPackageAge = s.maxPackageAge ∧
      t.ipReassembly = (removeOldLoop api s env).state ∧
      t.timestampMap.entries = (removeOldLoop api s env).kept := by
  unfold removeOldPackages
  simp only
  rw [if_neg (by simp [h])]
  refine ⟨_, rfl, ?_⟩
  split <;> exact ⟨rfl, rfl, rfl⟩

theorem inBounds_of_removeOldPackages {s t : IpReassembly R} {env : ProcessEnv}
    (h : removeOldPackages api s env = .ok t) : (removeOldLoop api s env).pastEnd = false := by
  unfold removeOldPackages at h
  simp only at h
  split at h
  · cases h
  next hend => simpa using hend

/-- **A call forgets exactly the expired packages if and only if it visits a sparse
order.** -/
theorem forgetsExactly_iff {s : IpReassembly R} {env : ProcessEnv} :
    ForgetsExactly api s env ↔ VisitsSparse s env := by
  have hexact := Foundation.sweep_exact_iff_sparse (isExpired s.maxPackageAge env.now)
    (fun r e => api.removePacket r e.2.1) s.ipReassembly
    (env.order.visit s.timestampMap.entries)
  constructor
  · rintro ⟨t, hok, hkept⟩
    have hend := inBounds_of_removeOldPackages hok
    obtain ⟨t', hok', -, -, hentries⟩ := removeOldPackages_of_inBounds hend
    rw [hok] at hok'
    cases hok'
    refine hexact.mp ⟨?_, hend⟩
    intro e he
    -- what the loop keeps is an entry of the map
    have hmem : e ∈ s.timestampMap.entries :=
      ((Foundation.sweep_perm _ _ _ _).trans (env.order.visit_perm _)).subset
        (List.mem_append_right _ he)
    exact (hkept e hmem).mp (hentries ▸ he)
  · intro hsparse
    obtain ⟨-, hkept, hend⟩ := Foundation.sweep_of_sparse
      (f := fun (r : R) (e : TimestampEntry) => api.removePacket r e.2.1) (s := s.ipReassembly)
      hsparse
    obtain ⟨t, hok, -, -, hentries⟩ := removeOldPackages_of_inBounds hend
    refine ⟨t, hok, ?_⟩
    intro e he
    rw [hentries, removeOldLoop, hkept, List.mem_filter, (env.order.visit_perm _).mem_iff]
    simp [he]

/-! ### The simulation -/

/-- The wrapper and the reference have the same reassembler, and the same packages
in some order. -/
structure Agrees (s : IpReassembly R) (t : Reference R) : Prop where
  maxPackageAge : s.maxPackageAge = t.maxPackageAge
  ipReassembly : s.ipReassembly = t.ipReassembly
  packages : s.timestampMap.entries.Perm t.packages.entries

theorem Agrees.create (pcppApi : IPReassembly R) (maxPackageAge : Int) (maxPackets : ℕ) :
    Agrees (create pcppApi maxPackageAge maxPackets)
      (Reference.create pcppApi maxPackageAge maxPackets) :=
  ⟨rfl, rfl, List.Perm.refl _⟩

/-- On a sparse order the wrapper forgets what the reference forgets. -/
theorem Agrees.removeOldPackages (hlaws : api.Laws) {s : IpReassembly R} {t : Reference R}
    (h : Agrees s t) {env : ProcessEnv} (hsparse : VisitsSparse s env) :
    ∃ u, removeOldPackages api s env = .ok u ∧ Agrees u (t.forget api env.now) := by
  obtain ⟨herased, hkept, hend⟩ := Foundation.sweep_of_sparse
    (f := fun (r : R) (e : TimestampEntry) => api.removePacket r e.2.1) (s := s.ipReassembly)
    hsparse
  obtain ⟨u, hok, hage, hstate, hentries⟩ := removeOldPackages_of_inBounds hend
  have hvisit : (env.order.visit s.timestampMap.entries).Perm t.packages.entries :=
    (env.order.visit_perm _).trans h.packages
  refine ⟨u, hok, hage.trans h.maxPackageAge, ?_, ?_⟩
  · rw [hstate, removeOldLoop, Foundation.sweep_state, herased, h.maxPackageAge, h.ipReassembly]
    -- the loop removes the same packages in another order
    exact (hvisit.filter _).foldl_eq' (fun _ _ _ _ r => hlaws.remove_comm r _ _) _
  · rw [hentries, removeOldLoop, hkept, h.maxPackageAge]
    exact hvisit.filter _

/-- The callback takes a key out of the map and leaves the reassembler alone. -/
theorem onFragmentsCleanCallback_eq (pcpp : Pcpp) (s : IpReassembly R) (old : PacketKey) :
    (onFragmentsCleanCallback pcpp s old).maxPackageAge = s.maxPackageAge ∧
      (onFragmentsCleanCallback pcpp s old).ipReassembly = s.ipReassembly ∧
      (onFragmentsCleanCallback pcpp s old).timestampMap =
        s.timestampMap.erase (hashKey pcpp old) := by
  unfold onFragmentsCleanCallback
  split
  · exact ⟨rfl, rfl, rfl⟩
  next hmem =>
    refine ⟨rfl, rfl, AList.ext ?_⟩
    exact (List.kerase_of_notMem_keys hmem).symm

theorem Agrees.onFragmentsCleanCallback {s : IpReassembly R} {t : Reference R}
    (h : Agrees s t) (old : PacketKey) :
    Agrees (onFragmentsCleanCallback pcpp s old)
      { t with packages := t.packages.erase (hashKey pcpp old) } := by
  obtain ⟨hage, hr, hmap⟩ := onFragmentsCleanCallback_eq pcpp s old
  refine ⟨hage.trans h.maxPackageAge, hr.trans h.ipReassembly, ?_⟩
  rw [hmap]
  exact AList.perm_erase h.packages

theorem Agrees.cleaned (cleaned : List PacketKey) {s : IpReassembly R} {t : Reference R}
    (h : Agrees s t) :
    Agrees (cleaned.foldl (IpReassembly.onFragmentsCleanCallback pcpp) s)
      { t with
        packages := cleaned.foldl (fun m old => m.erase (hashKey pcpp old)) t.packages } := by
  induction cleaned generalizing s t with
  | nil => exact h
  | cons old cleaned ih => exact ih (h.onFragmentsCleanCallback old)

theorem Agrees.update {s : IpReassembly R} {t : Reference R} (h : Agrees s t) (env : ProcessEnv)
    (key : PacketKey) :
    Agrees (updatePackageInTimestampMap pcpp s env key)
      { t with packages := Reference.touch pcpp t.packages key env.updateNow } := by
  refine ⟨h.maxPackageAge, h.ipReassembly, ?_⟩
  unfold updatePackageInTimestampMap Reference.touch
  simp only
  rw [← AList.perm_lookup h.packages]
  cases s.timestampMap.lookup (hashKey pcpp key) with
  | none => exact AList.perm_insert h.packages
  | some held => exact AList.perm_insert h.packages

/-- Once the old packages are gone, the wrapper records what the reference does. -/
theorem Agrees.reassemble (pcpp : Pcpp) (hlaws : api.Laws) {s : IpReassembly R} {t : Reference R}
    (h : Agrees s t) (env : ProcessEnv) (fragment : Packet) :
    ∃ u, reassemble pcpp api s env fragment =
        .ok (u, (api.processPacket t.ipReassembly fragment).packet,
          (api.processPacket t.ipReassembly fragment).status) ∧
      Agrees u { t with
        ipReassembly := (api.processPacket t.ipReassembly fragment).object
        packages := Reference.record pcpp t.packages env.updateNow
          (IPReassembly.fragmentKey fragment) (api.processPacket t.ipReassembly fragment).status
          (api.processPacket t.ipReassembly fragment).cleaned } := by
  have hfragment := hlaws.accepts_fragments t.ipReassembly fragment
  unfold IpReassembly.reassemble Reference.record
  rw [h.ipReassembly]
  generalize api.processPacket t.ipReassembly fragment = o at hfragment ⊢
  simp only
  have hclean : Agrees (o.cleaned.foldl (IpReassembly.onFragmentsCleanCallback pcpp)
      { s with ipReassembly := o.object }) { t with
        ipReassembly := o.object
        packages := o.cleaned.foldl (fun m old => m.erase (hashKey pcpp old)) t.packages } :=
    Agrees.cleaned (t := { t with ipReassembly := o.object }) o.cleaned
      ⟨h.maxPackageAge, rfl, h.packages⟩
  by_cases hre : o.status.isReassembled = true
  · obtain ⟨key, hkey⟩ := hfragment (Or.inl hre)
    rw [if_pos hre, getPacketKey_of_fragmentKey hkey, hkey]
    refine ⟨_, rfl, hclean.maxPackageAge, hclean.ipReassembly, ?_⟩
    simp only [if_pos hre]
    exact AList.perm_erase hclean.packages
  · rw [if_neg hre]
    by_cases hst : o.status.isStored = true
    · obtain ⟨key, hkey⟩ := hfragment (Or.inr hst)
      rw [if_pos hst, getPacketKey_of_fragmentKey hkey, hkey]
      refine ⟨_, rfl, ?_⟩
      simp only [if_neg hre, if_pos hst]
      exact hclean.update env key
    · rw [if_neg hst]
      refine ⟨_, rfl, ?_⟩
      cases IPReassembly.fragmentKey fragment with
      | none => exact hclean
      | some key =>
        simp only [if_neg hre, if_neg hst]
        exact hclean

/-- **A call that visits a sparse order answers as the reference does.** -/
theorem Agrees.processPacket (pcpp : Pcpp) (hlaws : api.Laws) {s : IpReassembly R} {t : Reference R}
    (h : Agrees s t) {env : ProcessEnv} (hsparse : VisitsSparse s env) (fragment : Packet) :
    ∃ u out, processPacket pcpp api s env fragment = .ok (u, out) ∧
      (t.processPacket pcpp api env fragment).2 = out ∧
      Agrees u (t.processPacket pcpp api env fragment).1 := by
  obtain ⟨v, hv, hagrees⟩ := h.removeOldPackages hlaws hsparse
  obtain ⟨u, hu, hagrees'⟩ := hagrees.reassemble pcpp hlaws env fragment
  refine ⟨u, _, ?_, rfl, hagrees'⟩
  unfold IpReassembly.processPacket
  rw [hv]
  exact hu

/-! ### Runs -/

/-- The wrapper as a system that answers; a call with undefined behaviour has no
answer. -/
def answer (pcpp : Pcpp) (api : IPReassembly R) (s : IpReassembly R)
    (input : ProcessEnv × Packet) :
    Option (IpReassembly R × Option RawPacket × ReassemblyStatus) :=
  (processPacket pcpp api s input.1 input.2).toOption

end IpReassembly

/-- The reference as a system that answers. -/
def Reference.answer {R : Type} (pcpp : Pcpp) (api : IPReassembly R) (t : Reference R)
    (input : ProcessEnv × Packet) :
    Option (Reference R × Option RawPacket × ReassemblyStatus) :=
  some (t.processPacket pcpp api input.1 input.2)

namespace IpReassembly

variable {R : Type} {pcpp : Pcpp} {api : IPReassembly R}

/-- **The packets and statuses are those of the reference** in every sequence of
calls that all visit a sparse order, and those are the sequences in which every call
forgets exactly the expired packages. -/
theorem outputs_eq_reference (pcpp : Pcpp) (hlaws : api.Laws) (maxPackageAge : Int) (maxPackets : ℕ)
    (inputs : List (ProcessEnv × Packet)) :
    (Foundation.StepsMeet (Foundation.silent (answer pcpp api))
        (fun s input => VisitsSparse s input.1) (create api maxPackageAge maxPackets) inputs →
      ∃ outs,
        Foundation.outputs (answer pcpp api) (create api maxPackageAge maxPackets) inputs =
          some outs ∧
        Foundation.outputs (Reference.answer pcpp api)
          (Reference.create api maxPackageAge maxPackets) inputs = some outs) ∧
    (Foundation.StepsMeet (Foundation.silent (answer pcpp api))
        (fun s input => VisitsSparse s input.1) (create api maxPackageAge maxPackets) inputs ↔
      Foundation.StepsMeet (Foundation.silent (answer pcpp api))
        (fun s input => ForgetsExactly api s input.1) (create api maxPackageAge maxPackets)
        inputs) := by
  constructor
  · intro hsparse
    refine Foundation.outputs_eq_of_simulation (R := Agrees) ?_
      (Agrees.create api maxPackageAge maxPackets) hsparse
    intro s t input hagrees hvisit
    obtain ⟨u, out, hok, hout, hagrees'⟩ :=
      hagrees.processPacket pcpp hlaws hvisit input.2
    refine ⟨u, _, out, ?_, ?_, hagrees'⟩
    · unfold answer
      rw [hok]
      rfl
    · unfold Reference.answer
      rw [← hout]
  · exact Foundation.stepsMeet_congr fun s input => forgetsExactly_iff.symm

end IpReassembly

open IpReassembly SmallPcpp

/-- Two packages of which the older one expires while the newer one is completed. -/
theorem outputs_eq_reference_two_packages :
    ∃ outs,
      Foundation.outputs (IpReassembly.answer pcpp api) (IpReassembly.create api 5 10)
          [(.at 0 .oldestFirst, parse .unknownProtocol (firstHalf 1)),
            (.at 4 .oldestFirst, parse .unknownProtocol (firstHalf 2)),
            (.at 7 .oldestFirst, parse .unknownProtocol (secondHalf 1 [7, 7])),
            (.at 8 .oldestFirst, parse .unknownProtocol (secondHalf 2 [8, 8]))] = some outs ∧
        Foundation.outputs (Reference.answer pcpp api) (Reference.create api 5 10)
          [(.at 0 .oldestFirst, parse .unknownProtocol (firstHalf 1)),
            (.at 4 .oldestFirst, parse .unknownProtocol (firstHalf 2)),
            (.at 7 .oldestFirst, parse .unknownProtocol (secondHalf 1 [7, 7])),
            (.at 8 .oldestFirst, parse .unknownProtocol (secondHalf 2 [8, 8]))] = some outs := by
  refine (outputs_eq_reference pcpp laws 5 10 _).1 ?_
  decide +kernel

/-- Two packages expire together.  The loop erases the one and skips the other, so
the datagram that is returned next has the header of the old datagram and the
payload of a new one that reuses its id. -/
theorem outputs_ne_reference :
    Foundation.outputs (IpReassembly.answer pcpp api) (IpReassembly.create api 5 10)
        [(.at 0 .newestFirst, parse .unknownProtocol (firstHalf 1)),
          (.at 0 .newestFirst, parse .unknownProtocol (firstHalf 2)),
          (.at 10 .newestFirst, parse .unknownProtocol (secondHalf 1 [7, 7]))] =
      some [(none, .firstFragment), (none, .firstFragment),
        (some (ipv4Frame [0, 1] [0, 0] [10, 0, 0, 1] [10, 0, 0, 2]
          [0x0F, 0xA0, 0x13, 0x88, 0, 10, 0, 0, 7, 7]), .reassembled)] ∧
    Foundation.outputs (Reference.answer pcpp api) (Reference.create api 5 10)
        [(.at 0 .newestFirst, parse .unknownProtocol (firstHalf 1)),
          (.at 0 .newestFirst, parse .unknownProtocol (firstHalf 2)),
          (.at 10 .newestFirst, parse .unknownProtocol (secondHalf 1 [7, 7]))] =
      some [(none, .firstFragment), (none, .firstFragment), (none, .outOfOrderFragment)] := by
  decide +kernel

end Udpcap
