import Udpcap.Pcpp

/-!
# A small implementation of Pcap++

The parser, the key hash and the reassembly of Pcap++, as far as IPv4 goes, on the
bytes of a frame.  The results about the socket hold for every implementation that
does what Pcap++ documents; this one shows that there is one, and runs the code on
concrete frames.

## Main definitions

* `pcpp` — the parser for loopback, Ethernet and raw IP frames, and the key hash.
* `Reassembler`, `api` — an `IPReassembly` that evicts the least recently used
  package.

## Main results

* `spec` — **the documented effect on the stored keys is met.**
-/

namespace Udpcap

namespace SmallPcpp

/-! ### Bytes -/

/-- A 16-bit field as it stands in memory, read on a little-endian machine. -/
def le16 (b₀ b₁ : UInt8) : UInt16 := b₀.toUInt16 ||| b₁.toUInt16 <<< 8

/-- A 32-bit field as it stands in memory, read on a little-endian machine. -/
def le32 (b₀ b₁ b₂ b₃ : UInt8) : UInt32 :=
  b₀.toUInt32 ||| b₁.toUInt32 <<< 8 ||| b₂.toUInt32 <<< 16 ||| b₃.toUInt32 <<< 24

theorem or_shiftLeft {a b i : ℕ} (h : a < 2 ^ i) : a ||| b <<< i = a + 2 ^ i * b := by
  rw [Nat.or_comm, ← Nat.shiftLeft_add_eq_or_of_lt h, Nat.shiftLeft_eq, Nat.add_comm,
    Nat.mul_comm]

theorem toNat_le32 (b₀ b₁ b₂ b₃ : UInt8) : (le32 b₀ b₁ b₂ b₃).toNat =
    b₀.toNat + 2 ^ 8 * b₁.toNat + 2 ^ 16 * b₂.toNat + 2 ^ 24 * b₃.toNat := by
  have h₀ : b₀.toNat < 2 ^ 8 := b₀.toNat_lt
  have h₁ : b₁.toNat < 2 ^ 8 := b₁.toNat_lt
  have h₂ : b₂.toNat < 2 ^ 8 := b₂.toNat_lt
  have hshift : ∀ (b : UInt8) (i : ℕ), i ≤ 24 → b.toNat <<< i % 2 ^ 32 = b.toNat <<< i := by
    intro b i hi
    have hb : b.toNat < 256 := b.toNat_lt
    have hpow : 2 ^ i ≤ 2 ^ 24 := Nat.pow_le_pow_right (by omega) hi
    rw [Nat.shiftLeft_eq]
    apply Nat.mod_eq_of_lt
    calc b.toNat * 2 ^ i ≤ 255 * 2 ^ 24 := Nat.mul_le_mul (by omega) hpow
      _ < 2 ^ 32 := by decide
  have hor₁ : b₀.toNat ||| b₁.toNat <<< 8 = b₀.toNat + 2 ^ 8 * b₁.toNat := or_shiftLeft h₀
  have hor₂ := or_shiftLeft (b := b₂.toNat) (show b₀.toNat + 2 ^ 8 * b₁.toNat < 2 ^ 16 by omega)
  have hor₃ := or_shiftLeft (b := b₃.toNat)
    (show b₀.toNat + 2 ^ 8 * b₁.toNat + 2 ^ 16 * b₂.toNat < 2 ^ 24 by omega)
  unfold le32
  simp only [UInt32.toNat_or, UInt32.toNat_shiftLeft, UInt8.toNat_toUInt32]
  show b₀.toNat ||| b₁.toNat <<< 8 % 2 ^ 32 ||| b₂.toNat <<< 16 % 2 ^ 32 |||
    b₃.toNat <<< 24 % 2 ^ 32 = _
  rw [hshift b₁ 8 (by omega), hshift b₂ 16 (by omega), hshift b₃ 24 (by omega), hor₁, hor₂, hor₃]

/-- The number that two bytes denote in network byte order. -/
def be16 (b₀ b₁ : UInt8) : ℕ := 256 * b₀.toNat + b₁.toNat

/-- The address family of a loopback frame, which the sender wrote in its own
byte order. -/
def loopbackFamily (b₀ b₁ b₂ b₃ : UInt8) : ℕ :=
  if b₂ ≠ 0 ∨ b₃ ≠ 0 then
    if b₃ = 0 ∧ b₂ < 6 then b₂.toNat else 65536 * be16 b₀ b₁ + be16 b₂ b₃
  else if b₀ = 0 ∧ b₁ < 6 then b₁.toNat
  else 256 * b₁.toNat + b₀.toNat

/-- The length of the link layer header and the IPv4 packet behind it. -/
def networkLayer (raw : RawPacket) : Option (ℕ × Bytes) :=
  if raw.linkType = linktypeNull then
    match raw.data with
    | b₀ :: b₁ :: b₂ :: b₃ :: ip => if loopbackFamily b₀ b₁ b₂ b₃ = 2 then some (4, ip) else none
    | _ => none
  else if raw.linkType = linktypeEthernet then
    match raw.data.drop 12 with
    | b₀ :: b₁ :: ip => if be16 b₀ b₁ = 0x0800 then some (14, ip) else none
    | _ => none
  else if raw.linkType = linktypeDltRaw1 then some (0, raw.data)
  else none

/-! ### The parser -/

/-- An IPv4 header and what stands behind it. -/
structure Ipv4 where
  headerLength : ℕ
  protocol : UInt8
  /-- The flags and the fragment offset. -/
  fragment : ℕ
  layer : IPv4Layer
  payload : Bytes
  deriving Repr

/-- The IPv4 packet at the head of some bytes; a total length of zero stands for
the whole of them. -/
def parseIpv4 : Bytes → Option Ipv4
  | b@(v :: _ :: l₀ :: l₁ :: i₀ :: i₁ :: f₀ :: f₁ :: _ :: p :: _ :: _ ::
      s₀ :: s₁ :: s₂ :: s₃ :: d₀ :: d₁ :: d₂ :: d₃ :: _) =>
    let headerLength := 4 * (v.toNat % 16)
    if v.toNat / 16 = 4 ∧ 20 ≤ headerLength then
      let total := if be16 l₀ l₁ = 0 then b.length else be16 l₀ l₁
      some ⟨headerLength, p, be16 f₀ f₁,
        ⟨le16 i₀ i₁, le32 s₀ s₁ s₂ s₃, le32 d₀ d₁ d₂ d₃, be16 f₀ f₁ % 16384 ≠ 0⟩,
        (b.take total).drop headerLength⟩
    else none
  | _ => none

/-- The UDP datagram at the head of some bytes. -/
def parseUdp : Bytes → Option UdpLayer
  | s₀ :: s₁ :: d₀ :: d₁ :: l₀ :: l₁ :: _ :: _ :: payload =>
    some ⟨le16 s₀ s₁, le16 d₀ d₁, payload.take (be16 l₀ l₁ - 8)⟩
  | _ => none

/-- `pcpp::Packet`. -/
def parse (_ : ProtocolType) (raw : RawPacket) : Packet :=
  match (networkLayer raw).bind fun n => parseIpv4 n.2 with
  | none => ⟨raw, none, none, none⟩
  | some ip =>
    ⟨raw, some ip.layer, none,
      if ip.layer.isFragment = false ∧ ip.protocol = 17 then parseUdp ip.payload else none⟩

/-- The bytes that the hash of a key is computed from. -/
def PacketKey.bytes : PacketKey → List ℕ
  | .ipv4 ipId srcIP dstIP => [ipId.toNat / 256, ipId.toNat % 256] ++
      (List.range 4).map (fun i => srcIP.toNat / 256 ^ i % 256) ++
      (List.range 4).map fun i => dstIP.toNat / 256 ^ i % 256
  | .ipv6 fragId srcIP dstIP => (List.range 4).map (fun i => fragId.toNat / 256 ^ (3 - i) % 256) ++
      (List.range 16).map (fun i => srcIP / 256 ^ i % 256) ++
      (List.range 16).map fun i => dstIP / 256 ^ i % 256

/-- The Fowler-Noll-Vo hash. -/
def fnvHash (bytes : List ℕ) : UInt32 :=
  bytes.foldl (fun h b => h * 16777619 ^^^ UInt32.ofNat b) 2166136261

/-- The parser and the key hash. -/
def pcpp : Pcpp := ⟨parse, fun key => fnvHash (PacketKey.bytes key)⟩

/-! ### Reassembly -/

/-- One fragment of a package. -/
structure Fragment where
  offset : ℕ
  more : Bool
  payload : Bytes
  deriving DecidableEq, Repr

/-- A package with some fragments missing. -/
structure Package where
  key : PacketKey
  fragments : List Fragment
  deriving DecidableEq, Repr

/-- The packages, the most recently used one first. -/
structure Reassembler where
  capacity : ℕ
  packages : List Package
  deriving DecidableEq, Repr

/-- The fragment in a frame, behind the headers up to IPv4. -/
def readFragment (raw : RawPacket) : Option (Bytes × Fragment) := do
  let (linkHeader, b) ← networkLayer raw
  let ip ← parseIpv4 b
  some (raw.data.take (linkHeader + ip.headerLength),
    ⟨8 * (ip.fragment % 8192), ip.fragment / 8192 % 2 = 1, ip.payload⟩)

/-- The fragments that follow one another from `offset` on, and whether the last
of them is the last one of the package. -/
def assembleFrom (fragments : List Fragment) : (fuel offset : ℕ) → Bytes × Bool
  | 0, _ => ([], false)
  | fuel + 1, offset =>
    match fragments.find? fun f => f.offset == offset with
    | none => ([], false)
    | some f =>
      if f.more then
        let rest := assembleFrom fragments fuel (offset + f.payload.length)
        (f.payload ++ rest.1, rest.2)
      else (f.payload, true)

def assemble (fragments : List Fragment) : Bytes × Bool :=
  assembleFrom fragments fragments.length 0

/-- The reassembled packet: the headers of a fragment, made those of a packet of
unknown length that is not a fragment, in front of the payload. -/
def rebuild (raw : RawPacket) (header payload : Bytes) : RawPacket :=
  let linkHeader := ((networkLayer raw).map Prod.fst).getD 0
  let header := header.zipIdx.map fun (b, i) =>
    if i ∈ [linkHeader + 2, linkHeader + 3, linkHeader + 6, linkHeader + 7] then 0 else b
  ⟨header ++ payload, raw.linkType⟩

/-- The hash of a package. -/
def Package.hash (p : Package) : UInt32 := pcpp.getHashValue p.key

/-- The status of a fragment that is stored and does not complete its package. -/
def storedStatus (known : List Fragment) (fragment : Fragment) : ReassemblyStatus :=
  if fragment.offset = 0 then .firstFragment
  else if fragment.offset = (assemble known).1.length then .fragment
  else .outOfOrderFragment

/-- The arrival of a fragment of a known package. -/
def continuePackage (r : Reassembler) (raw : RawPacket) (header : Bytes) (fragment : Fragment)
    (package : Package) : Processed Reassembler :=
  let others := r.packages.filter fun p => p.hash ≠ package.hash
  let fragments := fragment :: package.fragments
  match assemble fragments with
  | (payload, true) =>
    ⟨{ r with packages := others }, .reassembled, some (rebuild raw header payload), []⟩
  | (_, false) =>
    ⟨{ r with packages := { package with fragments := fragments } :: others },
      storedStatus package.fragments fragment, none, []⟩

/-- The arrival of the first fragment of a package. -/
def startPackage (r : Reassembler) (key : PacketKey) (fragment : Fragment) :
    Processed Reassembler :=
  let package : Package := ⟨key, [fragment]⟩
  if r.packages.length < r.capacity then
    ⟨{ r with packages := package :: r.packages }, storedStatus [] fragment, none, []⟩
  else
    ⟨{ r with packages := package :: r.packages.dropLast }, storedStatus [] fragment, none,
      (r.packages.getLast?.map Package.key).toList⟩

/-- `processPacket`; a frame that no fragment can be read from is malformed. -/
def processPacket (r : Reassembler) (p : Packet) : Processed Reassembler :=
  match IPReassembly.fragmentKey p with
  | none =>
    ⟨r, if p.ipv4Layer.isSome || p.ipv6Layer.isSome then .nonFragment else .nonIpPacket,
      some p.rawPacket, []⟩
  | some key =>
    match readFragment p.rawPacket with
    | none => ⟨r, .malformedFragment, none, []⟩
    | some (header, fragment) =>
      match r.packages.find? fun q => q.hash == pcpp.getHashValue key with
      | some package => continuePackage r p.rawPacket header fragment package
      | none => startPackage r key fragment

/-- The reassembly object. -/
def api : IPReassembly Reassembler where
  create maxPacketsToStore := ⟨maxPacketsToStore, []⟩
  processPacket := processPacket
  removePacket r key := { r with
    packages := r.packages.filter fun q => q.hash ≠ pcpp.getHashValue key }
  getCurrentCapacity r := r.packages.length

/-- A raw IPv4 frame; a total length of zero stands for the whole of the frame. -/
def ipv4Frame (ipId fragment src dst payload : Bytes) : RawPacket :=
  ⟨[0x45, 0, 0, 0] ++ ipId ++ fragment ++ [64, 17, 0, 0] ++ src ++ dst ++ payload,
    linktypeDltRaw1⟩

/-- The first of two fragments of a datagram from 10.0.0.1:4000 to 10.0.0.2:5000. -/
def firstHalf (ipId : UInt8) : RawPacket :=
  ipv4Frame [0, ipId] [0x20, 0] [10, 0, 0, 1] [10, 0, 0, 2] [0x0F, 0xA0, 0x13, 0x88, 0, 10, 0, 0]

/-- The second of two fragments of such a datagram. -/
def secondHalf (ipId : UInt8) (payload : Bytes) : RawPacket :=
  ipv4Frame [0, ipId] [0, 1] [10, 0, 0, 1] [10, 0, 0, 2] payload

/-! ### The documented effect -/

/-- The hashes of the packages. -/
def Reassembler.hashes (r : Reassembler) : List UInt32 := r.packages.map Package.hash

/-- An object that may store `maxPackets` packages holds at most that many, under
different hashes. -/
def view (maxPackets : ℕ) : IPReassembly.View Reassembler where
  wellFormed r := r.hashes.Nodup ∧ r.packages.length ≤ maxPackets ∧ r.capacity = maxPackets
  storedHashes r := r.hashes.toFinset

theorem hashes_filter (packages : List Package) (h : UInt32) :
    (packages.filter fun q => q.hash ≠ h).map Package.hash =
      (packages.map Package.hash).filter (· ≠ h) := by
  rw [List.filter_map]
  rfl

theorem toFinset_filter_ne (l : List UInt32) (h : UInt32) :
    (l.filter (· ≠ h)).toFinset = l.toFinset.erase h := by
  ext a
  simp [and_comm]

theorem storedStatus_isStored (known : List Fragment) (fragment : Fragment) :
    (storedStatus known fragment).isStored = true := by
  unfold storedStatus
  split
  · rfl
  · split <;> rfl

variable {maxPackets : ℕ} {r : Reassembler}

/-- Dropping the packages of one hash leaves a well-formed object. -/
theorem wellFormed_filter (hr : (view maxPackets).wellFormed r) (h : UInt32) :
    (view maxPackets).wellFormed
      { r with packages := r.packages.filter fun q => q.hash ≠ h } := by
  obtain ⟨hnodup, hlen, hcap⟩ := hr
  refine ⟨?_, le_trans (List.length_filter_le _ _) hlen, hcap⟩
  change ((r.packages.filter fun q => q.hash ≠ h).map Package.hash).Nodup
  rw [hashes_filter]
  exact hnodup.filter _

theorem storedHashes_filter (h : UInt32) :
    (view maxPackets).storedHashes { r with packages := r.packages.filter fun q => q.hash ≠ h } =
      ((view maxPackets).storedHashes r).erase h := by
  change ((r.packages.filter fun q => q.hash ≠ h).map Package.hash).toFinset = _
  rw [hashes_filter, toFinset_filter_ne]
  rfl

/-- Adding a package of a new hash, where there is room. -/
theorem wellFormed_cons {package : Package} {packages : List Package}
    (hr : (view maxPackets).wellFormed { r with packages := packages })
    (hnew : package.hash ∉ packages.map Package.hash) (hlen : packages.length < maxPackets) :
    (view maxPackets).wellFormed { r with packages := package :: packages } := by
  obtain ⟨hnodup, -, hcap⟩ := hr
  exact ⟨List.nodup_cons.mpr ⟨hnew, hnodup⟩, hlen, hcap⟩

theorem storedHashes_cons (package : Package) (packages : List Package) :
    (view maxPackets).storedHashes { r with packages := package :: packages } =
      insert package.hash ((view maxPackets).storedHashes { r with packages := packages }) :=
  List.toFinset_cons

/-- What a call has to guarantee. -/
def MeetsDocumentation (maxPackets : ℕ) (r : Reassembler) (h : Option UInt32)
    (o : Processed Reassembler) : Prop :=
  (view maxPackets).wellFormed o.object ∧
    IPReassembly.StoreEffect pcpp.getHashValue maxPackets ((view maxPackets).storedHashes r) h
      o.status o.cleaned ((view maxPackets).storedHashes o.object)

theorem continuePackage_meets (hr : (view maxPackets).wellFormed r) (raw : RawPacket)
    (header : Bytes) (fragment : Fragment) {package : Package} (hmem : package ∈ r.packages) :
    MeetsDocumentation maxPackets r (some package.hash)
      (continuePackage r raw header fragment package) := by
  have hstored : package.hash ∈ (view maxPackets).storedHashes r :=
    List.mem_toFinset.mpr (List.mem_map_of_mem hmem)
  have hothers := wellFormed_filter hr package.hash
  unfold continuePackage
  simp only
  split
  · refine ⟨hothers, ?_⟩
    rw [storedHashes_filter]
    exact .completed rfl
  · -- the package moves to the front under the same hash
    have hnew : package.hash ∉
        (r.packages.filter fun p => p.hash ≠ package.hash).map Package.hash := by
      rw [hashes_filter]
      simp
    have hlen : (r.packages.filter fun p => p.hash ≠ package.hash).length < maxPackets := by
      refine lt_of_lt_of_le ?_ hr.2.1
      exact List.length_filter_lt_length_iff_exists.mpr ⟨package, hmem, by simp⟩
    refine ⟨wellFormed_cons hothers hnew hlen, ?_⟩
    rw [storedHashes_cons, storedHashes_filter]
    have hset : insert package.hash (((view maxPackets).storedHashes r).erase package.hash) =
        (view maxPackets).storedHashes r := Finset.insert_erase hstored
    change IPReassembly.StoreEffect _ _ _ _ _ _
      (insert package.hash (((view maxPackets).storedHashes r).erase package.hash))
    rw [hset]
    exact .known (storedStatus_isStored _ _) rfl hstored

theorem startPackage_meets (hmax : 1 ≤ maxPackets) (hr : (view maxPackets).wellFormed r)
    (key : PacketKey) (fragment : Fragment)
    (hnew : pcpp.getHashValue key ∉ (view maxPackets).storedHashes r) :
    MeetsDocumentation maxPackets r (some (pcpp.getHashValue key))
      (startPackage r key fragment) := by
  have hnew' : pcpp.getHashValue key ∉ r.packages.map Package.hash := fun h =>
    hnew (List.mem_toFinset.mpr h)
  have hcard : ((view maxPackets).storedHashes r).card = r.packages.length := by
    change (r.hashes.toFinset).card = _
    rw [List.toFinset_card_of_nodup hr.1, Reassembler.hashes, List.length_map]
  have hcap := hr.2.2
  unfold startPackage
  simp only
  split
  next hroom =>
    refine ⟨wellFormed_cons hr hnew' (by omega), ?_⟩
    rw [storedHashes_cons]
    exact .fresh (storedStatus_isStored _ _) rfl hnew (by omega)
  next hroom =>
    -- the package used least recently is the last one
    rcases List.eq_nil_or_concat r.packages with hnil | ⟨packages, old, hconcat⟩
    · rw [hnil] at hroom
      simp only [List.length_nil] at hroom
      omega
    · rw [List.concat_eq_append] at hconcat
      obtain ⟨hnodup, hlen, -⟩ := hr
      rw [Reassembler.hashes, hconcat, List.map_append, List.nodup_append'] at hnodup
      rw [hconcat] at hnew' hlen
      rw [List.length_append, List.length_singleton] at hlen
      have hnotin : pcpp.getHashValue key ∉ packages.map Package.hash := fun h =>
        hnew' (by rw [List.map_append]; exact List.mem_append_left _ h)
      have hset : (packages.map Package.hash).toFinset =
          ((view maxPackets).storedHashes r).erase old.hash := by
        change _ = (r.packages.map Package.hash).toFinset.erase old.hash
        rw [hconcat, List.map_append, List.toFinset_append]
        have hold : old.hash ∉ (packages.map Package.hash).toFinset := fun h =>
          hnodup.2.2 (List.mem_toFinset.mp h) (by simp)
        simp [Finset.erase_eq_of_notMem hold]
      have hmem : old.hash ∈ (view maxPackets).storedHashes r := by
        change old.hash ∈ (r.packages.map Package.hash).toFinset
        rw [hconcat]
        simp
      rw [hconcat, List.dropLast_concat, List.getLast?_concat]
      refine ⟨wellFormed_cons ⟨hnodup.1, by change packages.length ≤ _; omega, hcap⟩ hnotin
        (by omega), ?_⟩
      rw [storedHashes_cons]
      change IPReassembly.StoreEffect _ _ _ _ _ _
        (insert _ (packages.map Package.hash).toFinset)
      rw [hset]
      exact .evicting (storedStatus_isStored _ _) rfl hnew (by omega) hmem

theorem processPacket_meets (hmax : 1 ≤ maxPackets) (hr : (view maxPackets).wellFormed r)
    (p : Packet) :
    MeetsDocumentation maxPackets r ((IPReassembly.fragmentKey p).map pcpp.getHashValue)
      (processPacket r p) := by
  unfold processPacket
  cases hkey : IPReassembly.fragmentKey p with
  | none =>
    refine ⟨hr, .ignored ?_⟩
    simp only
    split
    · exact Or.inr (Or.inl rfl)
    · exact Or.inl rfl
  | some key =>
    simp only [Option.map_some]
    split
    · exact ⟨hr, .ignored (Or.inr (Or.inr rfl))⟩
    · split
      next package hfind =>
        have hhash : package.hash = pcpp.getHashValue key := by
          simpa using List.find?_some hfind
        rw [← hhash]
        exact continuePackage_meets hr _ _ _ (List.mem_of_find?_eq_some hfind)
      next hfind =>
        refine startPackage_meets hmax hr key _ ?_
        intro hmem
        obtain ⟨q, hq, hqk⟩ := List.mem_map.mp (List.mem_toFinset.mp hmem)
        exact absurd hqk (by simpa using List.find?_eq_none.mp hfind q hq)

/-- **The documented effect on the stored keys is met.** -/
theorem spec (hmax : 1 ≤ maxPackets) : api.Spec (view maxPackets) pcpp.getHashValue maxPackets where
  create_wellFormed := ⟨List.nodup_nil, Nat.zero_le _, rfl⟩
  create_stored := rfl
  remove_wellFormed r key hr := wellFormed_filter hr (pcpp.getHashValue key)
  remove_stored r key _ := storedHashes_filter (pcpp.getHashValue key)
  process_wellFormed r p hr := (processPacket_meets hmax hr p).1
  process_stored r p hr := (processPacket_meets hmax hr p).2
  currentCapacity r hr := by
    change r.packages.length = (r.hashes.toFinset).card
    rw [List.toFinset_card_of_nodup hr.1, Reassembler.hashes, List.length_map]

/-- Packages are removed independently, and only fragments are stored. -/
theorem laws : api.Laws where
  remove_comm r key key' := by
    simp only [api, List.filter_filter, Bool.and_comm]
  accepts_fragments r p h := by
    change (processPacket r p).status.isReassembled = true ∨
      (processPacket r p).status.isStored = true at h
    unfold processPacket at h
    cases hkey : IPReassembly.fragmentKey p with
    | some key => exact ⟨key, rfl⟩
    | none =>
      rw [hkey] at h
      simp only at h
      split at h <;> rcases h with h | h <;> cases h

end SmallPcpp

end Udpcap
