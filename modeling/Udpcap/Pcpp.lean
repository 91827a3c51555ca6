import Mathlib.Data.Finset.Card
import Mathlib.Data.UInt

/-!
# Pcap++

The types and operations of Pcap++ that the socket uses.  Pcap++ is not part of
the repository, so its parser and its `IPReassembly` are parameters; what the code
relies on is stated about them where it is needed.

## Main definitions

* `RawPacket`, `Packet`, `IPv4Layer`, `UdpLayer` — captured and parsed packets.
* `PacketKey`, `ReassemblyStatus` — the vocabulary of `pcpp::IPReassembly`.
* `Pcpp`, `IPReassembly` — the parser and the reassembly object.
* `IPReassembly.StoreEffect`, `IPReassembly.Spec` — the documented effect of
  `IPReassembly` on the keys it stores.
-/

namespace Udpcap

abbrev Bytes := List UInt8

/-! ### Packets -/

/-- `pcpp::LinkLayerType`, by the number that `pcap_datalink` reports. -/
abbrev LinkLayerType := ℕ

/-- `LINKTYPE_NULL`: BSD loopback encapsulation. -/
def linktypeNull : LinkLayerType := 0

/-- `LINKTYPE_ETHERNET`, the value of `DLT_EN10MB`. -/
def linktypeEthernet : LinkLayerType := 1

/-- `LINKTYPE_DLT_RAW1`, the value of `DLT_RAW`: the frame is an IP packet. -/
def linktypeDltRaw1 : LinkLayerType := 12

/-- `pcpp::RawPacket`: captured bytes and how to read them. -/
structure RawPacket where
  data : Bytes
  linkType : LinkLayerType
  deriving DecidableEq, Repr

/-- `pcpp::IPv4Layer`.  The header fields are in network byte order. -/
structure IPv4Layer where
  ipId : UInt16
  srcIPv4Address : UInt32
  dstIPv4Address : UInt32
  isFragment : Bool
  deriving DecidableEq, Repr

/-- `pcpp::IPv6Layer`, with the id of its fragmentation header, if it has one. -/
structure IPv6Layer where
  srcIPv6Address : ℕ
  dstIPv6Address : ℕ
  fragHeaderId : Option UInt32
  deriving DecidableEq, Repr

/-- `pcpp::UdpLayer`.  The ports are in network byte order. -/
structure UdpLayer where
  portSrc : UInt16
  portDst : UInt16
  layerPayload : Bytes
  deriving DecidableEq, Repr

/-- `pcpp::Packet`: the first layer of each type, `none` where
`getLayerOfType` returns a null pointer. -/
structure Packet where
  rawPacket : RawPacket
  ipv4Layer : Option IPv4Layer
  ipv6Layer : Option IPv6Layer
  udpLayer : Option UdpLayer
  deriving DecidableEq, Repr

/-- The packet is an IPv4 fragment. -/
def Packet.isFragment (p : Packet) : Bool := p.ipv4Layer.any IPv4Layer.isFragment

/-- `pcpp::ProtocolType`: how far a packet is parsed. -/
inductive ProtocolType
  | udp
  | unknownProtocol
  deriving DecidableEq, Repr

/-- `ntohs` and `_byteswap_ushort` on a little-endian machine. -/
def ntohs (n : UInt16) : UInt16 := n <<< 8 ||| n >>> 8

/-- `ntohl` on a little-endian machine. -/
def ntohl (n : UInt32) : UInt32 :=
  n <<< 24 ||| (n <<< 8 &&& (0x00FF0000 : UInt32)) ||| (n >>> 8 &&& (0x0000FF00 : UInt32)) |||
    n >>> 24

/-! ### Reassembly -/

/-- `pcpp::IPReassembly::PacketKey` and its two subclasses. -/
inductive PacketKey
  | ipv4 (ipId : UInt16) (srcIP dstIP : UInt32)
  | ipv6 (fragId : UInt32) (srcIP dstIP : ℕ)
  deriving DecidableEq, Repr

/-- `pcpp::IPReassembly::ReassemblyStatus`.  The flags of the C++ enumeration are
pairwise disjoint, so a test against a mask is a test for membership. -/
inductive ReassemblyStatus
  | nonIpPacket
  | nonFragment
  | firstFragment
  | fragment
  | outOfOrderFragment
  | malformedFragment
  | reassembled
  deriving DecidableEq, Repr

/-- `status & REASSEMBLED`. -/
def ReassemblyStatus.isReassembled (status : ReassemblyStatus) : Bool := status = .reassembled

/-- `status & (FIRST_FRAGMENT | FRAGMENT | OUT_OF_ORDER_FRAGMENT)`. -/
def ReassemblyStatus.isStored (status : ReassemblyStatus) : Bool :=
  status = .firstFragment ∨ status = .fragment ∨ status = .outOfOrderFragment

theorem ReassemblyStatus.not_isReassembled {status : ReassemblyStatus}
    (h : status.isStored = true) : ¬status.isReassembled = true := by
  cases status <;> first | exact Bool.false_ne_true | cases h

/-- The parser and the hash function of Pcap++. -/
structure Pcpp where
  /-- `pcpp::Packet(&rawPacket, parseUntil)`. -/
  parse : ProtocolType → RawPacket → Packet
  /-- `PacketKey::getHashValue`. -/
  getHashValue : PacketKey → UInt32

/-- What one call of `pcpp::IPReassembly::processPacket` did. -/
structure Processed (R : Type) where
  /-- The object afterwards. -/
  object : R
  status : ReassemblyStatus
  /-- The packet returned, `none` for a null pointer. -/
  packet : Option RawPacket
  /-- The keys handed to the `OnFragmentsClean` callback during the call. -/
  cleaned : List PacketKey

/-- A `pcpp::IPReassembly` object: its constructor and its methods. -/
structure IPReassembly (R : Type) where
  create : (maxPacketsToStore : ℕ) → R
  processPacket : R → Packet → Processed R
  removePacket : R → PacketKey → R
  getCurrentCapacity : R → ℕ

/-- `PCPP_IP_REASSEMBLY_DEFAULT_MAX_PACKETS_TO_STORE` -/
def defaultMaxPacketsToStore : ℕ := 500000

namespace IPReassembly

variable {R : Type}

/-- The key of a fragment, as documented: the id, the source and the destination;
a packet that is not a fragment has none. -/
def fragmentKey (p : Packet) : Option PacketKey :=
  match p.ipv4Layer, p.ipv6Layer with
  | some ip, _ =>
    if ip.isFragment then some (.ipv4 (ntohs ip.ipId) ip.srcIPv4Address ip.dstIPv4Address)
    else none
  | none, some ip =>
    ip.fragHeaderId.map fun id => .ipv6 (ntohl id) ip.srcIPv6Address ip.dstIPv6Address
  | none, none => none

/-- **The documented effect of one `processPacket` call** on the set of stored key
hashes, for a packet whose key hashes to `h`. -/
inductive StoreEffect (hash : PacketKey → UInt32) (maxPackets : ℕ) (stored : Finset UInt32)
    (h : Option UInt32) : ReassemblyStatus → List PacketKey → Finset UInt32 → Prop
  /-- The packet is not a fragment, or it is malformed. -/
  | ignored {status} (hs : status = .nonIpPacket ∨ status = .nonFragment ∨
      status = .malformedFragment) : StoreEffect hash maxPackets stored h status [] stored
  /-- A further fragment of a stored packet. -/
  | known {status k} (hs : status.isStored = true) (hh : h = some k) (hk : k ∈ stored) :
      StoreEffect hash maxPackets stored h status [] stored
  /-- The first fragment to arrive of a new packet. -/
  | fresh {status k} (hs : status.isStored = true) (hh : h = some k) (hk : k ∉ stored)
      (hcap : stored.card < maxPackets) :
      StoreEffect hash maxPackets stored h status [] (insert k stored)
  /-- The same, when there is no room: one stored packet is evicted. -/
  | evicting {status k old} (hs : status.isStored = true) (hh : h = some k) (hk : k ∉ stored)
      (hcap : maxPackets ≤ stored.card) (hold : hash old ∈ stored) :
      StoreEffect hash maxPackets stored h status [old] (insert k (stored.erase (hash old)))
  /-- The last missing fragment. -/
  | completed {k} (hh : h = some k) :
      StoreEffect hash maxPackets stored h .reassembled [] (stored.erase k)
  /-- A new packet that is complete at once, when there is no room. -/
  | completedEvicting {k old} (hh : h = some k) (hk : k ∉ stored)
      (hcap : maxPackets ≤ stored.card) (hold : hash old ∈ stored) :
      StoreEffect hash maxPackets stored h .reassembled [old] (stored.erase (hash old))

/-- How to read the stored key hashes off an object, and which objects are well
formed. -/
structure View (R : Type) where
  wellFormed : R → Prop
  storedHashes : R → Finset UInt32

/-- What Pcap++ documents about the keys an `IPReassembly` object stores. -/
structure Spec (api : IPReassembly R) (view : View R) (hash : PacketKey → UInt32)
    (maxPackets : ℕ) : Prop where
  create_wellFormed : view.wellFormed (api.create maxPackets)
  create_stored : view.storedHashes (api.create maxPackets) = ∅
  remove_wellFormed : ∀ r k, view.wellFormed r → view.wellFormed (api.removePacket r k)
  /-- `removePacket` forgets the key, and only that key. -/
  remove_stored : ∀ r k, view.wellFormed r →
    view.storedHashes (api.removePacket r k) = (view.storedHashes r).erase (hash k)
  process_wellFormed : ∀ r p, view.wellFormed r → view.wellFormed (api.processPacket r p).object
  process_stored : ∀ r p, view.wellFormed r →
    StoreEffect hash maxPackets (view.storedHashes r) ((fragmentKey p).map hash)
      (api.processPacket r p).status (api.processPacket r p).cleaned
      (view.storedHashes (api.processPacket r p).object)
  currentCapacity : ∀ r, view.wellFormed r →
    api.getCurrentCapacity r = (view.storedHashes r).card

/-- What Pcap++ documents about removal and about the packets it stores. -/
structure Laws (api : IPReassembly R) : Prop where
  /-- Packages are removed independently of one another. -/
  remove_comm : ∀ r k k',
    api.removePacket (api.removePacket r k) k' = api.removePacket (api.removePacket r k') k
  /-- Only a fragment is stored or completes a package. -/
  accepts_fragments : ∀ r p, ((api.processPacket r p).status.isReassembled = true ∨
    (api.processPacket r p).status.isStored = true) → ∃ k, fragmentKey p = some k

end IPReassembly

end Udpcap
