import Mathlib.Data.List.TakeWhile
import Mathlib.Data.Option.Basic
import Udpcap.Foundation.Decimal
import Udpcap.HostAddress

/-!
# Host addresses and their text

`HostAddress(const std::string&)` and `HostAddress::toString`.  A `std::string` is a list
of characters of any length and may contain the character NUL, but what `inet_pton` gets
is a pointer: it reads up to the first NUL.

## Main definitions

* `cString` — what is read behind a pointer to characters.
* `inetPton`, `HostAddress.ofString` — the address of a text.
* `inetNtopInto`, `HostAddress.toStringInBuffer` — the text of an address, through the
  buffer.
* `DottedQuad` — the grammar of dotted quads.

## Main results

* `inetPton_eq_some_iff` — the parser and the printer are inverse to each other.
* `toStringInBuffer_eq` — **the text always fits the buffer.**
* `text_agrees_iff` — **a string is accepted as it should be unless the part in front of
  a NUL is a dotted quad.**
-/

namespace Udpcap

open Decimal

/-! ### Strings and pointers -/

/-- `s.c_str()`, read as a C string: the characters up to the first NUL. -/
def cString (s : List Char) : List Char := s.takeWhile (· ≠ '\x00')

theorem cString_of_not_mem {s : List Char} (h : '\x00' ∉ s) : cString s = s := by
  unfold cString
  rw [List.takeWhile_eq_self_iff]
  intro c hc
  exact decide_eq_true (ne_of_mem_of_not_mem hc h)

theorem cString_append_nul {s : List Char} (h : '\x00' ∉ s) (t : List Char) :
    cString (s ++ '\x00' :: t) = s := by
  unfold cString
  rw [List.takeWhile_append_of_pos]
  · simp
  · intro c hc
    exact decide_eq_true (ne_of_mem_of_not_mem hc h)

/-! ### Dotted quads -/

/-- The integer that stands in memory after four octets have been stored in network order,
read on a little-endian machine. -/
def ofOctets (a b c d : ℕ) : UInt32 := UInt32.ofNat (a + 256 * b + 65536 * c + 16777216 * d)

theorem octets_ofOctets {a b c d : ℕ} (ha : a < 256) (hb : b < 256) (hc : c < 256)
    (hd : d < 256) : octets (ofOctets a b c d) = [a, b, c, d] := by
  have hlt : a + 256 * b + 65536 * c + 16777216 * d < 2 ^ 32 := by omega
  unfold octets ofOctets
  rw [UInt32.toNat_ofNat_of_lt' hlt]
  simp only [List.cons.injEq, and_true]
  omega

theorem exists_octets (n : UInt32) :
    ∃ a b c d, a < 256 ∧ b < 256 ∧ c < 256 ∧ d < 256 ∧ octets n = [a, b, c, d] := by
  have hlt := octets_lt n
  simp only [octets, List.forall_mem_cons, List.not_mem_nil, false_implies, implies_true,
    and_true] at hlt
  obtain ⟨ha, hb, hc, hd⟩ := hlt
  exact ⟨_, _, _, _, ha, hb, hc, hd, rfl⟩

/-- A decimal octet. -/
def readOctet (w : List Char) : Option ℕ :=
  if Numeral w ∧ Nat.ofDigitChars 10 w 0 < 256 then some (Nat.ofDigitChars 10 w 0) else none

/-- `inet_pton(AF_INET, ..)`, with the integer that it stores if it succeeds. -/
def inetPton (src : List Char) : Option UInt32 :=
  match (src.splitOn '.').mapM readOctet with
  | some [a, b, c, d] => some (ofOctets a b c d)
  | _ => none

/-- Four decimal octets without superfluous leading zeros, separated by dots. -/
def DottedQuad (s : List Char) : Prop :=
  ∃ a b c d, a < 256 ∧ b < 256 ∧ c < 256 ∧ d < 256 ∧ s = PcapFilter.dotted [a, b, c, d]

theorem readOctet_eq_some_iff {w : List Char} {n : ℕ} :
    readOctet w = some n ↔ w = Nat.toDigits 10 n ∧ n < 256 := by
  unfold readOctet
  constructor
  · intro h
    split at h
    next hw =>
      cases h
      exact ⟨(toDigits_ofDigitChars hw.1).symm, hw.2⟩
    next => cases h
  · rintro ⟨rfl, hn⟩
    rw [Nat.ofDigitChars_ten_toDigits, if_pos ⟨numeral_toDigits n, hn⟩]

/-- The printed octets are read back, and nothing else. -/
theorem mapM_readOctet_eq_some_iff {l : List (List Char)} {ns : List ℕ} :
    l.mapM readOctet = some ns ↔ l = ns.map (Nat.toDigits 10) ∧ ∀ n ∈ ns, n < 256 := by
  induction l generalizing ns with
  | nil => cases ns <;> simp
  | cons w l ih =>
    rw [List.mapM_cons]
    cases ns with
    | nil => simp [Option.bind_eq_some_iff]
    | cons n ns =>
      simp only [Option.bind_eq_bind, Option.pure_def, Option.bind_eq_some_iff, Option.some.injEq,
        List.cons.injEq, List.map_cons, List.forall_mem_cons]
      constructor
      · rintro ⟨n', hn', ns', hns', rfl, rfl⟩
        obtain ⟨hw, hlt⟩ := readOctet_eq_some_iff.mp hn'
        obtain ⟨hl, hall⟩ := ih.mp hns'
        exact ⟨⟨hw, hl⟩, hlt, hall⟩
      · rintro ⟨⟨hw, hl⟩, hlt, hall⟩
        exact ⟨n, readOctet_eq_some_iff.mpr ⟨hw, hlt⟩, ns, ih.mpr ⟨hl, hall⟩, rfl, rfl⟩

theorem splitOn_dotted {ns : List ℕ} (hne : ns ≠ []) :
    (PcapFilter.dotted ns).splitOn '.' = ns.map (Nat.toDigits 10) := by
  apply List.splitOn_intercalate
  · intro w hw hdot
    obtain ⟨n, -, rfl⟩ := List.mem_map.mp hw
    exact absurd (isDigit_toDigits hdot) (by decide)
  · simpa using hne

/-- **The parser and the printer are inverse to each other.** -/
theorem inetPton_eq_some_iff {s : List Char} {n : UInt32} :
    inetPton s = some n ↔ s = inetNtop n := by
  unfold inetPton inetNtop
  constructor
  · intro h
    split at h
    next a b c d hread =>
      cases h
      obtain ⟨hsplit, hlt⟩ := mapM_readOctet_eq_some_iff.mp hread
      simp only [List.forall_mem_cons, List.not_mem_nil, false_implies, implies_true,
        and_true] at hlt
      obtain ⟨ha, hb, hc, hd⟩ := hlt
      rw [octets_ofOctets ha hb hc hd]
      unfold PcapFilter.dotted
      rw [← hsplit, List.intercalate_splitOn]
    next => cases h
  · rintro rfl
    obtain ⟨a, b, c, d, ha, hb, hc, hd, hn⟩ := exists_octets n
    rw [splitOn_dotted (by simp [octets]),
      mapM_readOctet_eq_some_iff.mpr ⟨rfl, octets_lt n⟩, hn]
    exact congrArg some (octets_injective ((octets_ofOctets ha hb hc hd).trans hn.symm))

theorem dottedQuad_iff {s : List Char} : DottedQuad s ↔ ∃ n, s = inetNtop n := by
  constructor
  · rintro ⟨a, b, c, d, ha, hb, hc, hd, rfl⟩
    refine ⟨ofOctets a b c d, ?_⟩
    rw [inetNtop, octets_ofOctets ha hb hc hd]
  · rintro ⟨n, rfl⟩
    obtain ⟨a, b, c, d, ha, hb, hc, hd, hn⟩ := exists_octets n
    exact ⟨a, b, c, d, ha, hb, hc, hd, congrArg PcapFilter.dotted hn⟩

theorem isSome_inetPton_iff {s : List Char} : (inetPton s).isSome = true ↔ DottedQuad s := by
  rw [dottedQuad_iff, Option.isSome_iff_exists]
  simp only [inetPton_eq_some_iff]

instance (s : List Char) : Decidable (DottedQuad s) := decidable_of_iff _ isSome_inetPton_iff

/-! ### The buffer -/

/-- `inet_ntop(AF_INET, .., buffer, size)`, with the size of the buffer: the text with its
NUL is written to the start of the buffer, if there is room. -/
def inetNtopInto (buffer : List Char) (n : UInt32) : List Char :=
  let text := inetNtop n ++ ['\x00']
  if text.length ≤ buffer.length then text ++ buffer.drop text.length else buffer

theorem not_mem_dotted {c : Char} (hdigit : c.isDigit = false) (hdot : c ≠ '.') (ns : List ℕ) :
    c ∉ PcapFilter.dotted ns := by
  unfold PcapFilter.dotted
  induction ns with
  | nil => simp
  | cons n ns ih =>
    have hn : c ∉ Nat.toDigits 10 n := by
      intro hc
      rw [isDigit_toDigits hc] at hdigit
      cases hdigit
    cases ns with
    | nil => simpa using hn
    | cons m ns =>
      rw [List.map_cons, List.map_cons, List.intercalate_cons_cons, ← List.map_cons]
      simp only [List.mem_append, List.mem_singleton, not_or]
      exact ⟨⟨hn, hdot⟩, ih⟩

theorem not_mem_inetNtop (n : UInt32) : '\x00' ∉ inetNtop n :=
  not_mem_dotted (by decide) (by decide) _

/-- The longest text is that of 255.255.255.255. -/
theorem length_inetNtop_le (n : UInt32) : (inetNtop n).length ≤ 15 := by
  have hlen : ∀ k < 256, (Nat.toDigits 10 k).length ≤ 3 := by
    intro k hk
    exact length_le_of_lt (by omega) (by omega)
  obtain ⟨a, b, c, d, ha, hb, hc, hd, hn⟩ := exists_octets n
  have hla := hlen a ha
  have hlb := hlen b hb
  have hlc := hlen c hc
  have hld := hlen d hd
  unfold inetNtop PcapFilter.dotted
  simp only [hn, List.map_cons, List.map_nil, List.intercalate_cons_cons,
    List.intercalate_singleton, List.length_append, List.length_singleton]
  omega

/-- A buffer of 16 characters holds every text. -/
theorem cString_inetNtopInto {buffer : List Char} (h : 16 ≤ buffer.length) (n : UInt32) :
    cString (inetNtopInto buffer n) = inetNtop n := by
  have hlen := length_inetNtop_le n
  have hfits : (inetNtop n ++ ['\x00']).length ≤ buffer.length := by
    rw [List.length_append, List.length_singleton]
    omega
  unfold inetNtopInto
  simp only
  rw [if_pos hfits, List.append_assoc, List.singleton_append,
    cString_append_nul (not_mem_inetNtop n)]

/-! ### Addresses and texts -/

namespace HostAddress

/-- `HostAddress(const std::string&)`: without success `inet_pton` stores nothing. -/
def ofString (address : List Char) : HostAddress :=
  match inetPton (cString address) with
  | some n => ⟨true, n⟩
  | none => ⟨false, 0⟩

/-- `toString`, through the buffer of 16 characters. -/
def toStringInBuffer (a : HostAddress) : List Char :=
  if a.valid then cString (inetNtopInto (List.replicate 16 '\x00') a.ipv4) else []

/-- **The text always fits the buffer.** -/
theorem toStringInBuffer_eq (a : HostAddress) : a.toStringInBuffer = a.toString := by
  unfold toStringInBuffer toString
  rw [cString_inetNtopInto (by simp)]

theorem isValid_ofString {s : List Char} :
    (ofString s).isValid = true ↔ DottedQuad (cString s) := by
  rw [← isSome_inetPton_iff]
  unfold ofString isValid
  cases inetPton (cString s) <;> simp

/-- The text of a valid address is read back. -/
theorem ofString_toString {a : HostAddress} (h : a.isValid = true) : ofString a.toString = a := by
  cases a with | mk valid n =>
  have hvalid : valid = true := h
  subst hvalid
  unfold ofString toString
  rw [if_pos rfl, cString_of_not_mem (not_mem_inetNtop n), inetPton_eq_some_iff.mpr rfl]

end HostAddress

open HostAddress

/-- What the text of addresses is meant to be: a string is accepted exactly if the whole of
it is a dotted quad, and printed addresses are read back. -/
structure TextAgrees (s : List Char) : Prop where
  accepted_iff : (ofString s).isValid = true ↔ DottedQuad s
  reads_back : (ofString s).isValid = true →
    eq (ofString (ofString s).toStringInBuffer) (ofString s) = true
  reads_back_int : ∀ n, eq (ofString (ofInt n).toStringInBuffer) (ofInt n) = true
  fits : ∀ n, (inetNtop n).length + 1 ≤ 16

theorem not_dottedQuad_of_nul {s : List Char} (h : '\x00' ∈ s) : ¬DottedQuad s := by
  intro hquad
  obtain ⟨n, rfl⟩ := dottedQuad_iff.mp hquad
  exact not_mem_inetNtop n h

/-- **A string is accepted as it should be unless it has a NUL behind a dotted quad**, and
printed addresses are always read back. -/
theorem text_agrees_iff (s : List Char) :
    TextAgrees s ↔ ¬('\x00' ∈ s ∧ DottedQuad (cString s)) := by
  constructor
  · rintro h ⟨hnul, hquad⟩
    exact not_dottedQuad_of_nul hnul (h.accepted_iff.mp (isValid_ofString.mpr hquad))
  · intro h
    constructor
    · rw [isValid_ofString]
      by_cases hnul : '\x00' ∈ s
      · exact iff_of_false (fun hquad => h ⟨hnul, hquad⟩) (not_dottedQuad_of_nul hnul)
      · rw [cString_of_not_mem hnul]
    · intro hvalid
      rw [eq_iff, toStringInBuffer_eq, ofString_toString hvalid]
    · intro n
      rw [eq_iff, toStringInBuffer_eq, ofString_toString rfl]
    · intro n
      have hlen := length_inetNtop_le n
      omega

/-- 127.0.0.1 is accepted with a NUL and more text behind it. -/
theorem text_behind_nul_accepted :
    (ofString "127.0.0.1\x00.example".toList).isValid = true ∧
      ¬DottedQuad "127.0.0.1\x00.example".toList ∧
      ¬TextAgrees "127.0.0.1\x00.example".toList := by
  have hvalid : (ofString "127.0.0.1\x00.example".toList).isValid = true := by decide +kernel
  have hquad : ¬DottedQuad "127.0.0.1\x00.example".toList := not_dottedQuad_of_nul (by decide)
  exact ⟨hvalid, hquad, fun h => hquad (h.accepted_iff.mp hvalid)⟩

end Udpcap
