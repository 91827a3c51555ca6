import Mathlib.Data.UInt
import Udpcap.Foundation.PcapFilter
import Udpcap.Foundation.StdSet

/-!
# Host addresses

`HostAddress` of `host_address.cpp`: an IPv4 address together with a validity
flag.  `ipv4` is the 32-bit integer that `inet_pton` wrote into memory, read on a
little-endian machine, so its lowest byte is the first octet.

## Main definitions

* `HostAddress` — the address, its predicates and its comparison operators.
* `octets` — the four octets in textual order.

## Main results

* `separates_of_valid` — among valid addresses, incomparable means equal, which
  is what a `std::set<HostAddress>` relies on.
-/

namespace Udpcap

/-- An IPv4 address or the invalid address. -/
structure HostAddress where
  /-- Whether this address is valid. -/
  valid : Bool
  /-- The integer representation of this address. -/
  ipv4 : UInt32
  deriving DecidableEq, Repr

/-- The octets of an address in textual order: the lowest byte comes first. -/
def octets (n : UInt32) : List ℕ :=
  [n.toNat % 256, n.toNat / 256 % 256, n.toNat / 65536 % 256, n.toNat / 16777216]

theorem length_octets (n : UInt32) : (octets n).length = 4 := rfl

theorem octets_lt (n : UInt32) : ∀ k ∈ octets n, k < 256 := by
  have := n.toNat_lt
  intro k hk
  simp only [octets, List.mem_cons, List.not_mem_nil, or_false] at hk
  omega

theorem octets_injective {n m : UInt32} (h : octets n = octets m) : n = m := by
  simp only [octets, List.cons.injEq, and_true] at h
  apply UInt32.toNat_inj.mp
  omega

/-- `inet_ntop(AF_INET, ..)`: the dotted notation of the four bytes in memory. -/
def inetNtop (n : UInt32) : List Char := PcapFilter.dotted (octets n)

namespace HostAddress

/-- The address of the default constructor. -/
def invalid : HostAddress := ⟨false, 0⟩

/-- The address of an integer. -/
def ofInt (address : UInt32) : HostAddress := ⟨true, address⟩

/-- 0.0.0.0 -/
def any : HostAddress := ofInt 0x00000000

/-- 127.0.0.1 -/
def localHost : HostAddress := ofInt 0x0100007F

/-- 255.255.255.255 -/
def broadcast : HostAddress := ofInt 0xFFFFFFFF

def isValid (a : HostAddress) : Bool := a.valid

/-- The first octet is 127. -/
def isLoopback (a : HostAddress) : Bool :=
  if a.valid then a.ipv4 &&& 0x000000FF == 127 else false

/-- The first octet is between 224 and 239. -/
def isMulticast (a : HostAddress) : Bool :=
  if a.valid then
    let lowerByte := a.ipv4 &&& 0x000000FF
    decide (224 ≤ lowerByte) && decide (lowerByte ≤ 239)
  else false

/-- The dotted notation, empty for an invalid address. -/
def toString (a : HostAddress) : List Char := if a.valid then inetNtop a.ipv4 else []

def toInt (a : HostAddress) : UInt32 := a.ipv4

/-! ### Comparison operators -/

/-- `operator==` -/
def eq (a b : HostAddress) : Bool := a.valid == b.valid && a.ipv4 == b.ipv4

/-- `operator!=` -/
def ne (a b : HostAddress) : Bool := !eq a b

/-- `operator<`: an invalid address compares to nothing. -/
def lt (a b : HostAddress) : Bool :=
  if !a.valid || !b.valid then false else decide (a.ipv4 < b.ipv4)

/-- `operator>` -/
def gt (a b : HostAddress) : Bool :=
  if !a.valid || !b.valid then false else decide (a.ipv4 > b.ipv4)

/-- `operator<=`: the validity does not matter. -/
def le (a b : HostAddress) : Bool := decide (a.ipv4 < b.ipv4) || a.ipv4 == b.ipv4

/-- `operator>=` -/
def ge (a b : HostAddress) : Bool := decide (a.ipv4 > b.ipv4) || a.ipv4 == b.ipv4

@[simp] theorem eq_iff {a b : HostAddress} : eq a b = true ↔ a = b := by
  cases a
  cases b
  simp [eq]

@[simp] theorem ne_iff {a b : HostAddress} : ne a b = true ↔ a ≠ b := by
  rw [ne, Bool.not_eq_true', ← Bool.not_eq_true, eq_iff]

theorem lt_iff {a b : HostAddress} :
    lt a b = true ↔ a.valid = true ∧ b.valid = true ∧ a.ipv4 < b.ipv4 := by
  cases a with | mk va na =>
  cases b with | mk vb nb =>
  cases va <;> cases vb <;> simp [lt]

/-- **Among valid addresses, incomparable means equal.** -/
theorem separates_of_valid {a : HostAddress} {l : List HostAddress} (ha : a.valid = true)
    (hl : ∀ b ∈ l, b.valid = true) : StdSet.Separates lt a l := by
  intro b hb
  have hbv := hl b hb
  obtain ⟨va, na⟩ := a
  obtain ⟨vb, nb⟩ := b
  simp only at ha hbv
  subst ha hbv
  simp only [StdSet.equiv, lt, Bool.not_true, Bool.or_self, Bool.false_eq_true, if_false,
    Bool.and_eq_true, Bool.not_eq_true', decide_eq_false_iff_not, UInt32.not_lt,
    HostAddress.mk.injEq, true_and]
  constructor
  · rintro ⟨h₁, h₂⟩
    exact UInt32.le_antisymm h₁ h₂
  · rintro rfl
    exact ⟨UInt32.le_refl _, UInt32.le_refl _⟩

theorem valid_of_isMulticast {a : HostAddress} (h : a.isMulticast = true) : a.valid = true := by
  unfold isMulticast at h
  split at h
  · assumption
  · cases h

end HostAddress

end Udpcap
