import Udpcap.Foundation.Delimited
import Udpcap.LoopbackDevice

/-!
# The text in the registry

From the value `LoopbackAdapter` of the registry to the text that is stored for the UUID:
`GetStringRegKey` reads the value into a buffer of fixed size, `wstring_convert` turns it
into UTF-8, and the text between the brackets is cut out with `find` and `substr`, whose
positions may be `npos`.

## Main definitions

* `RegSz`, `getStringRegKey`, `toBytes` — the value, and what is read of it.
* `Registry.ofKey` — what a lookup finds in a key with given values.
* `RegSz.bracketed` — the text between the first `{` and the first `}` behind it.
* `NpcapHelpers.StoresBracketed` — that text is what is stored.

## Main results

* `uuidOf_of_no_open`, `uuidOf_of_open` — what the positions come to, with the wrapping of
  `npos`.
* `substr_start_le` — **`substr` never starts behind the end of the string.**
* `stores_bracketed_iff` — **the text is stored exactly for the values that are short enough
  and have the brackets, or are empty.**
-/

namespace Udpcap

open Delimited

/-! ### The value -/

/-- A value of type `REG_SZ`: UTF-16 code units up to the first NUL. -/
structure RegSz where
  units : List UInt16
  not_mem_nul : 0 ∉ units

/-- `GetStringRegKey`.  The buffer holds 512 code units, and the value is stored with its
NUL; one that does not fit is not read. -/
def getStringRegKey (value : Option RegSz) (defaultValue : List UInt16) : List UInt16 :=
  match value with
  | some v => if 2 * (v.units.length + 1) ≤ 1024 then v.units else defaultValue
  | none => defaultValue

/-- A code unit in UTF-8. -/
def utf8Unit (u : UInt16) : List Char :=
  let n := u.toNat
  if n < 0x80 then [Char.ofNat n]
  else if n < 0x800 then [Char.ofNat (0xC0 + n / 64), Char.ofNat (0x80 + n % 64)]
  else [Char.ofNat (0xE0 + n / 4096), Char.ofNat (0x80 + n / 64 % 64), Char.ofNat (0x80 + n % 64)]

/-- `converter.to_bytes`: every code unit by itself. -/
def toBytes (s : List UInt16) : List Char := s.flatMap utf8Unit

/-- What a lookup finds in a key with the values `LoopbackSupport` and `LoopbackAdapter`. -/
def Registry.ofKey (loopbackSupport : Option ℕ) (loopbackAdapter : Option RegSz) : Registry :=
  .parameters loopbackSupport (some (toBytes (getStringRegKey loopbackAdapter [])))

/-- `{` and `}` -/
def openBracket : UInt16 := 0x7B

def closingBracket : UInt16 := 0x7D

/-- The text between the first `{` and the first `}` behind it. -/
def RegSz.bracketed (v : RegSz) : Option (List UInt16) :=
  between openBracket closingBracket v.units

/-! ### UTF-8 -/

theorem toNat_ofNat_byte {n : ℕ} (h : n < 0x100) : (Char.ofNat n).toNat = n := by
  have hvalid : n.isValidChar := Or.inl (by omega)
  rw [Char.ofNat, dif_pos hvalid]
  rfl

/-- A character of the ASCII range stands for itself, and for nothing else. -/
theorem marks_utf8Unit {u : UInt16} (h : u.toNat < 0x80) :
    Marks utf8Unit u (Char.ofNat u.toNat) where
  self := if_pos h
  other := by
    intro a ha hmem
    have hne : a.toNat ≠ u.toNat := fun heq => ha (UInt16.toNat_inj.mp heq)
    have hlt := a.toNat_lt
    have hbyte : ∀ n < 0x100, n ≠ u.toNat → Char.ofNat u.toNat ≠ Char.ofNat n := by
      intro n hn hnu heq
      have htoNat := congrArg Char.toNat heq
      rw [toNat_ofNat_byte (by omega), toNat_ofNat_byte hn] at htoNat
      exact hnu htoNat.symm
    unfold utf8Unit at hmem
    simp only at hmem
    split at hmem
    · exact hbyte _ (by omega) hne (List.mem_singleton.mp hmem)
    · split at hmem
      · rcases List.mem_pair.mp hmem with hmem | hmem
        · exact hbyte _ (by omega) (by omega) hmem
        · exact hbyte _ (by omega) (by omega) hmem
      · simp only [List.mem_cons, List.not_mem_nil, or_false] at hmem
        rcases hmem with hmem | hmem | hmem
        · exact hbyte _ (by omega) (by omega) hmem
        · exact hbyte _ (by omega) (by omega) hmem
        · exact hbyte _ (by omega) (by omega) hmem

theorem marks_openBracket : Marks utf8Unit openBracket '\x7b' := marks_utf8Unit (by decide)

theorem marks_closingBracket : Marks utf8Unit closingBracket '\x7d' := marks_utf8Unit (by decide)

theorem length_utf8Unit (u : UInt16) : 1 ≤ (utf8Unit u).length ∧ (utf8Unit u).length ≤ 3 := by
  unfold utf8Unit
  simp only
  split
  · simp
  · split
    · simp
    · simp

theorem length_toBytes_le (s : List UInt16) : (toBytes s).length ≤ 3 * s.length := by
  induction s with
  | nil => exact Nat.le_refl _
  | cons u s ih =>
    obtain ⟨-, hu⟩ := length_utf8Unit u
    unfold toBytes at ih ⊢
    rw [List.flatMap_cons, List.length_append, List.length_cons]
    omega

theorem toBytes_eq_nil {s : List UInt16} : toBytes s = [] ↔ s = [] := by
  constructor
  · intro h
    cases s with
    | nil => rfl
    | cons u s =>
      obtain ⟨hu, -⟩ := length_utf8Unit u
      have hlength := congrArg List.length h
      unfold toBytes at hlength
      rw [List.flatMap_cons, List.length_append, List.length_nil] at hlength
      omega
  · rintro rfl
    rfl

/-! ### The positions -/

namespace NpcapHelpers

theorem findIdx?_eq (c : Char) (l : List Char) :
    l.findIdx? (· == c) = (splitFirst c l).map fun p => p.1.length := by
  induction l with
  | nil => rfl
  | cons a l ih =>
    rw [List.findIdx?_cons]
    by_cases ha : a = c
    · subst ha
      rw [if_pos (beq_self_eq_true a), splitFirst_cons_self]
      rfl
    · rw [if_neg (by simpa using ha), splitFirst_cons_of_ne ha, ih, Option.map_map, Option.map_map]
      rfl

theorem find_of_none {s : List Char} {c : Char} {pos : ℕ} (h : splitFirst c (s.drop pos) = none) :
    find s c pos = npos := by
  unfold find
  rw [findIdx?_eq, h]
  rfl

theorem find_of_some {s : List Char} {c : Char} {pos : ℕ} {p : List Char × List Char}
    (h : splitFirst c (s.drop pos) = some p) : find s c pos = pos + p.1.length := by
  unfold find
  rw [findIdx?_eq, h]
  rfl

/-- Without an opening bracket the whole string is taken: `npos + 1` is 0, and
`npos - npos - 1` is `npos`. -/
theorem uuidOf_of_no_open {s : List Char} (hlen : s.length ≤ npos)
    (h : splitFirst '\x7b' s = none) : uuidOf s = s := by
  have hopen : find s '\x7b' 0 = npos := find_of_none (by rwa [List.drop_zero])
  have hclose : find s '\x7d' npos = npos :=
    find_of_none (by rw [List.drop_eq_nil_of_le hlen]; rfl)
  have hstart : addSize npos 1 = 0 := by decide
  have hcount : subSize (subSize npos npos) 1 = npos := by decide
  unfold uuidOf
  simp only
  rw [hopen, hclose, hstart, hcount, substr, List.drop_zero, List.take_of_length_le hlen]

/-- Behind an opening bracket, the text goes up to a closing one, or to the end of the
string. -/
theorem uuidOf_of_open {s : List Char} (hlen : s.length ≤ npos) {u t : List Char}
    (h : splitFirst '\x7b' s = some (u, t)) :
    uuidOf s = ((splitFirst '\x7d' t).map Prod.fst).getD t := by
  obtain ⟨hs, -⟩ := splitFirst_eq_some_iff.mp h
  have hdrop : s.drop u.length = '\x7b' :: t := by rw [hs, List.drop_left]
  have hdrop' : s.drop (u.length + 1) = t := by
    rw [← List.drop_drop, hdrop]
    rfl
  have hlength : s.length = u.length + (t.length + 1) := by
    rw [hs, List.length_append, List.length_cons]
  have hopen : find s '\x7b' 0 = u.length := by
    rw [find_of_some (p := (u, t)) (by rwa [List.drop_zero]), Nat.zero_add]
  -- the search for the closing bracket begins at the opening one
  have hsplit : splitFirst '\x7d' (s.drop u.length) =
      (splitFirst '\x7d' t).map fun p => ('\x7b' :: p.1, p.2) := by
    rw [hdrop, splitFirst_cons_of_ne (by decide)]
  have hstart : addSize u.length 1 = u.length + 1 := by
    unfold addSize npos at *
    omega
  unfold uuidOf
  simp only
  rw [hopen, hstart, substr, hdrop']
  cases hclosing : splitFirst '\x7d' t with
  | none =>
    rw [hclosing] at hsplit
    have hcount : t.length ≤ subSize (subSize npos u.length) 1 := by
      unfold subSize npos at *
      omega
    rw [find_of_none hsplit, List.take_of_length_le hcount]
    rfl
  | some p =>
    rw [hclosing] at hsplit
    obtain ⟨ht, -⟩ := splitFirst_eq_some_iff.mp hclosing
    have hlength' : t.length = p.1.length + (p.2.length + 1) := by
      rw [ht, List.length_append, List.length_cons]
    have hcount : subSize (subSize (u.length + (p.1.length + 1)) u.length) 1 = p.1.length := by
      unfold subSize npos at *
      omega
    rw [find_of_some hsplit, List.length_cons, hcount, ht, List.take_left]
    rfl

/-- **`substr` never starts behind the end of the string.** -/
theorem substr_start_le {s : List Char} (hlen : s.length ≤ npos) :
    addSize (find s '\x7b' 0) 1 ≤ s.length := by
  cases hopen : splitFirst '\x7b' s with
  | none =>
    rw [find_of_none (by rwa [List.drop_zero])]
    have hstart : addSize npos 1 = 0 := by decide
    omega
  | some p =>
    obtain ⟨hs, -⟩ := splitFirst_eq_some_iff.mp hopen
    have hlength : s.length = p.1.length + (p.2.length + 1) := by
      rw [hs, List.length_append, List.length_cons]
    rw [find_of_some (p := p) (by rwa [List.drop_zero])]
    unfold addSize npos at *
    omega

/-! ### What is stored -/

theorem uuidOf_toBytes_of_no_open {s : List UInt16} (hlen : (toBytes s).length ≤ npos)
    (h : splitFirst openBracket s = none) : uuidOf (toBytes s) = toBytes s := by
  apply uuidOf_of_no_open hlen
  unfold toBytes
  rw [splitFirst_flatMap marks_openBracket, h]
  rfl

theorem uuidOf_toBytes_of_open {s u t : List UInt16} (hlen : (toBytes s).length ≤ npos)
    (h : splitFirst openBracket s = some (u, t)) :
    uuidOf (toBytes s) = toBytes (((splitFirst closingBracket t).map Prod.fst).getD t) := by
  have hopen : splitFirst '\x7b' (toBytes s) = some (toBytes u, toBytes t) := by
    unfold toBytes
    rw [splitFirst_flatMap marks_openBracket, h]
    rfl
  rw [uuidOf_of_open hlen hopen]
  unfold toBytes
  rw [splitFirst_flatMap marks_closingBracket]
  cases splitFirst closingBracket t <;> rfl

/-- The bracketed text is cut out of the values that have both brackets, have nothing
behind the opening one, or are empty. -/
theorem uuidOf_toBytes_iff {s : List UInt16} (hlen : (toBytes s).length ≤ npos) :
    uuidOf (toBytes s) = toBytes ((between openBracket closingBracket s).getD []) ↔
      s = [] ∨ ∃ u t, s = u ++ openBracket :: t ∧ openBracket ∉ u ∧
        (t = [] ∨ closingBracket ∈ t) := by
  cases hopen : splitFirst openBracket s with
  | none =>
    have hbetween : between openBracket closingBracket s = none := by
      unfold between
      rw [hopen]
      rfl
    rw [uuidOf_toBytes_of_no_open hlen hopen, hbetween]
    constructor
    · intro h
      exact Or.inl (toBytes_eq_nil.mp h)
    · rintro (rfl | ⟨u, t, rfl, -, -⟩)
      · rfl
      · exact absurd (by simp) (splitFirst_eq_none_iff.mp hopen)
  | some p =>
    obtain ⟨hs, hu⟩ := splitFirst_eq_some_iff.mp hopen
    have hbetween : between openBracket closingBracket s =
        (splitFirst closingBracket p.2).map Prod.fst := by
      unfold between
      rw [hopen]
      rfl
    rw [uuidOf_toBytes_of_open hlen hopen, hbetween]
    cases hclosing : splitFirst closingBracket p.2 with
    | none =>
      constructor
      · intro h
        exact Or.inr ⟨p.1, p.2, hs, hu, Or.inl (toBytes_eq_nil.mp h)⟩
      · rintro (hnil | ⟨u, t, hs', hu', ht⟩)
        · rw [hnil] at hs
          exact absurd hs.symm (by simp)
        · -- the value is split at its first opening bracket in one way
          rw [splitFirst_eq_some_iff.mpr ⟨hs', hu'⟩] at hopen
          cases hopen
          rcases ht with rfl | ht
          · rfl
          · exact absurd ht (splitFirst_eq_none_iff.mp hclosing)
    | some q =>
      obtain ⟨ht, -⟩ := splitFirst_eq_some_iff.mp hclosing
      refine iff_of_true rfl (Or.inr ⟨p.1, p.2, hs, hu, Or.inr ?_⟩)
      rw [ht]
      simp

/-- What the lookup is meant to do with a value of `LoopbackAdapter`: the bracketed text is
stored, `""` if there is none, and the two functions that use it answer accordingly; and
`substr` is not called with a position behind the end. -/
structure StoresBracketed (registry : ℕ → Registry) (g : NpcapHelpers) (v : RegSz) : Prop where
  stored : (loadLoopbackDeviceNameFromRegistry registry g).1.loopbackDeviceUuidString =
    toBytes (v.bracketed.getD [])
  uuidString : g.loopbackDeviceNameInitialized = false →
    (getLoopbackDeviceUuidString registry g).2 = toBytes (v.bracketed.getD [])
  fallsBack : g.loopbackDeviceNameInitialized = false → v.bracketed.getD [] = [] →
    (getLoopbackDeviceName registry g).2 = npfLoopback
  start_le : addSize (find (toBytes (getStringRegKey (some v) [])) '\x7b' 0) 1 ≤
    (toBytes (getStringRegKey (some v) [])).length

/-- The text that is read of a value is never too long. -/
theorem length_getStringRegKey_le (v : RegSz) :
    (toBytes (getStringRegKey (some v) [])).length ≤ npos := by
  have hlength := length_toBytes_le (getStringRegKey (some v) [])
  have hread : (getStringRegKey (some v) []).length ≤ 511 := by
    unfold getStringRegKey
    simp only
    split
    · omega
    · simp
  unfold npos
  omega

/-- The two functions answer with what is stored. -/
theorem storesBracketed_iff {registry : ℕ → Registry} {g : NpcapHelpers} {v : RegSz} :
    StoresBracketed registry g v ↔
      (loadLoopbackDeviceNameFromRegistry registry g).1.loopbackDeviceUuidString =
        toBytes (v.bracketed.getD []) := by
  constructor
  · exact StoresBracketed.stored
  · intro hstored
    refine ⟨hstored, ?_, ?_, substr_start_le (length_getStringRegKey_le v)⟩
    · intro hinit
      unfold getLoopbackDeviceUuidString
      simp only
      rw [if_neg (by rw [hinit]; exact Bool.false_ne_true)]
      exact hstored
    · intro hinit hnil
      rw [hnil] at hstored
      unfold getLoopbackDeviceName
      simp only [hinit, Bool.false_eq_true, if_false]
      rw [if_neg (by rw [hstored]; exact fun h => h rfl)]

end NpcapHelpers

/-- The value fits the buffer, and it is empty, has a closing bracket behind the first
opening one, or ends with that; or it does not fit, and has nothing between brackets. -/
def RegSz.ReadRight (v : RegSz) : Prop :=
  if v.units.length < 512 then
    v.units = [] ∨ ∃ u t, v.units = u ++ openBracket :: t ∧ openBracket ∉ u ∧
      (t = [] ∨ closingBracket ∈ t)
  else v.bracketed.getD [] = []

/-- A value that fits and has bracketed text is read right. -/
theorem RegSz.readRight_of_bracketed {v : RegSz} (hfits : v.units.length < 512)
    {t : List UInt16} (h : v.bracketed = some t) : v.ReadRight := by
  obtain ⟨u, w, hv, hu, -⟩ := between_eq_some_iff.mp h
  unfold ReadRight
  rw [if_pos hfits]
  exact Or.inr ⟨u, t ++ closingBracket :: w, by rw [hv]; simp, hu, Or.inr (by simp)⟩

/-- **The bracketed text is stored exactly for the values that are short enough and have
the brackets, or are empty**, whatever the globals are. -/
theorem stores_bracketed_iff (registry : ℕ → Registry) (g : NpcapHelpers) (support : ℕ)
    (v : RegSz) (hsupport : support ≠ 0)
    (hregistry : registry g.lookups = .ofKey (some support) (some v)) :
    NpcapHelpers.StoresBracketed registry g v ↔ v.ReadRight := by
  have huuid : (registry g.lookups).uuid =
      some (NpcapHelpers.uuidOf (toBytes (getStringRegKey (some v) []))) := by
    rw [hregistry]
    exact if_neg hsupport
  rw [NpcapHelpers.storesBracketed_iff, NpcapHelpers.uuid_load, huuid, Option.getD_some]
  have hlen := NpcapHelpers.length_getStringRegKey_le v
  unfold RegSz.ReadRight RegSz.bracketed
  by_cases hfits : v.units.length < 512
  · have hread : getStringRegKey (some v) [] = v.units := if_pos (by omega)
    rw [if_pos hfits]
    rw [hread] at hlen ⊢
    exact NpcapHelpers.uuidOf_toBytes_iff hlen
  · have hread : getStringRegKey (some v) [] = [] := if_neg (by omega)
    have hnil : NpcapHelpers.uuidOf (toBytes []) = [] := by decide
    rw [if_neg hfits, hread, hnil, eq_comm, toBytes_eq_nil]

/-- `\Device\{6DBF8591}` -/
def bracketedAdapter : RegSz :=
  ⟨[0x5C, 0x44, 0x65, 0x76, 0x69, 0x63, 0x65, 0x5C, 0x7B, 0x36, 0x44, 0x42, 0x46, 0x38, 0x35,
    0x39, 0x31, 0x7D], by decide⟩

/-- `\Device\NPF` -/
def plainAdapter : RegSz :=
  ⟨[0x5C, 0x44, 0x65, 0x76, 0x69, 0x63, 0x65, 0x5C, 0x4E, 0x50, 0x46], by decide⟩

/-- Of a value with brackets, the text between them is stored. -/
theorem stores_bracketed_adapter :
    NpcapHelpers.StoresBracketed (fun _ => .ofKey (some 1) (some bracketedAdapter)) .initial
      bracketedAdapter :=
  (stores_bracketed_iff _ _ 1 _ (by decide) rfl).mpr
    (RegSz.readRight_of_bracketed (by decide)
      (t := [0x36, 0x44, 0x42, 0x46, 0x38, 0x35, 0x39, 0x31]) (by decide))

/-- Of a value without brackets, all of it is stored. -/
theorem plain_adapter_stored :
    (NpcapHelpers.getLoopbackDeviceName (fun _ => .ofKey (some 1) (some plainAdapter)) .initial).2 =
        "\\device\\npcap_\x7b\\Device\\NPF\x7d".toList ∧
      ¬NpcapHelpers.StoresBracketed (fun _ => .ofKey (some 1) (some plainAdapter)) .initial
        plainAdapter := by
  refine ⟨by decide +kernel, ?_⟩
  intro h
  have hstored := h.stored
  revert hstored
  decide +kernel

end Udpcap
