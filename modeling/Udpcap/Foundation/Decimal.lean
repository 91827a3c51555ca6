import Mathlib.Data.List.Induction
import Mathlib.Data.Nat.Digits.Defs

/-!
# Decimal numerals

The texts that are printed for natural numbers: nonempty runs of digits that do not begin
with a zero, unless they are `0`.

## Main definitions

* `Numeral w` — the text is one of them.

## Main results

* `numeral_toDigits`, `toDigits_ofDigitChars` — **the numerals are exactly the printed
  numbers.**
* `length_le_of_lt` — a number below a power of ten has few digits.
-/

namespace Decimal

/-- A run of digits without superfluous leading zeros. -/
structure Numeral (w : List Char) : Prop where
  nonempty : w ≠ []
  digits : ∀ c ∈ w, c.isDigit = true
  noLeadingZero : w.head? = some '0' → w = ['0']

instance (w : List Char) : Decidable (Numeral w) :=
  decidable_of_iff (w ≠ [] ∧ w.all Char.isDigit = true ∧ (w.head? = some '0' → w = ['0']))
    ⟨fun h => ⟨h.1, List.all_eq_true.mp h.2.1, h.2.2⟩,
      fun h => ⟨h.1, List.all_eq_true.mpr h.2, h.3⟩⟩

theorem isDigit_toDigits {n : ℕ} {c : Char} (h : c ∈ Nat.toDigits 10 n) : c.isDigit = true :=
  Nat.isDigit_of_mem_toDigits (by decide) (by decide) h

/-! ### Digits -/

theorem sub_lt_ten {c : Char} (h : c.isDigit = true) : c.toNat - 48 < 10 := by
  obtain ⟨-, hle⟩ := Char.isDigit_iff_toNat.mp h
  have hnine : '9'.toNat = 57 := rfl
  omega

theorem digitChar_sub {c : Char} (h : c.isDigit = true) : Nat.digitChar (c.toNat - 48) = c := by
  obtain ⟨hge, -⟩ := Char.isDigit_iff_toNat.mp h
  have hzero : '0'.toNat = 48 := rfl
  apply Char.toNat_inj.mp
  rw [Nat.toNat_digitChar_of_lt_ten (sub_lt_ten h)]
  omega

/-- A numeral that does not begin with a zero denotes a positive number. -/
theorem ofDigitChars_pos {c : Char} {w : List Char} (hc : c.isDigit = true) (hzero : c ≠ '0') :
    0 < Nat.ofDigitChars 10 (c :: w) 0 := by
  have hne : c.toNat - 48 ≠ 0 := by
    intro h
    apply hzero
    rw [← digitChar_sub hc, h]
    rfl
  rw [Nat.ofDigitChars_cons, Nat.ofDigitChars_eq_ofDigitChars_zero]
  have hpos : 0 < 10 ^ w.length * (10 * 0 + (c.toNat - '0'.toNat)) :=
    Nat.mul_pos (Nat.pow_pos (by omega)) (by simpa using Nat.pos_of_ne_zero hne)
  omega

/-! ### The printed numbers -/

theorem numeral_toDigits (n : ℕ) : Numeral (Nat.toDigits 10 n) where
  nonempty := Nat.toDigits_ne_nil
  digits := fun _ => isDigit_toDigits
  noLeadingZero := by
    induction n using Nat.strong_induction_on with
    | _ n ih =>
      intro hhead
      rcases Nat.lt_or_ge n 10 with hlt | hge
      · rw [Nat.toDigits_of_lt_base hlt] at hhead ⊢
        simpa using hhead
      · -- the digits of `n / 10` come first, and they are more than a zero
        rw [Nat.toDigits_of_base_le (by omega) hge] at hhead
        have hhead' : (Nat.toDigits 10 (n / 10)).head? = some '0' := by
          rw [List.head?_append] at hhead
          cases hdigits : Nat.toDigits 10 (n / 10) with
          | nil => exact absurd hdigits Nat.toDigits_ne_nil
          | cons c w =>
            rw [hdigits] at hhead
            exact hhead
        have hzero := ih (n / 10) (by omega) hhead'
        have hvalue := congrArg (fun w => Nat.ofDigitChars 10 w 0) hzero
        simp only [Nat.ofDigitChars_ten_toDigits] at hvalue
        have hten : Nat.ofDigitChars 10 ['0'] 0 = 0 := rfl
        omega

/-- **A numeral is the text that is printed for its value.** -/
theorem toDigits_ofDigitChars {w : List Char} (h : Numeral w) :
    Nat.toDigits 10 (Nat.ofDigitChars 10 w 0) = w := by
  induction w using List.reverseRecOn with
  | nil => exact absurd rfl h.nonempty
  | append_singleton w c ih =>
    have hc : c.isDigit = true := h.digits c (by simp)
    have hvalue : Nat.ofDigitChars 10 (w ++ [c]) 0 =
        10 * Nat.ofDigitChars 10 w 0 + (c.toNat - 48) := by
      rw [Nat.ofDigitChars_append, Nat.ofDigitChars_cons, Nat.ofDigitChars_nil]
      rfl
    rw [hvalue]
    cases w with
    | nil =>
      rw [Nat.ofDigitChars_nil, Nat.mul_zero, Nat.zero_add,
        Nat.toDigits_of_lt_base (sub_lt_ten hc), digitChar_sub hc]
      rfl
    | cons d w =>
      -- more than one digit, so the first one is not a zero
      have hd : d ≠ '0' := by
        rintro rfl
        have hone := h.noLeadingZero rfl
        simp at hone
      have hdigit : d.isDigit = true := h.digits d (by simp)
      have hnum : Numeral (d :: w) :=
        ⟨by simp, fun e he => h.digits e (List.mem_append_left _ he),
          fun hzero => absurd (by simpa using hzero) hd⟩
      rw [← Nat.toDigits_append_toDigits (by omega) (ofDigitChars_pos hdigit hd) (sub_lt_ten hc),
        ih hnum, Nat.toDigits_of_lt_base (sub_lt_ten hc), digitChar_sub hc]

/-- A number below a power of ten has few digits. -/
theorem length_le_of_lt {n k : ℕ} (hk : 0 < k) (h : n < 10 ^ k) :
    (Nat.toDigits 10 n).length ≤ k :=
  (Nat.length_toDigits_le_iff (by omega) hk).mpr h

end Decimal
