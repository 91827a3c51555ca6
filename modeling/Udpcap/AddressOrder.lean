import Mathlib.Order.Defs.Unbundled
import Mathlib.Data.Set.Subsingleton
import Udpcap.HostAddress

/-!
# The comparison operators of host addresses

`operator<` and `operator>` compare only valid addresses, `operator<=` and `operator>=`
compare the integers, and `operator==` compares both members.

## Main definitions

* `HostAddress.OperatorsFit` — on a set of addresses, the operators belong to one order.

## Main results

* `operatorsFit_iff` — **they do exactly if all addresses of the set are valid, or there is
  at most one.**
* `comparison_operators` — what `operator<` and `operator>` do on all addresses, and the
  other operators on the valid ones.
-/

namespace Udpcap

namespace HostAddress

/-- On the addresses of a set, `operator<` is a strict weak order, two addresses are
equivalent in it exactly if they are equal, and the other operators belong to it. -/
structure OperatorsFit (S : Set HostAddress) : Prop where
  strictWeakOrder : IsStrictWeakOrder S fun a b => lt a b = true
  equiv_iff : ∀ a ∈ S, ∀ b ∈ S, StdSet.equiv lt a b = true ↔ eq a b = true
  gt_eq : ∀ a ∈ S, ∀ b ∈ S, gt a b = lt b a
  le_iff : ∀ a ∈ S, ∀ b ∈ S, le a b = true ↔ lt a b = true ∨ eq a b = true
  ge_iff : ∀ a ∈ S, ∀ b ∈ S, ge a b = true ↔ gt a b = true ∨ eq a b = true

/-! ### All addresses -/

theorem lt_irrefl (a : HostAddress) : lt a a = false := by
  rw [← Bool.not_eq_true, lt_iff]
  rintro ⟨-, -, hlt⟩
  exact absurd hlt (UInt32.lt_irrefl _)

theorem lt_trans {a b c : HostAddress} (hab : lt a b = true) (hbc : lt b c = true) :
    lt a c = true := by
  obtain ⟨ha, -, hab⟩ := lt_iff.mp hab
  obtain ⟨-, hc, hbc⟩ := lt_iff.mp hbc
  exact lt_iff.mpr ⟨ha, hc, UInt32.lt_trans hab hbc⟩

theorem gt_eq_lt (a b : HostAddress) : gt a b = lt b a := by
  unfold gt lt
  rw [Bool.or_comm]

theorem equiv_eq_true {a b : HostAddress} :
    StdSet.equiv lt a b = true ↔ lt a b = false ∧ lt b a = false := by
  unfold StdSet.equiv
  rw [Bool.and_eq_true, Bool.not_eq_true', Bool.not_eq_true']

/-- **An invalid address compares to nothing**, and among valid addresses incomparable
means equal. -/
theorem equiv_iff_eq_or_invalid {a b : HostAddress} : StdSet.equiv lt a b = true ↔
    eq a b = true ∨ a.isValid = false ∨ b.isValid = false := by
  rw [eq_iff]
  unfold isValid
  by_cases ha : a.valid = true
  · by_cases hb : b.valid = true
    · have hsep := separates_of_valid ha (l := [b]) (by simpa using hb) b (by simp)
      rw [hsep, ha, hb]
      simp [eq_comm]
    · simp [equiv_eq_true, ← Bool.not_eq_true, lt_iff, hb]
  · simp [equiv_eq_true, ← Bool.not_eq_true, lt_iff, ha]

/-- Incomparability can be passed on through a valid address. -/
theorem equiv_trans {a b c : HostAddress} (hb : b.isValid = true)
    (hab : StdSet.equiv lt a b = true) (hbc : StdSet.equiv lt b c = true) :
    StdSet.equiv lt a c = true := by
  rw [equiv_iff_eq_or_invalid, eq_iff, hb] at hab hbc
  rw [equiv_iff_eq_or_invalid, eq_iff]
  rcases hab with rfl | ha | hfalse
  · rcases hbc with rfl | hfalse | hc
    · exact Or.inl rfl
    · cases hfalse
    · exact Or.inr (Or.inr hc)
  · exact Or.inr (Or.inl ha)
  · cases hfalse

/-! ### Valid addresses -/

theorem le_iff_of_valid {a b : HostAddress} (ha : a.isValid = true) (hb : b.isValid = true) :
    le a b = true ↔ lt a b = true ∨ eq a b = true := by
  cases a with | mk va na =>
  cases b with | mk vb nb =>
  simp only [isValid] at ha hb
  subst ha hb
  rw [lt_iff, eq_iff]
  simp [le]

theorem ge_iff_of_valid {a b : HostAddress} (ha : a.isValid = true) (hb : b.isValid = true) :
    ge a b = true ↔ gt a b = true ∨ eq a b = true := by
  have hle := le_iff_of_valid hb ha
  rw [gt_eq_lt, eq_iff]
  rw [eq_iff] at hle
  unfold ge
  unfold le at hle
  rw [eq_comm (a := a), ← hle, Bool.beq_comm]

theorem operatorsFit_of_valid {S : Set HostAddress} (hS : ∀ a ∈ S, a.isValid = true) :
    OperatorsFit S where
  strictWeakOrder :=
    { irrefl := fun a => by rw [lt_irrefl]; exact Bool.false_ne_true
      trans := fun _ _ _ => lt_trans
      incomp_trans := fun a b c hab hbc => by
        have hequiv := equiv_trans (hS b b.2)
          (equiv_eq_true.mpr (by simpa using hab)) (equiv_eq_true.mpr (by simpa using hbc))
        simpa using equiv_eq_true.mp hequiv }
  equiv_iff := fun a ha b hb => by
    rw [equiv_iff_eq_or_invalid, hS a ha, hS b hb]
    simp
  gt_eq := fun a _ b _ => gt_eq_lt a b
  le_iff := fun a ha b hb => le_iff_of_valid (hS a ha) (hS b hb)
  ge_iff := fun a ha b hb => ge_iff_of_valid (hS a ha) (hS b hb)

/-! ### Exactly when the operators fit -/

theorem operatorsFit_of_subsingleton {S : Set HostAddress} (hS : S.Subsingleton) :
    OperatorsFit S where
  strictWeakOrder :=
    { irrefl := fun a => by rw [lt_irrefl]; exact Bool.false_ne_true
      trans := fun _ _ _ => lt_trans
      incomp_trans := fun a b c hab _ => by
        rw [show c = b from Subtype.ext (hS c.2 b.2)]
        exact hab }
  equiv_iff := fun a ha b hb => by
    rw [hS ha hb, equiv_eq_true, lt_irrefl]
    simp
  gt_eq := fun a _ b _ => gt_eq_lt a b
  le_iff := fun a ha b hb => by
    rw [hS ha hb]
    simp [le]
  ge_iff := fun a ha b hb => by
    rw [hS ha hb]
    simp [ge]

/-- **The operators fit together on a set exactly if its addresses are all valid, or
there is at most one.** -/
theorem operatorsFit_iff (S : Set HostAddress) :
    OperatorsFit S ↔ (∀ a ∈ S, a.isValid = true) ∨ S.Subsingleton := by
  constructor
  · intro hfit
    by_cases hS : ∀ a ∈ S, a.isValid = true
    · exact Or.inl hS
    · -- an invalid address is equivalent to every address, so it is the only one
      right
      push Not at hS
      obtain ⟨a, ha, hinvalid⟩ := hS
      have hall : ∀ b ∈ S, a = b := by
        intro b hb
        have hequiv := (equiv_iff_eq_or_invalid (a := a) (b := b)).mpr
          (Or.inr (Or.inl (by simpa using hinvalid)))
        exact eq_iff.mp ((hfit.equiv_iff a ha b hb).mp hequiv)
      intro b hb c hc
      rw [← hall b hb, ← hall c hc]
  · rintro (hvalid | hsub)
    · exact operatorsFit_of_valid hvalid
    · exact operatorsFit_of_subsingleton hsub

end HostAddress

open HostAddress

/-- **The comparison operators.**  `operator<` is a strict order of all addresses that
compares only the valid ones, `operator>` is its converse, and on the valid addresses all
operators belong to one strict weak order. -/
theorem comparison_operators :
    (∀ a, lt a a = false) ∧
    (∀ a b c, lt a b = true → lt b c = true → lt a c = true) ∧
    (∀ a b, gt a b = lt b a) ∧
    (∀ a b, StdSet.equiv lt a b = true ↔
      eq a b = true ∨ a.isValid = false ∨ b.isValid = false) ∧
    (∀ a b c, b.isValid = true → StdSet.equiv lt a b = true → StdSet.equiv lt b c = true →
      StdSet.equiv lt a c = true) ∧
    OperatorsFit {a | a.isValid = true} :=
  ⟨lt_irrefl, fun _ _ _ => lt_trans, gt_eq_lt, fun _ _ => equiv_iff_eq_or_invalid,
    fun _ _ _ => equiv_trans, operatorsFit_of_valid fun _ ha => ha⟩

/-- 127.0.0.1 is less than 255.255.255.255 with 127.255.255.255 between them. -/
theorem comparison_operators_between :
    lt .localHost .broadcast = true ∧ StdSet.equiv lt .localHost .localHost = true :=
  ⟨comparison_operators.2.1 .localHost (.ofInt 0xFFFFFF7F) .broadcast (by decide) (by decide),
    comparison_operators.2.2.2.2.1 .localHost .localHost .localHost (by decide) (by decide)
      (by decide)⟩

/-- The invalid address is equivalent to 127.0.0.1 and to 255.255.255.255, one of which is
less than the other. -/
theorem operators_do_not_fit :
    StdSet.equiv lt .localHost .invalid = true ∧ eq .localHost .invalid = false ∧
      StdSet.equiv lt .invalid .broadcast = true ∧ lt .localHost .broadcast = true ∧
      ¬OperatorsFit Set.univ := by
  refine ⟨by decide, by decide, by decide, by decide, ?_⟩
  intro hfit
  have heq := (hfit.equiv_iff .localHost trivial .invalid trivial).mp (by decide)
  exact absurd heq (by decide)

end Udpcap
