import DiagramReview.Proofs.Number.Rounding

namespace DiagramReview.Binary64

def signed (negative : Bool) (units : Nat) : Int := if negative then -(units : Int) else units

def le : Binary64 → Binary64 → Bool
  | nan, _ | _, nan => false
  | infinite true, _ | _, infinite false => true
  | infinite false, _ | _, infinite true => false
  | finite negative units, finite negative' units' => signed negative units ≤ signed negative' units'

instance : LE Binary64 := ⟨fun x y => le x y = true⟩

instance (x y : Binary64) : Decidable (x ≤ y) := inferInstanceAs (Decidable (le x y = true))

variable {x y : Binary64} {s t : Bool} {a b n : Nat}

theorem finite_le_finite : finite s a ≤ finite t b ↔ signed s a ≤ signed t b := decide_eq_true_iff

theorem not_nan_le : ¬ nan ≤ y := Bool.false_ne_true

theorem not_le_nan : ¬ x ≤ nan := by
  intro h
  cases x <;> cases h

theorem le_infinite (h : x ≠ nan) : x ≤ infinite false := by
  cases x with
  | nan => exact absurd rfl h
  | infinite negative => cases negative <;> rfl
  | finite s a => rfl

theorem eq_infinite_of_le (h : x ≤ infinite true) : x = infinite true := by
  cases x with
  | nan => cases h
  | infinite negative =>
    cases negative with
    | true => rfl
    | false => cases h
  | finite s a => cases h

theorem eq_infinite_of_ge (h : infinite false ≤ y) : y = infinite false := by
  cases y with
  | nan => cases h
  | infinite negative =>
    cases negative with
    | true => cases h
    | false => rfl
  | finite t b => cases h

theorem below_finite_iff : (finite s a).below n = true ↔ signed s a < (n * one : Nat) := by
  cases s with
  | false =>
    rw [below, decide_eq_true_iff]
    exact Int.ofNat_lt.symm
  | true =>
    have hone := one_pos
    have hpos : 0 < n * one ↔ 0 < n := by simp [hone]
    simp only [below, Bool.or_eq_true, decide_eq_true_eq, signed, ↓reduceIte]
    omega

theorem below_of_le (h : x ≤ y) (hy : y.below n = true) : x.below n = true := by
  cases y with
  | nan => cases hy
  | infinite negative =>
    have hnegative : negative = true := hy
    subst hnegative
    rw [eq_infinite_of_le h]
    rfl
  | finite t b =>
    cases x with
    | nan => exact (not_nan_le h).elim
    | infinite negative =>
      cases negative with
      | true => rfl
      | false => cases eq_infinite_of_ge h
    | finite s a =>
      rw [below_finite_iff] at hy ⊢
      exact Int.lt_of_le_of_lt (finite_le_finite.mp h) hy

theorem toNat_le (x : Binary64) : x.toNat ≤ Bits.values 64 - 1 := by
  cases x with
  | nan => exact Nat.zero_le _
  | infinite negative => cases negative <;> simp [toNat]
  | finite s a =>
    cases s with
    | true => exact Nat.zero_le _
    | false => exact Nat.min_le_right _ _

theorem toNat_zero : (finite false 0).toNat = 0 := by
  have hhalf : (2 * 0 + one) / (2 * one) = 0 := by
    apply Nat.div_eq_of_lt
    have := one_pos
    omega
  rw [toNat, hhalf, Nat.zero_min]

theorem toNat_finite_mono (h : finite s a ≤ finite t b) :
    (finite s a).toNat ≤ (finite t b).toNat := by
  rw [finite_le_finite] at h
  cases s with
  | true => exact Nat.zero_le _
  | false =>
    cases t with
    | true =>
      -- nothing but zero lies between the two
      obtain rfl : a = 0 := by simp only [signed, Bool.false_eq_true, ↓reduceIte] at h; omega
      rw [toNat_zero]
      exact Nat.zero_le _
    | false =>
      have hab : a ≤ b := by simpa [signed] using h
      have hdiv : (2 * a + one) / (2 * one) ≤ (2 * b + one) / (2 * one) := by
        apply Nat.div_le_div_right
        omega
      exact Nat.le_min.mpr ⟨(Nat.min_le_left _ _).trans hdiv, Nat.min_le_right _ _⟩

theorem toNat_mono (h : x ≤ y) : x.toNat ≤ y.toNat := by
  cases x with
  | nan => exact (not_nan_le h).elim
  | infinite negative =>
    cases negative with
    | true => exact Nat.zero_le _
    | false => rw [eq_infinite_of_ge h]
  | finite s a =>
    cases y with
    | nan => exact (not_le_nan h).elim
    | infinite negative =>
      cases negative with
      | true => cases eq_infinite_of_le h
      | false => exact toNat_le _
    | finite t b => exact toNat_finite_mono h

theorem ofUnits_mono (h : a ≤ b) : ofUnits false a ≤ ofUnits false b := by
  unfold ofUnits
  generalize Nat.pow 2 2098 = top
  by_cases hb : b < top
  · rw [if_pos hb, if_pos (Nat.lt_of_le_of_lt h hb), finite_le_finite]
    exact Int.ofNat_le.mpr h
  · rw [if_neg hb]
    apply le_infinite
    split_ifs <;> simp

end DiagramReview.Binary64
