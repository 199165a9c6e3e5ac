import DiagramReview.Proofs.Number.Rounding

namespace DiagramReview

theorem roundDiv_eq {n d k : Nat} (h : 2 * n < 2 * (d * k) + d) (h' : 2 * (d * k) < 2 * n + d) :
    roundDiv n d = k := by
  obtain ⟨hupper, hlower⟩ := roundDiv_near n (by omega : 0 < d)
  rcases Nat.lt_trichotomy (roundDiv n d) k with hlt | heq | hlt
  · have hstep : d * (roundDiv n d + 1) ≤ d * k := Nat.mul_le_mul_left d hlt
    rw [Nat.mul_succ] at hstep
    omega
  · exact heq
  · have hstep : d * (k + 1) ≤ d * roundDiv n d := Nat.mul_le_mul_left d hlt
    rw [Nat.mul_succ] at hstep
    omega

theorem roundDiv_mul_mul_right (n d : Nat) {k : Nat} (hk : 0 < k) :
    roundDiv (n * k) (d * k) = roundDiv n d := by
  have hlt : 2 * (n % d * k) < d * k ↔ 2 * (n % d) < d := by
    rw [← Nat.mul_assoc, Nat.mul_lt_mul_right hk]
  have hgt : d * k < 2 * (n % d * k) ↔ d < 2 * (n % d) := by
    rw [← Nat.mul_assoc, Nat.mul_lt_mul_right hk]
  simp only [roundDiv, Nat.mul_div_mul_right n d hk, Nat.mul_mod_mul_right, hlt, hgt]

namespace Binary64

theorem nearest_mul_mul_right (n d : Nat) {k : Nat} (hk : 0 < k) :
    nearest (n * k) (d * k) = nearest n d := by
  have hmul (p : Nat) : d * k * Nat.pow 2 p = d * Nat.pow 2 p * k := Nat.mul_right_comm ..
  simp only [nearest, Nat.mul_div_mul_right n d hk, hmul, roundDiv_mul_mul_right n _ hk]

variable {n x k : Nat}

theorem lastPlace_le (h : n < Nat.pow 2 53 * Nat.pow 2 k) : lastPlace n ≤ k := by
  by_contra hlt
  have hle := two_pow_lastPlace_le (n := n) (by omega)
  have hpow : Nat.pow 2 (k + 1) ≤ Nat.pow 2 (lastPlace n) :=
    Nat.pow_le_pow_right (by decide) (by omega)
  have hstep : Nat.pow 2 53 * Nat.pow 2 k ≤ Nat.pow 2 52 * Nat.pow 2 (lastPlace n) := by
    calc Nat.pow 2 53 * Nat.pow 2 k = Nat.pow 2 52 * Nat.pow 2 (k + 1) := by
          rw [← two_pow_add, ← two_pow_add]
          congr 1
          omega
      _ ≤ Nat.pow 2 52 * Nat.pow 2 (lastPlace n) := Nat.mul_le_mul_left _ hpow
  omega

theorem nearest_one (n : Nat) :
    nearest n 1 = Nat.pow 2 (lastPlace n) * roundDiv n (Nat.pow 2 (lastPlace n)) := by
  simp only [nearest, Nat.div_one, Nat.one_mul]
  exact Nat.mul_comm _ _

theorem nearest_near (h : n < Nat.pow 2 53 * Nat.pow 2 k) :
    2 * n ≤ 2 * nearest n 1 + Nat.pow 2 k ∧ 2 * nearest n 1 ≤ 2 * n + Nat.pow 2 k := by
  have hplace : Nat.pow 2 (lastPlace n) ≤ Nat.pow 2 k :=
    Nat.pow_le_pow_right (by decide) (lastPlace_le h)
  have hround := roundDiv_near n (two_pow_pos (lastPlace n))
  rw [← nearest_one] at hround
  omega

theorem nearest_eq (hx : Nat.pow 2 k ∣ x) (hn : n < Nat.pow 2 53 * Nat.pow 2 k)
    (hupper : Nat.pow 2 54 * n ≤ Nat.pow 2 54 * x + n)
    (hlower : Nat.pow 2 54 * x ≤ Nat.pow 2 54 * n + n) : nearest n 1 = x := by
  have hplace : Nat.pow 2 (lastPlace n) ∣ x :=
    Nat.dvd_trans (Nat.pow_dvd_pow 2 (lastPlace_le hn)) hx
  have hlt := lt_two_pow_lastPlace n
  rw [nearest_one]
  obtain ⟨j, rfl⟩ := hplace
  generalize Nat.pow 2 (lastPlace n) = place at hlt hupper hlower ⊢
  congr 1
  simp only [Nat.pow_eq, Nat.reducePow] at hlt hupper hlower
  apply roundDiv_eq
  · omega
  · omega

theorem nearest_self (hk : Nat.pow 2 k ∣ n) (hn : n < Nat.pow 2 53 * Nat.pow 2 k) :
    nearest n 1 = n :=
  nearest_eq hk hn (Nat.le_add_right _ _) (Nat.le_add_right _ _)

theorem ofNat_eq (h : n < Nat.pow 2 53) : ofNat n = n * one := by
  unfold ofNat ofRatio one
  generalize 1074 = place
  apply nearest_self (Nat.dvd_mul_left _ n)
  exact Nat.mul_lt_mul_of_pos_right h (two_pow_pos place)

theorem mul_ofNat (h : n < Nat.pow 2 53) (b : Nat) : mul (ofNat n) b = nearest (n * b) 1 := by
  have hunits : nearest (n * b * one) (1 * one) = nearest (n * b) 1 :=
    nearest_mul_mul_right (n * b) 1 one_pos
  rw [Nat.one_mul] at hunits
  rw [mul, ofNat_eq h, Nat.mul_right_comm, hunits]

end Binary64

end DiagramReview
