import DiagramReview.Number.Binary64
import Mathlib.Data.Nat.Log

namespace DiagramReview

theorem roundDiv_cases (n d : Nat) : (roundDiv n d = n / d ∧ 2 * (n % d) ≤ d) ∨
    (roundDiv n d = n / d + 1 ∧ d ≤ 2 * (n % d)) := by
  unfold roundDiv
  dsimp only
  split_ifs
  · exact .inl ⟨rfl, by omega⟩
  · exact .inr ⟨rfl, by omega⟩
  · exact .inl ⟨rfl, by omega⟩
  · exact .inr ⟨rfl, by omega⟩

theorem roundDiv_near (n : Nat) {d : Nat} (hd : 0 < d) :
    2 * n ≤ 2 * (d * roundDiv n d) + d ∧ 2 * (d * roundDiv n d) ≤ 2 * n + d := by
  have hn := Nat.div_add_mod n d
  rcases roundDiv_cases n d with ⟨hr, hmod⟩ | ⟨hr, hmod⟩
  · rw [hr]
    omega
  · have hlt := Nat.mod_lt n hd
    rw [hr, Nat.mul_succ]
    omega

theorem roundDiv_mono {n m d : Nat} (hd : 0 < d) (h : n ≤ m) : roundDiv n d ≤ roundDiv m d := by
  by_contra hlt
  have hstep : d * (roundDiv m d + 1) ≤ d * roundDiv n d := Nat.mul_le_mul_left d (by omega)
  have hn := (roundDiv_near n hd).2
  have hm := (roundDiv_near m hd).1
  rw [Nat.mul_succ] at hstep
  -- the two quotients are equal, half a unit from both results
  obtain rfl : n = m := by omega
  exact hlt (Nat.le_refl _)

theorem roundDiv_mul {d : Nat} (hd : 0 < d) (k : Nat) : roundDiv (d * k) d = k := by
  simp [roundDiv, Nat.mul_div_cancel_left k hd, hd]

namespace Binary64

theorem two_pow_pos (n : Nat) : 0 < Nat.pow 2 n := Bits.values_pos n

theorem one_pos : 0 < one := by
  unfold one
  apply two_pow_pos

theorem two_pow_add (n m : Nat) : Nat.pow 2 (n + m) = Nat.pow 2 n * Nat.pow 2 m := Nat.pow_add 2 n m

theorem lastPlace_mono {n m : Nat} (h : n ≤ m) : lastPlace n ≤ lastPlace m := by
  have hlog : n.log2 ≤ m.log2 := by
    rw [Nat.log2_eq_log_two, Nat.log2_eq_log_two]
    exact Nat.log_mono_right h
  unfold lastPlace
  omega

theorem lt_two_pow_lastPlace (n : Nat) : n < Nat.pow 2 53 * Nat.pow 2 (lastPlace n) := by
  rw [← two_pow_add]
  have hlt : n < Nat.pow 2 (n.log2 + 1) := Nat.lt_log2_self
  have hle : Nat.pow 2 (n.log2 + 1) ≤ Nat.pow 2 (53 + lastPlace n) := by
    apply Nat.pow_le_pow_right (by decide)
    unfold lastPlace
    omega
  exact Nat.lt_of_lt_of_le hlt hle

theorem two_pow_lastPlace_le {n : Nat} (h : 0 < lastPlace n) :
    Nat.pow 2 52 * Nat.pow 2 (lastPlace n) ≤ n := by
  rw [← two_pow_add]
  have hlog : 52 + lastPlace n = n.log2 := by
    unfold lastPlace at h ⊢
    omega
  rw [hlog]
  apply Nat.log2_self_le
  rintro rfl
  simp [lastPlace] at h

theorem nearest_mono {n m d : Nat} (hd : 0 < d) (h : n ≤ m) : nearest n d ≤ nearest m d := by
  have hquot : n / d ≤ m / d := Nat.div_le_div_right h
  unfold nearest
  dsimp only
  rcases Nat.eq_or_lt_of_le (lastPlace_mono hquot) with hp | hp
  · rw [hp]
    exact Nat.mul_le_mul_right _ (roundDiv_mono (Nat.mul_pos hd (two_pow_pos _)) h)
  · -- a power of two lies between the two results
    generalize hi : lastPlace (n / d) = i at hp ⊢
    generalize hj : lastPlace (m / d) = j at hp ⊢
    have hdi : 0 < d * Nat.pow 2 i := Nat.mul_pos hd (two_pow_pos i)
    have hdj : 0 < d * Nat.pow 2 j := Nat.mul_pos hd (two_pow_pos j)
    have hupper : roundDiv n (d * Nat.pow 2 i) ≤ Nat.pow 2 53 := by
      rw [← roundDiv_mul hdi (Nat.pow 2 53)]
      apply roundDiv_mono hdi
      have hlt := lt_two_pow_lastPlace (n / d)
      rw [hi, Nat.div_lt_iff_lt_mul hd] at hlt
      calc n ≤ Nat.pow 2 53 * Nat.pow 2 i * d := Nat.le_of_lt hlt
        _ = d * Nat.pow 2 i * Nat.pow 2 53 := by rw [Nat.mul_comm, Nat.mul_comm (Nat.pow 2 53),
          Nat.mul_assoc]
    have hlower : Nat.pow 2 52 ≤ roundDiv m (d * Nat.pow 2 j) := by
      rw [← roundDiv_mul hdj (Nat.pow 2 52)]
      apply roundDiv_mono hdj
      have hle := two_pow_lastPlace_le (n := m / d) (by omega)
      rw [hj, Nat.le_div_iff_mul_le hd] at hle
      calc d * Nat.pow 2 j * Nat.pow 2 52 = Nat.pow 2 52 * Nat.pow 2 j * d := by
            rw [Nat.mul_comm, Nat.mul_comm d, Nat.mul_assoc]
        _ ≤ m := hle
    calc roundDiv n (d * Nat.pow 2 i) * Nat.pow 2 i ≤ Nat.pow 2 53 * Nat.pow 2 i :=
          Nat.mul_le_mul_right _ hupper
      _ = Nat.pow 2 52 * Nat.pow 2 (i + 1) := by
          rw [← two_pow_add, ← two_pow_add]
          congr 1
          omega
      _ ≤ Nat.pow 2 52 * Nat.pow 2 j :=
          Nat.mul_le_mul_left _ (Nat.pow_le_pow_right (by decide) hp)
      _ ≤ roundDiv m (d * Nat.pow 2 j) * Nat.pow 2 j := Nat.mul_le_mul_right _ hlower

theorem ofNat_mono {n m : Nat} (h : n ≤ m) : ofNat n ≤ ofNat m :=
  nearest_mono Nat.one_pos (Nat.mul_le_mul_right one h)

theorem add_mono {a b c d : Nat} (h : a ≤ c) (h' : b ≤ d) : add a b ≤ add c d :=
  nearest_mono Nat.one_pos (Nat.add_le_add h h')

theorem mul_mono {a b : Nat} (h : a ≤ b) (c : Nat) : mul a c ≤ mul b c :=
  nearest_mono one_pos (Nat.mul_le_mul_right c h)

end Binary64

end DiagramReview
