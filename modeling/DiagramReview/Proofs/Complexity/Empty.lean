import DiagramReview.Complexity.Analysis
import DiagramReview.Proofs.Number.Rounding
import DiagramReview.Proofs.Validation.Findings

namespace DiagramReview

namespace Binary64

theorem nearest_zero {d : Nat} (h : 0 < d) : nearest 0 d = 0 := by
  have hplace : lastPlace (0 / d) = 0 := by
    rw [Nat.zero_div]
    decide
  have hround : roundDiv 0 d = 0 := by simp [roundDiv, h]
  simp only [nearest, hplace]
  rw [show d * Nat.pow 2 0 = d from Nat.mul_one d, hround, Nat.zero_mul]

theorem ofNat_zero : ofNat 0 = 0 := by
  rw [ofNat, ofRatio, Nat.zero_mul, nearest_zero Nat.one_pos]

theorem zero_mul (b : Nat) : mul 0 b = 0 := by
  rw [mul, Nat.zero_mul, nearest_zero one_pos]

theorem add_zero_zero : add 0 0 = 0 := nearest_zero Nat.one_pos

theorem ofUnits_zero (negative : Bool) : ofUnits negative 0 = .finite negative 0 := by
  unfold ofUnits
  apply if_pos
  apply two_pow_pos

end Binary64

namespace Metrics

theorem get_empty (c : Counter) : get {} c = 0 := by cases c <;> rfl

theorem weighed_empty (w : Weight) : weighed {} w = 0 := by
  rw [weighed, get_empty, Binary64.ofNat_zero, Binary64.zero_mul]

theorem scoreUnits_empty (kind : Kind) : scoreUnits {} kind = 0 := by
  rw [scoreUnits]
  induction kind.weights with
  | nil => rfl
  | cons w ws ih => rw [List.foldl_cons, weighed_empty, Binary64.add_zero_zero, ih]

theorem score_empty (kind : Option Kind) : score {} kind = .finite false 0 := by
  cases kind with
  | none => rfl
  | some kind =>
    rw [score, scoreUnits_empty, Binary64.ofUnits_zero]

end Metrics

variable {t : Thresholds}

theorem Thresholds.level_rate_zero (h : 1 ≤ t.simple) :
    (t.rate (.finite false 0)).level = .simple := by
  have hbelow : (Binary64.finite false 0).below t.simple.toNat = true := by
    rw [Binary64.below, decide_eq_true_iff]
    exact Nat.mul_pos (UInt32.le_iff_toNat_le.mp h) Binary64.one_pos
  rw [rate, classify, if_pos hbelow]

theorem Verdict.level_of_empty (h : 1 ≤ t.simple) {s : Text}
    (hs : Kind.detect s = none ∨ metrics s = {}) : (ofText t s).complexity.level = .simple := by
  rw [complexity_ofText]
  rcases hs with hkind | hmetrics
  · rw [hkind]
    exact Thresholds.level_rate_zero h
  · rw [hmetrics, Metrics.score_empty]
    exact Thresholds.level_rate_zero h

theorem Analysis.level_of_empty (h : 1 ≤ t.simple) {kind : Kind} {s : Text}
    (hs : Metrics.measure kind s = {}) : (Analysis.ofKind t kind s).complexity.level = .simple := by
  rw [ofKind, hs, Metrics.score_empty]
  exact Thresholds.level_rate_zero h

end DiagramReview
