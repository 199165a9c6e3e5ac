import DiagramReview.Proofs.Complexity.Empty
import DiagramReview.Proofs.Number.Order

namespace DiagramReview

variable {m n : Metrics}

namespace Metrics

theorem weighed_mono (h : ∀ c, m.get c ≤ n.get c) (w : Weight) : m.weighed w ≤ n.weighed w :=
  Binary64.mul_mono (Binary64.ofNat_mono (h w.counter)) _

theorem scoreUnits_mono (h : ∀ c, m.get c ≤ n.get c) (kind : Kind) :
    m.scoreUnits kind ≤ n.scoreUnits kind := by
  have hsum (ws : List Weight) {u v : Nat} (huv : u ≤ v) :
      ws.foldl (fun sum w => Binary64.add sum (m.weighed w)) u ≤
        ws.foldl (fun sum w => Binary64.add sum (n.weighed w)) v := by
    induction ws generalizing u v with
    | nil => exact huv
    | cons w ws ih => exact ih (Binary64.add_mono huv (weighed_mono h w))
  exact hsum kind.weights (Nat.le_refl 0)

theorem score_mono (h : ∀ c, m.get c ≤ n.get c) (kind : Option Kind) :
    m.score kind ≤ n.score kind := by
  cases kind with
  | none => exact Binary64.finite_le_finite.mpr (Int.le_refl _)
  | some kind =>
    rw [score, score]
    apply Binary64.ofUnits_mono
    exact scoreUnits_mono h kind

end Metrics

namespace Thresholds

variable {x y : Binary64}

theorem classify_mono (t : Thresholds) (h : x ≤ y) : t.classify x ≤ t.classify y := by
  unfold classify
  by_cases hsimple : y.below t.simple.toNat = true
  · rw [if_pos hsimple, if_pos (Binary64.below_of_le h hsimple)]
    decide
  · rw [if_neg hsimple]
    by_cases hmoderate : y.below t.moderate.toNat = true
    · rw [if_pos hmoderate, if_pos (Binary64.below_of_le h hmoderate)]
      split_ifs <;> decide
    · rw [if_neg hmoderate]
      split_ifs <;> decide

theorem rate_mono (t : Thresholds) (h : x ≤ y) :
    (t.rate x).score ≤ (t.rate y).score ∧ (t.rate x).level ≤ (t.rate y).level := by
  constructor
  · exact Binary64.toNat_mono h
  · exact t.classify_mono h

end Thresholds

/-- Where each counter is at most as great, so is the score, and what is shown of it and the level
for any thresholds are not higher. Where nothing is counted the score is zero. -/
theorem more_counted_never_simpler (h : ∀ c, m.get c ≤ n.get c) (kind : Option Kind)
    (t : Thresholds) :
    m.score kind ≤ n.score kind ∧
      (t.rate (m.score kind)).score ≤ (t.rate (n.score kind)).score ∧
      (t.rate (m.score kind)).level ≤ (t.rate (n.score kind)).level ∧
      Metrics.score {} kind = .finite false 0 := by
  have hscore : m.score kind ≤ n.score kind := Metrics.score_mono h kind
  obtain ⟨hshown, hlevel⟩ := t.rate_mono hscore
  exact ⟨hscore, hshown, hlevel, Metrics.score_empty kind⟩

theorem greatest_counts_never_simpler :
    let m : Metrics := { elements := 7, attributes := Bits.values 53 + 1 }
    let n : Metrics := { elements := Bits.values 64 - 1, attributes := Bits.values 64 - 1 }
    let t : Thresholds := { simple := 40, moderate := 0 }
    let kind := some Kind.classes
    (∀ c, m.get c ≤ n.get c) ∧ m.score kind ≤ n.score kind ∧
      (t.rate (m.score kind)).score ≤ (t.rate (n.score kind)).score ∧
      (t.rate (m.score kind)).level ≤ (t.rate (n.score kind)).level ∧
      Metrics.score {} kind = .finite false 0 := by
  intro m n t kind
  have h : ∀ c, m.get c ≤ n.get c := by
    intro c
    cases c <;> decide
  exact ⟨h, more_counted_never_simpler h kind t⟩

end DiagramReview
