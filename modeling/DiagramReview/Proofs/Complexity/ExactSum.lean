import DiagramReview.Complexity.Score
import DiagramReview.Proofs.Number.Nearness
import Mathlib.Tactic.Linarith
import Mathlib.Tactic.Ring

/-!
The score beside the weighted sum that it stands for. The weights 3/10 and 8/10 are no doubles, so
products and sums are rounded; for counts of 32 bits all errors together are less than a tenth, and
the exact sum is a whole number of tenths. Only a sum that is a threshold can be misplaced then, and
there the score is exact, except in class diagrams.
-/

namespace DiagramReview

open Binary64

def Metrics.exactScore (m : Metrics) : Option Kind → ℚ
  | none => 0
  | some .classes => m.elements + 3 / 10 * m.attributes + 3 / 10 * m.methods +
      1 / 2 * m.relationships
  | some .sequence => 2 * m.elements + m.relationships + 5 * m.nesting + 3 * m.branches
  | some .state | some .oldState => 3 / 2 * m.elements + m.relationships + 5 * m.nesting
  | some .entities => 3 / 2 * m.elements + 3 / 10 * m.attributes + m.relationships
  | some .flowchart | some .graph =>
      m.elements + 4 / 5 * m.relationships + 3 * m.subgraphs + 2 * m.branches

def Thresholds.levelOf (t : Thresholds) (sum : ℚ) : Level :=
  if sum < t.simple.toNat then .simple
  else if sum < t.moderate.toNat then .moderate
  else .complex

namespace Binary64

/-- The step in which errors are measured: what is below `2 ^ 37` is rounded by half of it at
most. -/
def step : Nat := Nat.pow 2 1058

def half : Nat := Nat.pow 2 1073

theorem one_eq_step : one = 2 ^ 16 * step := by decide +kernel

theorem one_eq_half : one = 2 * half := by decide +kernel

theorem step_pos : 0 < step := by
  unfold step
  apply two_pow_pos

theorem half_pos : 0 < half := by
  unfold half
  apply two_pow_pos

theorem nearest_near_step {n : Nat} (h : n < 2 ^ 53 * step) :
    2 * n ≤ 2 * nearest n 1 + step ∧ 2 * nearest n 1 ≤ 2 * n + step := by
  unfold step at h ⊢
  generalize 1058 = place at h ⊢
  exact nearest_near h

theorem nearest_eq_half {n j : Nat} (hn : n < 2 ^ 53 * half)
    (hupper : 2 ^ 54 * n ≤ 2 ^ 54 * (j * half) + n)
    (hlower : 2 ^ 54 * (j * half) ≤ 2 ^ 54 * n + n) : nearest n 1 = j * half := by
  unfold half at hn hupper hlower ⊢
  generalize 1073 = place at hn hupper hlower ⊢
  exact nearest_eq (Nat.dvd_mul_left _ j) hn hupper hlower

/-- Are the units within so many steps of the tenths? Both are taken ten times. -/
def Near (steps units tenths : Nat) : Prop :=
  10 * units ≤ tenths * one + steps * step ∧ tenths * one ≤ 10 * units + steps * step

theorem add_near {a b s t d e : Nat} (hs : Near a s d) (ht : Near b t e) (hab : a + b ≤ 2 ^ 15)
    (hde : d + e ≤ 2 ^ 40) : Near (a + b + 5) (add s t) (d + e) := by
  unfold Near at hs ht ⊢
  have hstep := step_pos
  have hslack : (a + b) * step ≤ 2 ^ 15 * step := Nat.mul_le_mul_right step hab
  have hsum : (d + e) * one ≤ 2 ^ 40 * one := Nat.mul_le_mul_right one hde
  rw [Nat.add_mul] at hslack hsum
  rw [add, Nat.add_mul, Nat.add_mul, Nat.add_mul]
  generalize d * one = d' at *
  generalize e * one = e' at *
  generalize a * step = a' at *
  generalize b * step = b' at *
  rw [one_eq_step] at hsum
  have hnear := nearest_near_step (by omega : s + t < 2 ^ 53 * step)
  omega

theorem add_exact {s t d e : Nat} (hs : 10 * s = d * one) (ht : 10 * t = e * one) (hd : 5 ∣ d)
    (he : 5 ∣ e) (hde : d + e ≤ 2 ^ 40) : 10 * add s t = (d + e) * one := by
  obtain ⟨i, rfl⟩ := hd
  obtain ⟨j, rfl⟩ := he
  have hsum : s + t = (i + j) * half := by
    rw [one_eq_half] at hs ht
    linarith
  have hlt : (i + j) * half < 2 ^ 53 * half := Nat.mul_lt_mul_of_pos_right (by omega) half_pos
  have hself : nearest ((i + j) * half) 1 = (i + j) * half :=
    nearest_eq_half hlt (Nat.le_add_right _ _) (Nat.le_add_right _ _)
  rw [add, hsum, hself, one_eq_half]
  ring

end Binary64

def Weight.Represented (w : Weight) : Prop :=
  ofRatio w.tenths 10 ≤ 5 * one ∧
    2 ^ 54 * (10 * ofRatio w.tenths 10) ≤
      2 ^ 54 * (w.tenths * one) + 10 * ofRatio w.tenths 10 ∧
    2 ^ 54 * (w.tenths * one) ≤
      2 ^ 54 * (10 * ofRatio w.tenths 10) + 10 * ofRatio w.tenths 10

theorem Kind.represented_of_mem_weights {kind : Kind} : ∀ w ∈ kind.weights, w.Represented := by
  unfold Weight.Represented
  cases kind <;> decide +kernel

namespace Metrics

variable {m : Metrics} {w : Weight} {ws : List Weight}

def tenths (m : Metrics) (ws : List Weight) : Nat :=
  (ws.map fun w => w.tenths * m.get w.counter).sum

theorem tenths_cons (m : Metrics) (w : Weight) (ws : List Weight) :
    m.tenths (w :: ws) = w.tenths * m.get w.counter + m.tenths ws := rfl

theorem weighed_eq (hm : m.get w.counter < 2 ^ 32) :
    m.weighed w = nearest (m.get w.counter * ofRatio w.tenths 10) 1 := by
  apply mul_ofNat
  exact Nat.lt_trans hm (by decide)

theorem represented_mul (h : w.Represented) (n : Nat) :
    2 ^ 54 * (10 * (n * ofRatio w.tenths 10)) ≤
        2 ^ 54 * (w.tenths * n * one) + 10 * (n * ofRatio w.tenths 10) ∧
      2 ^ 54 * (w.tenths * n * one) ≤
        2 ^ 54 * (10 * (n * ofRatio w.tenths 10)) + 10 * (n * ofRatio w.tenths 10) := by
  obtain ⟨-, hupper, hlower⟩ := h
  constructor
  · have hmul := Nat.mul_le_mul_left n hupper
    linarith
  · have hmul := Nat.mul_le_mul_left n hlower
    linarith

theorem mul_ofRatio_le (h : w.Represented) {n : Nat} (hn : n < 2 ^ 32) :
    n * ofRatio w.tenths 10 ≤ 2 ^ 32 * (5 * one) :=
  Nat.mul_le_mul (Nat.le_of_lt hn) h.1

theorem weighed_near (h : w.Represented) (hm : m.get w.counter < 2 ^ 32) :
    Near 6 (m.weighed w) (w.tenths * m.get w.counter) := by
  have hle := mul_ofRatio_le h hm
  obtain ⟨hupper, hlower⟩ := represented_mul h (m.get w.counter)
  rw [weighed_eq hm]
  unfold Near
  generalize m.get w.counter * ofRatio w.tenths 10 = n at hle hupper hlower ⊢
  generalize w.tenths * m.get w.counter * one = exact at hupper hlower ⊢
  rw [one_eq_step] at hle
  have hstep := step_pos
  have hnear := nearest_near_step (by omega : n < 2 ^ 53 * step)
  omega

theorem weighed_exact (h : w.Represented) (hm : m.get w.counter < 2 ^ 32)
    (hfive : 5 ∣ w.tenths * m.get w.counter) :
    10 * m.weighed w = w.tenths * m.get w.counter * one := by
  have hle := mul_ofRatio_le h hm
  obtain ⟨hupper, hlower⟩ := represented_mul h (m.get w.counter)
  rw [weighed_eq hm]
  obtain ⟨j, hj⟩ := hfive
  rw [hj] at hupper hlower ⊢
  generalize m.get w.counter * ofRatio w.tenths 10 = n at hle hupper hlower ⊢
  have hhalves : 5 * j * one = 10 * (j * half) := by
    rw [one_eq_half]
    ring
  have hhalf := half_pos
  rw [hhalves] at hupper hlower ⊢
  rw [one_eq_half] at hle
  rw [nearest_eq_half (j := j)]
  · omega
  · omega
  · omega

theorem foldl_near (hw : ∀ w ∈ ws, w.Represented) (hm : ∀ c, m.get c < 2 ^ 32) {a s d : Nat}
    (hs : Near a s d) (ha : a + 11 * ws.length ≤ 2 ^ 15) (hd : d + m.tenths ws ≤ 2 ^ 40) :
    Near (a + 11 * ws.length) (ws.foldl (fun sum w => Binary64.add sum (m.weighed w)) s)
      (d + m.tenths ws) := by
  induction ws generalizing a s d with
  | nil => exact hs
  | cons w ws ih =>
    obtain ⟨hhead, htail⟩ := List.forall_mem_cons.mp hw
    rw [List.length_cons] at ha ⊢
    rw [tenths_cons, ← Nat.add_assoc] at hd ⊢
    -- six steps for the product and five for its addition
    rw [List.foldl_cons, show a + 11 * (ws.length + 1) = a + 6 + 5 + 11 * ws.length by ring]
    apply ih htail
    · apply add_near hs (weighed_near hhead (hm w.counter))
      · omega
      · omega
    · omega
    · exact hd

theorem foldl_exact (hw : ∀ w ∈ ws, w.Represented ∧ 5 ∣ w.tenths * m.get w.counter)
    (hm : ∀ c, m.get c < 2 ^ 32) {s d : Nat} (hs : 10 * s = d * one) (hfive : 5 ∣ d)
    (hd : d + m.tenths ws ≤ 2 ^ 40) :
    10 * ws.foldl (fun sum w => Binary64.add sum (m.weighed w)) s = (d + m.tenths ws) * one := by
  induction ws generalizing s d with
  | nil => exact hs
  | cons w ws ih =>
    obtain ⟨⟨hrep, hdvd⟩, htail⟩ := List.forall_mem_cons.mp hw
    rw [tenths_cons, ← Nat.add_assoc] at hd ⊢
    rw [List.foldl_cons]
    apply ih htail
    · apply add_exact hs (weighed_exact hrep (hm w.counter) hdvd) hfive hdvd
      omega
    · exact Nat.dvd_add hfive hdvd
    · exact hd

theorem tenths_le_mul (hm : ∀ c, m.get c < 2 ^ 32) (ws : List Weight) :
    m.tenths ws ≤ (ws.map (·.tenths)).sum * 2 ^ 32 := by
  induction ws with
  | nil => exact Nat.zero_le _
  | cons w ws ih =>
    have hhead : w.tenths * m.get w.counter ≤ w.tenths * 2 ^ 32 :=
      Nat.mul_le_mul_left _ (Nat.le_of_lt (hm w.counter))
    rw [tenths_cons, List.map_cons, List.sum_cons, Nat.add_mul]
    omega

theorem tenths_le (hm : ∀ c, m.get c < 2 ^ 32) (kind : Kind) : m.tenths kind.weights ≤ 2 ^ 39 := by
  have hsum : (kind.weights.map (·.tenths)).sum ≤ 2 ^ 7 := by cases kind <;> decide
  have hle := tenths_le_mul hm kind.weights
  omega

theorem scoreUnits_near (hm : ∀ c, m.get c < 2 ^ 32) (kind : Kind) :
    10 * m.scoreUnits kind < (m.tenths kind.weights + 1) * one ∧
      m.tenths kind.weights * one < 10 * m.scoreUnits kind + one := by
  have hlength : kind.weights.length ≤ 4 := by cases kind <;> decide
  have hzero : Near 0 0 0 := by simp [Near]
  have htenths := tenths_le hm kind
  obtain ⟨hupper, hlower⟩ := foldl_near Kind.represented_of_mem_weights hm hzero
    (by omega : 0 + 11 * kind.weights.length ≤ 2 ^ 15)
    (by omega : 0 + m.tenths kind.weights ≤ 2 ^ 40)
  have hslack : (0 + 11 * kind.weights.length) * step < one := by
    rw [one_eq_step]
    exact Nat.mul_lt_mul_of_pos_right (by omega) step_pos
  rw [Nat.zero_add (m.tenths kind.weights)] at hupper hlower
  rw [Nat.add_mul, Nat.one_mul]
  exact ⟨Nat.lt_of_le_of_lt hupper (Nat.add_lt_add_left hslack _),
    Nat.lt_of_le_of_lt hlower (Nat.add_lt_add_left hslack _)⟩

theorem scoreUnits_exact (hm : ∀ c, m.get c < 2 ^ 32) {kind : Kind}
    (hfive : ∀ w ∈ kind.weights, 5 ∣ w.tenths * m.get w.counter) :
    10 * m.scoreUnits kind = m.tenths kind.weights * one := by
  have htenths := tenths_le hm kind
  have hw : ∀ w ∈ kind.weights, w.Represented ∧ 5 ∣ w.tenths * m.get w.counter :=
    fun w h => ⟨Kind.represented_of_mem_weights w h, hfive w h⟩
  have hzero : 10 * 0 = 0 * one := by rw [Nat.zero_mul]
  have hsum := foldl_exact hw hm hzero (Nat.dvd_zero 5)
    (by omega : 0 + m.tenths kind.weights ≤ 2 ^ 40)
  rwa [Nat.zero_add] at hsum

theorem below_score_iff (hm : ∀ c, m.get c < 2 ^ 32) (kind : Kind) (n : Nat) :
    (m.score (some kind)).below n = true ↔ m.scoreUnits kind < n * one := by
  have hfinite : m.scoreUnits kind < Nat.pow 2 2098 := by
    have hlt := (scoreUnits_near hm kind).1
    have htenths := tenths_le hm kind
    have hle : (m.tenths kind.weights + 1) * one ≤ 2 ^ 40 * one :=
      Nat.mul_le_mul_right one (by omega)
    have htop : 2 ^ 40 * one ≤ Nat.pow 2 2098 := by decide +kernel
    omega
  rw [score, ofUnits, if_pos hfinite, below, decide_eq_true_iff]

/-- A sum and a threshold that differ are a tenth apart, which is more than all errors. -/
theorem below_score_of_lt (hm : ∀ c, m.get c < 2 ^ 32) {kind : Kind} {n : Nat}
    (h : m.tenths kind.weights < 10 * n) : (m.score (some kind)).below n = true := by
  rw [below_score_iff hm]
  have hunits := (scoreUnits_near hm kind).1
  have hle : (m.tenths kind.weights + 1) * one ≤ 10 * n * one := Nat.mul_le_mul_right one h
  rw [Nat.mul_assoc] at hle
  omega

theorem tenths_le_of_below (hm : ∀ c, m.get c < 2 ^ 32) {kind : Kind} {n : Nat}
    (h : (m.score (some kind)).below n = true) : m.tenths kind.weights ≤ 10 * n := by
  rw [below_score_iff hm] at h
  have hunits := (scoreUnits_near hm kind).2
  by_contra hlt
  have hle : (10 * n + 1) * one ≤ m.tenths kind.weights * one :=
    Nat.mul_le_mul_right one (by omega)
  rw [Nat.add_mul, Nat.one_mul, Nat.mul_assoc] at hle
  omega

theorem fives_of_tenths_eq {kind : Kind} {n : Nat} (h : m.tenths kind.weights = 10 * n)
    (hkind : kind = .classes → 5 ∣ m.attributes) :
    ∀ w ∈ kind.weights, 5 ∣ w.tenths * m.get w.counter := by
  cases kind <;> simp [tenths, Kind.weights, get] at h hkind ⊢ <;> omega

theorem tenths_ne_of_below (hm : ∀ c, m.get c < 2 ^ 32) {kind : Kind} {n : Nat}
    (h : (m.score (some kind)).below n = true) (hkind : kind = .classes → 5 ∣ m.attributes) :
    m.tenths kind.weights ≠ 10 * n := by
  intro heq
  have hexact := scoreUnits_exact hm (fives_of_tenths_eq heq hkind)
  rw [below_score_iff hm] at h
  rw [heq, Nat.mul_assoc] at hexact
  omega

theorem exactScore_some (m : Metrics) (kind : Kind) :
    m.exactScore (some kind) = (m.tenths kind.weights : ℚ) / 10 := by
  cases kind <;> simp [exactScore, tenths, Kind.weights, get] <;> ring

theorem exactScore_lt_iff {kind : Kind} {n : Nat} :
    m.exactScore (some kind) < n ↔ m.tenths kind.weights < 10 * n := by
  rw [exactScore_some, div_lt_iff₀ (by norm_num), mul_comm]
  exact_mod_cast Iff.rfl

theorem below_score_none (m : Metrics) (n : Nat) : (m.score none).below n = true ↔ 0 < n := by
  have hone := one_pos
  rw [score, below, decide_eq_true_iff]
  simp [hone]

theorem below_of_exactScore_lt (hm : ∀ c, m.get c < 2 ^ 32) {kind : Option Kind} {n : Nat}
    (h : m.exactScore kind < n) : (m.score kind).below n = true := by
  cases kind with
  | none =>
    rw [exactScore, Nat.cast_pos] at h
    exact (below_score_none m n).mpr h
  | some kind => exact below_score_of_lt hm (exactScore_lt_iff.mp h)

theorem exactScore_of_below (hm : ∀ c, m.get c < 2 ^ 32) {kind : Option Kind} {n : Nat}
    (h : (m.score kind).below n = true) (hle : n ≤ m.exactScore kind) :
    m.exactScore kind = n ∧ kind = some .classes ∧ ¬ 5 ∣ m.attributes := by
  cases kind with
  | none =>
    have hn : (0 : ℚ) < n := by exact_mod_cast (below_score_none m n).mp h
    exact absurd hn (not_lt.mpr hle)
  | some kind =>
    rw [← not_lt, exactScore_lt_iff, not_lt] at hle
    have heq := Nat.le_antisymm (tenths_le_of_below hm h) hle
    have hclass : kind = .classes ∧ ¬ 5 ∣ m.attributes := by
      by_contra hcon
      apply tenths_ne_of_below hm h _ heq
      intro hkind
      by_contra hfive
      exact hcon ⟨hkind, hfive⟩
    refine ⟨?_, congrArg some hclass.1, hclass.2⟩
    rw [exactScore_some, heq]
    push_cast
    ring

end Metrics

namespace Thresholds

variable {score : Binary64} {sum : ℚ}

theorem classify_le_levelOf (t : Thresholds) (h : ∀ n : Nat, sum < n → score.below n = true) :
    t.classify score ≤ t.levelOf sum := by
  unfold classify levelOf
  by_cases hsimple : sum < t.simple.toNat
  · rw [if_pos (h _ hsimple), if_pos hsimple]
    decide
  · rw [if_neg hsimple]
    by_cases hmoderate : sum < t.moderate.toNat
    · rw [if_pos (h _ hmoderate), if_pos hmoderate]
      split_ifs <;> decide
    · rw [if_neg hmoderate]
      split_ifs <;> decide

theorem classify_ne_levelOf_iff (t : Thresholds) (h : ∀ n : Nat, sum < n → score.below n = true)
    (htie : ∀ n : Nat, score.below n = true → n ≤ sum → sum = n) :
    t.classify score ≠ t.levelOf sum ↔ ∃ n ∈ [t.simple.toNat, t.moderate.toNat],
      t.simple.toNat ≤ n ∧ sum = n ∧ score.below n = true := by
  simp only [List.mem_cons, List.not_mem_nil, or_false, exists_eq_or_imp, exists_eq_left,
    Nat.le_refl, true_and]
  unfold classify levelOf
  by_cases hsimple : sum < t.simple.toNat
  · rw [if_pos (h _ hsimple), if_pos hsimple]
    apply iff_of_false (fun hne => hne rfl)
    rintro (⟨heq, -⟩ | ⟨hle, heq, -⟩)
    · exact absurd hsimple heq.not_lt
    · rw [heq, Nat.cast_lt] at hsimple
      omega
  · rw [if_neg hsimple]
    by_cases hbelow : score.below t.simple.toNat = true
    · have heq := htie _ hbelow (not_lt.mp hsimple)
      rw [if_pos hbelow]
      apply iff_of_true _ (.inl ⟨heq, hbelow⟩)
      split_ifs <;> decide
    · rw [if_neg hbelow]
      by_cases hmoderate : sum < t.moderate.toNat
      · rw [if_pos (h _ hmoderate), if_pos hmoderate]
        simp [hbelow, hmoderate.ne]
      · rw [if_neg hmoderate]
        by_cases hbelow' : score.below t.moderate.toNat = true
        · have heq := htie _ hbelow' (not_lt.mp hmoderate)
          rw [heq, Nat.cast_lt, Nat.not_lt] at hsimple
          rw [if_pos hbelow']
          exact iff_of_true (by decide) (.inr ⟨hsimple, heq, hbelow'⟩)
        · rw [if_neg hbelow']
          simp [hbelow, hbelow']

end Thresholds

/-- For counts of 32 bits the level is that of the exact sum, or a lower one. It is lower just
where the exact sum is a threshold and the rounded one is below it; that is a class diagram whose
attributes are no multiple of five. -/
theorem level_follows_exact_sum {m : Metrics} (hm : ∀ c, m.get c < Bits.values 32)
    (kind : Option Kind) (t : Thresholds) :
    t.classify (m.score kind) ≤ t.levelOf (m.exactScore kind) ∧
      (t.classify (m.score kind) ≠ t.levelOf (m.exactScore kind) ↔
        ∃ n ∈ [t.simple.toNat, t.moderate.toNat], t.simple.toNat ≤ n ∧
          m.exactScore kind = n ∧ (m.score kind).below n = true) ∧
      ∀ n : Nat, m.exactScore kind = n → (m.score kind).below n = true →
        kind = some .classes ∧ ¬ 5 ∣ m.attributes := by
  have hlt (n : Nat) (h : m.exactScore kind < n) := Metrics.below_of_exactScore_lt hm h
  have htie (n : Nat) (hn : (m.score kind).below n = true) (hle : n ≤ m.exactScore kind) :=
    Metrics.exactScore_of_below hm hn hle
  refine ⟨t.classify_le_levelOf hlt, ?_, ?_⟩
  · exact t.classify_ne_levelOf_iff hlt fun n hn hle => (htie n hn hle).1
  · intro n hsum hn
    exact (htie n hn hsum.ge).2

theorem level_follows_exact_sum_of_flowchart :
    let m : Metrics := { elements := 9, relationships := 20 }
    let kind := some Kind.flowchart
    (∀ c, m.get c < Bits.values 32) ∧ m.exactScore kind = 25 ∧
      Thresholds.classify {} (m.score kind) = .moderate := by
  intro m kind
  have hm : ∀ c, m.get c < Bits.values 32 := by
    intro c
    cases c <;> decide
  have hsum : m.exactScore kind = 25 := by
    norm_num [m, kind, Metrics.exactScore]
  obtain ⟨-, hlevel, hclass⟩ := level_follows_exact_sum hm kind {}
  refine ⟨hm, hsum, ?_⟩
  by_contra hne
  have hexact : Thresholds.levelOf {} (m.exactScore kind) = .moderate := by
    rw [hsum]
    decide +kernel
  obtain ⟨n, -, -, hn, hbelow⟩ := hlevel.mp (by rwa [hexact])
  exact absurd (hclass n hn hbelow).1 (by decide)

theorem classes_below_exact_sum :
    let m : Metrics := { elements := 14, attributes := 31, methods := 4, relationships := 1 }
    let kind := some Kind.classes
    (∀ c, m.get c < Bits.values 32) ∧ m.exactScore kind = 25 ∧
      Thresholds.levelOf {} (m.exactScore kind) = .moderate ∧
      Thresholds.classify {} (m.score kind) = .simple := by
  intro m kind
  have hm : ∀ c, m.get c < Bits.values 32 := by
    intro c
    cases c <;> decide
  have hsum : m.exactScore kind = 25 := by
    norm_num [m, kind, Metrics.exactScore]
  refine ⟨hm, hsum, ?_, ?_⟩
  · rw [hsum]
    decide +kernel
  · decide +kernel

end DiagramReview
