import DiagramReview.Diagram.Metrics
import DiagramReview.Proofs.Text.LineEnd
import Mathlib.Algebra.BigOperators.Fin
import Mathlib.Order.Bounds.Basic
import Mathlib.Order.Interval.Finset.Fin

/-!
How deep blocks nest, without a counter: the depth of a document is the greatest number of blocks
that any stretch of its lines opens beyond those that it closes. So an `end` that closes nothing
costs nothing later, and a block that nobody closes counts.
-/

namespace DiagramReview

open Text

def surplus (keywords : List Text) (line : Text) : Int :=
  (keywords.countP (·.isPrefixOf line) : Int) - if line = "end".toList then 1 else 0

variable {keywords : List Text} {line : Text}

theorem surplus_eq (keywords : List Text) (line : Text) :
    surplus keywords line = (opened keywords line : Int) - closed line := by
  rw [surplus, opened, closed, Nat.cast_ite, Nat.cast_one, Nat.cast_zero]

theorem le_deepest (keywords : List Text) (depth : Nat) (ls : List Text) :
    depth ≤ deepest keywords depth ls := by
  cases ls with
  | nil => exact Nat.le_refl depth
  | cons l ls =>
    rw [deepest]
    exact Nat.le_trans (Nat.le_add_right _ _) (Nat.le_max_left _ _)

theorem closed_cases (h : ∀ w ∈ keywords, ¬ w <+: "end".toList) (line : Text) :
    closed line = 0 ∨ opened keywords line = 0 ∧ closed line = 1 := by
  by_cases hline : line = "end".toList
  · refine .inr ⟨?_, if_pos hline⟩
    apply List.countP_eq_zero.mpr
    intro w hw hp
    rw [hline] at hp
    exact h w hw (List.isPrefixOf_iff_prefix.mp hp)
  · exact .inl (if_neg hline)

theorem deepest_cons_of_open (h : closed line = 0) (depth : Nat) (ls : List Text) :
    deepest keywords depth (line :: ls) = deepest keywords (depth + opened keywords line) ls := by
  rw [deepest, h, Nat.sub_zero]
  exact Nat.max_eq_right (le_deepest keywords _ ls)

theorem deepest_cons_of_closing (ho : opened keywords line = 0) (hc : closed line = 1)
    (depth : Nat) (ls : List Text) :
    deepest keywords depth (line :: ls) = max depth (deepest keywords (depth - 1) ls) := by
  rw [deepest, ho, hc, Nat.add_zero]

theorem deepest_le_append (keywords : List Text) (depth : Nat) (ls ms : List Text) :
    deepest keywords depth ls ≤ deepest keywords depth (ls ++ ms) := by
  induction ls generalizing depth with
  | nil => exact le_deepest keywords depth ms
  | cons l ls ih =>
    rw [List.cons_append, deepest, deepest]
    exact Nat.max_le.mpr ⟨Nat.le_max_left _ _, Nat.le_trans (ih _) (Nat.le_max_right _ _)⟩

theorem add_sum_le_deepest (keywords : List Text) {block ls : List Text} (h : block <+: ls)
    (depth : Nat) :
    depth + (block.map (surplus keywords)).sum ≤ (deepest keywords depth ls : Int) := by
  induction ls generalizing block depth with
  | nil =>
    obtain rfl := List.prefix_nil.mp h
    simp [deepest]
  | cons l ls ih =>
    cases block with
    | nil =>
      have hd := le_deepest keywords depth (l :: ls)
      simpa using hd
    | cons b block =>
      obtain ⟨rfl, hb⟩ := List.cons_prefix_cons.mp h
      have hrest := ih hb (depth + opened keywords b - closed b)
      rw [deepest, List.map_cons, List.sum_cons, surplus_eq]
      omega

theorem sum_le_deepest (keywords : List Text) {block ls : List Text} (h : block <:+: ls)
    (depth : Nat) :
    (block.map (surplus keywords)).sum ≤ (deepest keywords depth ls : Int) := by
  induction ls generalizing depth with
  | nil =>
    obtain rfl := List.infix_nil.mp h
    simp
  | cons l ls ih =>
    rcases List.infix_cons_iff.mp h with hp | hi
    · have hle := add_sum_le_deepest keywords hp depth
      omega
    · have hle := ih hi (depth + opened keywords l - closed l)
      rw [deepest]
      omega

theorem exists_stretch (h : ∀ w ∈ keywords, ¬ w <+: "end".toList) (depth : Nat) (ls : List Text) :
    (∃ block, block <+: ls ∧
      (deepest keywords depth ls : Int) = depth + (block.map (surplus keywords)).sum) ∨
    ∃ block, block <:+: ls ∧
      (deepest keywords depth ls : Int) = (block.map (surplus keywords)).sum := by
  induction ls generalizing depth with
  | nil => exact .inl ⟨[], List.nil_prefix, by simp [deepest]⟩
  | cons l ls ih =>
    rcases closed_cases h l with hopen | ⟨ho, hc⟩
    · rw [deepest_cons_of_open hopen]
      rcases ih (depth + opened keywords l) with ⟨block, hb, heq⟩ | ⟨block, hb, heq⟩
      · refine .inl ⟨l :: block, List.cons_prefix_cons.mpr ⟨rfl, hb⟩, ?_⟩
        rw [heq, List.map_cons, List.sum_cons, surplus_eq, hopen]
        omega
      · exact .inr ⟨block, List.infix_cons hb, heq⟩
    · rw [deepest_cons_of_closing ho hc]
      rcases Nat.le_total (deepest keywords (depth - 1) ls) depth with hle | hle
      · rw [Nat.max_eq_left hle]
        exact .inl ⟨[], List.nil_prefix, by simp⟩
      · rw [Nat.max_eq_right hle]
        rcases ih (depth - 1) with ⟨block, hb, heq⟩ | ⟨block, hb, heq⟩
        · by_cases hd : depth = 0
          · -- the line closes nothing, so the depth starts again below it
            subst hd
            exact .inr ⟨block, List.infix_cons hb.isInfix, by simpa using heq⟩
          · refine .inl ⟨l :: block, List.cons_prefix_cons.mpr ⟨rfl, hb⟩, ?_⟩
            rw [heq, List.map_cons, List.sum_cons, surplus_eq, ho, hc]
            omega
        · exact .inr ⟨block, List.infix_cons hb, heq⟩

theorem exists_sum_eq_deepest (h : ∀ w ∈ keywords, ¬ w <+: "end".toList) (ls : List Text) :
    ∃ block, block <:+: ls ∧
      (deepest keywords 0 ls : Int) = (block.map (surplus keywords)).sum := by
  rcases exists_stretch h 0 ls with ⟨block, hb, heq⟩ | hinfix
  · exact ⟨block, hb.isInfix, by simpa using heq⟩
  · exact hinfix

section

variable {α : Type} {f : α → Int} {block ls : List α}

theorem sum_Icc_eq_sum_stretch (f : α → Int) (ls : List α) (i j : Fin ls.length) :
    ∑ k ∈ Finset.Icc i j, f ls[k] = (((ls.take (j + 1)).drop i).map f).sum := by
  have hvalue : ∑ k ∈ Finset.Icc i j, f ls[k] =
      ∑ k ∈ Finset.Icc (i : Nat) j, (ls[k]?.map f).getD 0 := by
    rw [← Fin.map_valEmbedding_Icc, Finset.sum_map]
    apply Finset.sum_congr rfl
    intro k _
    simp
  have hlist : (List.range' i (j + 1 - i)).map (fun k => (ls[k]?.map f).getD 0) =
      ((ls.take (j + 1)).drop i).map f := by
    have hj := j.isLt
    apply List.ext_getElem
    · simp only [List.length_map, List.length_range', List.length_drop, List.length_take]
      omega
    · intro k h₁ h₂
      have hk : i + k < ls.length := by
        simp only [List.length_map, List.length_range'] at h₁
        omega
      simp [hk]
  rw [hvalue, ← hlist, Nat.Icc_eq_range']
  rfl

theorem stretch_isInfix (ls : List α) (i j : Nat) : (ls.take j).drop i <:+: ls :=
  (List.drop_suffix i _).isInfix.trans (List.take_prefix j ls).isInfix

theorem exists_sum_Icc_eq (h : block <:+: ls) (hne : block ≠ []) :
    ∃ i j : Fin ls.length, i ≤ j ∧ ∑ k ∈ Finset.Icc i j, f ls[k] = (block.map f).sum := by
  obtain ⟨before, after, rfl⟩ := h
  have hpos := List.length_pos_iff.mpr hne
  have hlen : (before ++ block ++ after).length =
      before.length + block.length + after.length := by
    rw [List.length_append, List.length_append]
  refine ⟨⟨before.length, by omega⟩, ⟨before.length + block.length - 1, by omega⟩, ?_, ?_⟩
  · rw [Fin.mk_le_mk]
    omega
  · have hj : before.length + block.length - 1 + 1 = (before ++ block).length := by
      rw [List.length_append]
      omega
    rw [sum_Icc_eq_sum_stretch, hj, List.take_left' rfl, List.drop_left' rfl]

end

theorem nestingDepth_le_below (h : ∀ w ∈ keywords, ¬ w <+: "end".toList) (a s : Text) :
    nestingDepth keywords s ≤ nestingDepth keywords (a ++ '\n' :: s) := by
  obtain ⟨block, hb, heq⟩ := exists_sum_eq_deepest h ((rows s).map trim)
  have hbelow : block <:+: (rows (a ++ '\n' :: s)).map trim := by
    rw [map_trim_rows_append]
    exact hb.trans (List.suffix_append _ _).isInfix
  have hle := sum_le_deepest keywords hbelow 0
  rw [nestingDepth, nestingDepth]
  omega

theorem sum_opened_le_nestingDepth {before after : List Text} {s : Text}
    (hs : rows s = before ++ after) (hopen : ∀ l ∈ after, trim l ≠ "end".toList) :
    (after.map fun l => opened keywords (trim l)).sum ≤ nestingDepth keywords s := by
  have hinfix : after.map trim <:+: (rows s).map trim := by
    rw [hs, List.map_append]
    exact (List.suffix_append _ _).isInfix
  have hsurplus : ((after.map trim).map (surplus keywords)).sum =
      ((after.map fun l => opened keywords (trim l)).sum : Int) := by
    rw [List.map_map, Nat.cast_list_sum, List.map_map]
    congr 1
    apply List.map_congr_left
    intro l hl
    have hclosed : closed (trim l) = 0 := if_neg (hopen l hl)
    simp [surplus_eq, hclosed]
  have hle := sum_le_deepest keywords hinfix 0
  rw [hsurplus] at hle
  exact Int.ofNat_le.mp hle

/-- The depth is the greatest of zero and of what the lines between any two places open beyond what
they close, as long as no keyword opens a line that closes. In particular, lines before a text take
nothing from its depth, and blocks that no line closes count. -/
theorem nestingDepth_isGreatest (keywords : List Text) (s : Text)
    (h : ∀ w ∈ keywords, ¬ w <+: "end".toList) :
    IsGreatest (insert 0 {x : Int | ∃ i j : Fin (rows s).length, i ≤ j ∧
      ∑ k ∈ Finset.Icc i j, ((keywords.countP (·.isPrefixOf (trim (rows s)[k])) : Int) -
        if trim (rows s)[k] = "end".toList then 1 else 0) = x})
      (nestingDepth keywords s : Int) ∧
    (∀ a, nestingDepth keywords s ≤ nestingDepth keywords (a ++ '\n' :: s)) ∧
    (∀ before after, rows s = before ++ after → (∀ l ∈ after, trim l ≠ "end".toList) →
      (after.map fun l => keywords.countP (·.isPrefixOf (trim l))).sum ≤
        nestingDepth keywords s) := by
  refine ⟨⟨?_, ?_⟩, fun a => nestingDepth_le_below h a s, fun _ _ => sum_opened_le_nestingDepth⟩
  · obtain ⟨block, hb, heq⟩ := exists_sum_eq_deepest h ((rows s).map trim)
    obtain ⟨stretch, hs, rfl⟩ := List.infix_map_iff.mp hb
    rw [List.map_map] at heq
    by_cases hne : stretch = []
    · left
      rw [nestingDepth, heq, hne]
      rfl
    · right
      obtain ⟨i, j, hij, hsum⟩ := exists_sum_Icc_eq (f := surplus keywords ∘ trim) hs hne
      exact ⟨i, j, hij, hsum.trans heq.symm⟩
  · rintro x (rfl | ⟨i, j, -, rfl⟩)
    · exact Int.natCast_nonneg _
    · have hsum := sum_Icc_eq_sum_stretch (surplus keywords ∘ trim) (rows s) i j
      have hinfix := (stretch_isInfix (rows s) i (j + 1)).map trim
      have hle := sum_le_deepest keywords hinfix 0
      rw [List.map_map, ← hsum] at hle
      exact hle

theorem nestingDepth_isGreatest_behind_stray_end :
    let s := "end\nalt x\nloop y\n end\r\nparticipant Z".toList
    (∀ w ∈ sequenceBlocks, ¬ w <+: "end".toList) ∧
    IsGreatest (insert 0 {x : Int | ∃ i j : Fin (rows s).length, i ≤ j ∧
      ∑ k ∈ Finset.Icc i j, ((sequenceBlocks.countP (·.isPrefixOf (trim (rows s)[k])) : Int) -
        if trim (rows s)[k] = "end".toList then 1 else 0) = x})
      (nestingDepth sequenceBlocks s : Int) ∧
    (∀ a, nestingDepth sequenceBlocks s ≤ nestingDepth sequenceBlocks (a ++ '\n' :: s)) ∧
    (∀ before after, rows s = before ++ after → (∀ l ∈ after, trim l ≠ "end".toList) →
      (after.map fun l => sequenceBlocks.countP (·.isPrefixOf (trim l))).sum ≤
        nestingDepth sequenceBlocks s) := by
  intro s
  have h : ∀ w ∈ sequenceBlocks, ¬ w <+: "end".toList := by decide
  exact ⟨h, nestingDepth_isGreatest sequenceBlocks s h⟩

end DiagramReview
