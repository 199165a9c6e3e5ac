import DiagramReview.Text.Units

namespace DiagramReview.Text

def take16 : Nat → Text → Text
  | _, [] => []
  | n, c :: s => if units16 c ≤ n then c :: take16 (n - units16 c) s else []

def drop16 : Nat → Text → Text
  | _, [] => []
  | n, c :: s => if n = 0 then c :: s else drop16 (n - units16 c) s

theorem units16_pos (c : Char) : 0 < units16 c := by
  unfold units16
  split <;> decide

theorem length16_cons (c : Char) (s : Text) : length16 (c :: s) = units16 c + length16 s := rfl

theorem length16_append (s t : Text) : length16 (s ++ t) = length16 s + length16 t := by
  induction s with
  | nil => simp [length16]
  | cons c s ih => rw [List.cons_append, length16_cons, length16_cons, ih, Nat.add_assoc]

theorem take16_zero (s : Text) : take16 0 s = [] := by
  cases s with
  | nil => rfl
  | cons c s =>
    have hc := units16_pos c
    rw [take16, if_neg (by omega)]

theorem drop16_zero (s : Text) : drop16 0 s = s := by cases s <;> rfl

theorem take16_length16_append (s t : Text) : take16 (length16 s) (s ++ t) = s := by
  induction s with
  | nil => exact take16_zero t
  | cons c s ih =>
    rw [List.cons_append, length16_cons, take16, if_pos (Nat.le_add_right _ _),
      Nat.add_sub_cancel_left, ih]

def Splits (column : Nat) (line : Text) : Prop :=
  ∃ a c b, line = a ++ c :: b ∧ length16 a < column ∧ column < length16 a + units16 c

variable {n : Nat} {c : Char} {s : Text}

theorem units16_eq (c : Char) : units16 c = 1 ∨ units16 c = 2 := by
  unfold units16
  split
  · exact .inl rfl
  · exact .inr rfl

theorem not_splits_nil : ¬ Splits n [] := by
  rintro ⟨a, c, b, h, -⟩
  simp at h

theorem splits_cons_iff : Splits n (c :: s) ↔
    0 < n ∧ n < units16 c ∨ units16 c ≤ n ∧ Splits (n - units16 c) s := by
  constructor
  · rintro ⟨a, x, b, h, hlow, hhigh⟩
    cases a with
    | nil =>
      obtain ⟨rfl, rfl⟩ := List.cons.inj h
      simp only [length16, List.foldr_nil] at hlow hhigh
      omega
    | cons y a =>
      obtain ⟨rfl, rfl⟩ := List.cons.inj h
      rw [length16_cons] at hlow hhigh
      refine .inr ⟨by omega, a, x, b, rfl, ?_⟩
      omega
  · rintro (⟨hpos, hlt⟩ | ⟨hle, a, x, b, rfl, hlow, hhigh⟩)
    · refine ⟨[], c, s, rfl, ?_⟩
      simp only [length16, List.foldr_nil]
      omega
    · refine ⟨c :: a, x, b, rfl, ?_⟩
      rw [length16_cons]
      omega

instance decidableSplits : (n : Nat) → (s : Text) → Decidable (Splits n s)
  | _, [] => .isFalse not_splits_nil
  | n, c :: s =>
    have := decidableSplits (n - units16 c) s
    decidable_of_iff _ splits_cons_iff.symm

/-- At a column that splits nothing, counting units and counting characters cut a line at the same
place, unless a character of two units stands before both cuts. -/
theorem take16_eq_take (h : ¬ Splits n s) : take16 n s = s.take n ∨
    (∃ c ∈ take16 n s, units16 c = 2) ∧ ∃ c ∈ s.take n, units16 c = 2 := by
  induction s generalizing n with
  | nil => exact .inl List.take_nil.symm
  | cons c s ih =>
    rcases Nat.eq_zero_or_pos n with rfl | hn
    · exact .inl (take16_zero _)
    · have hle : units16 c ≤ n := by
        apply Nat.le_of_not_lt
        intro hlt
        exact h (splits_cons_iff.mpr (.inl ⟨hn, hlt⟩))
      have hrest : ¬ Splits (n - units16 c) s := fun hs => h (splits_cons_iff.mpr (.inr ⟨hle, hs⟩))
      obtain ⟨k, rfl⟩ := Nat.exists_eq_succ_of_ne_zero (Nat.ne_of_gt hn)
      rw [take16, if_pos hle, List.take_succ_cons]
      rcases units16_eq c with hc | hc
      · rw [hc] at hrest ⊢
        rcases ih hrest with heq | ⟨⟨x, hx, hxw⟩, y, hy, hyw⟩
        · exact .inl (congrArg (c :: ·) heq)
        · exact .inr ⟨⟨x, List.mem_cons_of_mem c hx, hxw⟩, y, List.mem_cons_of_mem c hy, hyw⟩
      · -- from the first such character on, the two cuts may differ
        exact .inr ⟨⟨c, List.mem_cons_self, hc⟩, c, List.mem_cons_self, hc⟩

end DiagramReview.Text
