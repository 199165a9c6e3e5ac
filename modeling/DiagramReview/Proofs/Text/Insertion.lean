import DiagramReview.Proofs.Text.Trim
import Mathlib.Data.List.TakeWhile

namespace DiagramReview.Text

def insertLine (k : Nat) (c s : Text) : Text := unlines ((lines s).take k ++ c :: (lines s).drop k)

def renumber (k n : Nat) : Nat := if n ≤ k then n else n + 1

variable {k : Nat} {a b c l part s : Text}

theorem renumber_of_le {n : Nat} (h : n ≤ k) : renumber k n = n := if_pos h

theorem renumber_of_lt {n : Nat} (h : k < n) : renumber k n = n + 1 := if_neg (by omega)

theorem lines_insertLine (hc : '\n' ∉ c) :
    lines (insertLine k c s) = (lines s).take k ++ c :: (lines s).drop k := by
  apply lines_unlines (by simp)
  intro l hl
  rcases List.mem_append.mp hl with h | h
  · exact newline_notMem_of_mem_lines (List.mem_of_mem_take h)
  · rcases List.mem_cons.mp h with rfl | h
    · exact hc
    · exact newline_notMem_of_mem_lines (List.mem_of_mem_drop h)

theorem numberedLines_insertLine (hc : '\n' ∉ c) (hk : k ≤ (lines s).length) :
    numberedLines (insertLine k c s) =
      ((numberedLines s).take k).map (fun x => (renumber k x.1, x.2)) ++
        (k + 1, c) :: ((numberedLines s).drop k).map fun x => (renumber k x.1, x.2) := by
  have hs := List.take_append_drop k (lines s)
  have hlen : ((lines s).take k).length = k := List.length_take_of_le hk
  rw [numberedLines, numberedLines, lines_insertLine hc]
  generalize (lines s).take k = before at hs hlen ⊢
  generalize (lines s).drop k = after at hs ⊢
  rw [← hs, List.mapIdx_append, List.mapIdx_append, List.mapIdx_cons,
    List.take_left' (by simpa using hlen), List.drop_left' (by simpa using hlen), hlen,
    Nat.zero_add]
  congr 1
  · apply List.ext_getElem (by simp)
    intro i h₁ h₂
    have hi : i < before.length := by simpa using h₁
    rw [List.getElem_map, List.getElem_mapIdx, renumber_of_le (by omega)]
  · congr 1
    apply List.ext_getElem (by simp)
    intro i h₁ h₂
    rw [List.getElem_map, List.getElem_mapIdx, List.getElem_mapIdx, renumber_of_lt (by omega),
      Nat.add_right_comm i 1 k]

theorem trim_ne_nil_iff : trim l ≠ [] ↔ ∃ x ∈ l, isBlank x = false := by
  rw [trim, trimLeft, trimRight, Ne, List.dropWhile_eq_nil_iff]
  simp only [List.mem_reverse, not_forall, Bool.not_eq_true]
  constructor
  · rintro ⟨x, hx, hb⟩
    exact ⟨x, List.mem_reverse.mp ((List.dropWhile_suffix _).subset hx), hb⟩
  · rintro ⟨x, hx, hb⟩
    exact ⟨x, mem_dropWhile hb (List.mem_reverse.mpr hx), hb⟩

theorem trim_eq_nil_iff : trim l = [] ↔ ∀ x ∈ l, isBlank x = true := by
  rw [← not_iff_not]
  exact trim_ne_nil_iff.trans (by simp)

theorem dropWhile_append_of_exists {p : Char → Bool} (h : ∃ x ∈ a, p x = false) (b : Text) :
    (a ++ b).dropWhile p = a.dropWhile p ++ b := by
  obtain ⟨x, hx, hp⟩ := h
  obtain ⟨u, v, rfl⟩ := List.append_of_mem hx
  rw [List.append_assoc, List.cons_append, dropWhile_append_cons hp, dropWhile_append_cons hp]
  simp

theorem trimRight_append (h : ∃ x ∈ b, isBlank x = false) (a : Text) :
    trimRight (a ++ b) = a ++ trimRight b := by
  have hr : ∃ x ∈ b.reverse, isBlank x = false := by simpa using h
  rw [trimRight, List.reverse_append, dropWhile_append_of_exists hr, List.reverse_append,
    List.reverse_reverse]
  rfl

theorem trim_append_append (ha : ∃ x ∈ a, isBlank x = false) (hb : ∃ x ∈ b, isBlank x = false)
    (m : Text) : trim (a ++ (m ++ b)) = trimLeft a ++ (m ++ trimRight b) := by
  rw [← List.append_assoc, trim, trimRight_append hb, List.append_assoc]
  exact dropWhile_append_of_exists ha _

theorem prefix_append_cons_iff {d : Char} (h : d ∉ part) : part <+: a ++ d :: b ↔ part <+: a := by
  constructor
  · intro hp
    rcases List.prefix_or_prefix_of_prefix hp (List.prefix_append a _) with ha | ⟨t, rfl⟩
    · exact ha
    · rcases t with - | ⟨x, t⟩
      · exact (List.append_nil a).symm ▸ List.prefix_rfl
      · have hx := (List.prefix_append_right_inj a).mp hp
        obtain ⟨rfl, -⟩ := List.cons_prefix_cons.mp hx
        exact absurd (by simp) h
  · exact fun hp => hp.trans (List.prefix_append _ _)

theorem suffix_append_cons_iff {d : Char} (h : d ∉ part) : part <:+ a ++ d :: b ↔ part <:+ b := by
  have hr : d ∉ part.reverse := by simpa using h
  rw [← List.reverse_prefix, List.reverse_append, List.reverse_cons, List.append_assoc,
    List.singleton_append, prefix_append_cons_iff hr, List.reverse_prefix]

theorem exists_mem_unlines {ls : List Text} (h : ∃ l ∈ ls, trim l ≠ []) :
    ∃ x ∈ unlines ls, isBlank x = false := by
  obtain ⟨l, hl, hn⟩ := h
  obtain ⟨x, hx, hb⟩ := trim_ne_nil_iff.mp hn
  exact ⟨x, (infix_unlines hl).subset hx, hb⟩

theorem trim_insertLine (hbefore : ∃ l ∈ (lines s).take k, trim l ≠ [])
    (hafter : ∃ l ∈ (lines s).drop k, trim l ≠ []) (c : Text) :
    ∃ first last, trim s = first ++ '\n' :: last ∧
      trim (insertLine k c s) = first ++ '\n' :: (c ++ '\n' :: last) := by
  have ha := exists_mem_unlines hbefore
  have hb := exists_mem_unlines hafter
  have hna : (lines s).take k ≠ [] := by
    rintro he
    simp [he] at hbefore
  have hnb : (lines s).drop k ≠ [] := by
    rintro he
    simp [he] at hafter
  have hs : s = unlines ((lines s).take k) ++ (['\n'] ++ unlines ((lines s).drop k)) := by
    conv => lhs; rw [← unlines_lines s, ← List.take_append_drop k (lines s)]
    exact unlines_append hna hnb
  have hinsert : insertLine k c s =
      unlines ((lines s).take k) ++ (('\n' :: c ++ ['\n']) ++ unlines ((lines s).drop k)) := by
    rw [insertLine, unlines_append hna (List.cons_ne_nil c _), unlines_cons c hnb]
    simp
  refine ⟨trimLeft (unlines ((lines s).take k)), trimRight (unlines ((lines s).drop k)), ?_, ?_⟩
  · conv => lhs; rw [hs]
    exact trim_append_append ha hb _
  · rw [hinsert, trim_append_append ha hb]
    simp

end DiagramReview.Text
