import DiagramReview.Text.Line
import Mathlib.Data.List.Infix
import Mathlib.Data.List.TakeWhile

namespace DiagramReview.Text

theorem hasPart_iff (part s : Text) : hasPart part s = true ↔ part <:+: s := by
  induction s with
  | nil => simp [hasPart]
  | cons c s ih => simp [hasPart, List.infix_cons_iff, ih]

theorem trimRight_isPrefix (s : Text) : trimRight s <+: s := by
  have h := List.reverse_prefix.mpr (List.dropWhile_suffix isBlank (l := s.reverse))
  rwa [List.reverse_reverse] at h

theorem trim_isInfix (s : Text) : trim s <:+: s :=
  (List.dropWhile_suffix isBlank).isInfix.trans (trimRight_isPrefix s).isInfix

theorem trim_append_blank {b : Text} (hb : ∀ c ∈ b, isBlank c = true) (s : Text) :
    trim (s ++ b) = trim s := by
  have hr : ∀ c ∈ b.reverse, isBlank c = true := fun c hc => hb c (List.mem_reverse.mp hc)
  rw [trim, trimRight, List.reverse_append, List.dropWhile_append_of_pos hr, trim, trimRight]

theorem trim_dropReturn (l : Text) : trim (dropReturn l) = trim l := by
  unfold dropReturn
  split_ifs with h
  · obtain ⟨s, rfl⟩ := List.getLast?_eq_some_iff.mp h
    rw [List.dropLast_concat, trim_append_blank (List.forall_mem_singleton.mpr isBlank_return)]
  · rfl

theorem not_prefix_of_prefix {a b s : Text} (h : ¬ a <+: b ∧ ¬ b <+: a) (ha : a <+: s) :
    ¬ b <+: s := by
  intro hb
  rcases List.prefix_or_prefix_of_prefix ha hb with hab | hba
  · exact h.1 hab
  · exact h.2 hba

theorem dropWhile_append_cons {p : Char → Bool} {c : Char} (hc : p c = false) (a b : Text) :
    (a ++ c :: b).dropWhile p = a.dropWhile p ++ c :: b := by
  induction a with
  | nil => simp [hc]
  | cons x a ih =>
    by_cases hx : p x = true
    · simpa [hx] using ih
    · simp [hx]

theorem mem_dropWhile {p : Char → Bool} {c : Char} {s : Text} (hc : p c = false) (h : c ∈ s) :
    c ∈ s.dropWhile p := by
  obtain ⟨a, b, rfl⟩ := List.append_of_mem h
  rw [dropWhile_append_cons hc]
  simp

theorem mem_trim {c : Char} {s : Text} (hc : isBlank c = false) (h : c ∈ s) : c ∈ trim s := by
  have hright : c ∈ trimRight s := List.mem_reverse.mpr (mem_dropWhile hc (List.mem_reverse.mpr h))
  exact mem_dropWhile hc hright

theorem trimRight_append_cons {c : Char} (hc : isBlank c = false) (a b : Text) :
    trimRight (a ++ c :: b) = a ++ c :: trimRight b := by
  have hreverse : (a ++ c :: b).reverse = b.reverse ++ c :: a.reverse := by simp
  rw [trimRight, hreverse, dropWhile_append_cons hc, List.reverse_append, List.reverse_cons,
    List.reverse_reverse, List.append_assoc]
  rfl

theorem not_blank_of_all {o : Option Char} (h : o.all (!isBlank ·) = true) :
    ∀ c ∈ o, isBlank c = false := by
  rintro c ⟨⟩
  simpa using h

variable {indent t part : Text}

theorem trimLeft_indented (hindent : ∀ c ∈ indent, isBlank c = true)
    (ht : ∀ c ∈ t.head?, isBlank c = false) : trimLeft (indent ++ t) = t := by
  rw [trimLeft, List.dropWhile_append_of_pos hindent]
  cases t with
  | nil => rfl
  | cons c t => simp [ht c rfl]

theorem trim_indented (hindent : ∀ c ∈ indent, isBlank c = true)
    (ht : ∀ c ∈ t.head?, isBlank c = false) : trim (indent ++ t) = trimRight t := by
  cases t with
  | nil =>
    rw [List.append_nil, trim, trimLeft]
    apply List.dropWhile_eq_nil_iff.mpr
    intro c hc
    exact hindent c ((trimRight_isPrefix indent).subset hc)
  | cons c t =>
    have hc : isBlank c = false := ht c rfl
    have htrim : trimRight (c :: t) = c :: trimRight t := trimRight_append_cons hc [] t
    rw [trim, trimRight_append_cons hc, htrim]
    apply trimLeft_indented hindent
    rintro x ⟨⟩
    exact hc

theorem trim_eq_trimRight_trimLeft (s : Text) : trim s = trimRight (trimLeft s) := by
  have hfront : ∀ c ∈ s.takeWhile isBlank, isBlank c = true := fun _ => List.mem_takeWhile_imp
  have hhead : ∀ c ∈ (trimLeft s).head?, isBlank c = false := by
    intro c hc
    have hfirst := List.head?_dropWhile_not isBlank s
    rw [trimLeft] at hc
    rwa [hc] at hfirst
  have h := trim_indented hfront hhead
  rwa [trimLeft, List.takeWhile_append_dropWhile] at h

theorem trim_blank_append (hindent : ∀ c ∈ indent, isBlank c = true) (t : Text) :
    trim (indent ++ t) = trim t := by
  rw [trim_eq_trimRight_trimLeft, trim_eq_trimRight_trimLeft, trimLeft,
    List.dropWhile_append_of_pos hindent, trimLeft]

theorem trim_trimLeft (s : Text) : trim (trimLeft s) = trim s := by
  have hfront : ∀ c ∈ s.takeWhile isBlank, isBlank c = true := fun _ => List.mem_takeWhile_imp
  have h := trim_blank_append hfront (trimLeft s)
  rw [trimLeft, List.takeWhile_append_dropWhile] at h
  exact h.symm

theorem prefix_trimRight_iff (h : ∀ c ∈ part.getLast?, isBlank c = false) :
    part <+: trimRight t ↔ part <+: t := by
  constructor
  · intro hp
    exact hp.trans (trimRight_isPrefix t)
  · rintro ⟨rest, rfl⟩
    rcases List.eq_nil_or_concat part with rfl | ⟨front, c, rfl⟩
    · exact List.nil_prefix
    · have hc : isBlank c = false := h c (by simp)
      rw [List.concat_eq_append, List.append_assoc, List.singleton_append, trimRight_append_cons hc]
      exact ⟨trimRight rest, by simp⟩

theorem infix_unlines {ls : List Text} {l : Text} (h : l ∈ ls) : l <:+: unlines ls := by
  induction ls with
  | nil => cases h
  | cons m ms ih =>
    cases ms with
    | nil =>
      obtain rfl := List.mem_singleton.mp h
      rw [unlines, List.intercalate_singleton]
    | cons k ks =>
      rw [unlines, List.intercalate_cons_of_ne_nil (List.cons_ne_nil k ks), List.append_assoc]
      rcases List.mem_cons.mp h with rfl | h
      · exact (List.prefix_append _ _).isInfix
      · exact (ih h).trans ((List.suffix_append _ _).trans (List.suffix_append _ _)).isInfix

theorem infix_of_mem_lines {s l : Text} (h : l ∈ lines s) : l <:+: s := by
  have hl := infix_unlines h
  rwa [unlines_lines] at hl

theorem map_trim_endedRows (ls : List Text) :
    ∃ rest, ls.map trim = (endedRows ls).map trim ++ rest ∧ (rest = [] ∨ rest = [[]]) := by
  induction ls with
  | nil => exact ⟨[], rfl, .inl rfl⟩
  | cons l ls ih =>
    cases ls with
    | nil =>
      by_cases hl : l.isEmpty = true
      · obtain rfl := List.isEmpty_iff.mp hl
        exact ⟨[[]], rfl, .inr rfl⟩
      · exact ⟨[], by simp [endedRows, hl], .inl rfl⟩
    | cons m ms =>
      obtain ⟨rest, hr, he⟩ := ih
      have hc : endedRows (l :: m :: ms) = dropReturn l :: endedRows (m :: ms) := rfl
      refine ⟨rest, ?_, he⟩
      rw [List.map_cons, hr, hc, List.map_cons, trim_dropReturn]
      rfl

theorem map_trim_lines (s : Text) :
    ∃ rest, (lines s).map trim = (rows s).map trim ++ rest ∧ (rest = [] ∨ rest = [[]]) :=
  map_trim_endedRows (lines s)

theorem findSome?_rows {α : Type} {f : Text → Option α} (h : f [] = none) (s : Text) :
    (rows s).findSome? (fun l => f (trim l)) = (lines s).findSome? fun l => f (trim l) := by
  obtain ⟨rest, hr, he⟩ := map_trim_lines s
  have hrest : rest.findSome? f = none := by rcases he with rfl | rfl <;> simp [h]
  have hm (ls : List Text) : ls.findSome? (fun l => f (trim l)) = (ls.map trim).findSome? f := by
    rw [List.findSome?_map]
    rfl
  rw [hm, hm, hr, List.findSome?_append, hrest, Option.or_none]

end DiagramReview.Text
