import DiagramReview.Proofs.Text.Trim

namespace DiagramReview.Text

def withEnds (e s : Text) : Text := s.flatMap fun c => if c = '\n' then e else [c]

def withReturns (s : Text) : Text := withEnds ['\r', '\n'] s

theorem withReturns_newline (s : Text) :
    withReturns ('\n' :: s) = '\r' :: '\n' :: withReturns s := rfl

structure IsEnd (e : Text) : Prop where
  ne_nil : e ≠ []
  breaks : ∀ c ∈ e, c = '\r' ∨ c = '\n'

theorem isEnd_return_newline : IsEnd ['\r', '\n'] := ⟨by simp, by simp⟩

theorem isEnd_newline_return : IsEnd ['\n', '\r'] := ⟨by simp, by simp⟩

section

variable {e s part : Text} {accepts : Char → Bool}

@[simp] theorem withEnds_nil (e : Text) : withEnds e [] = [] := rfl

@[simp] theorem withEnds_newline (e s : Text) : withEnds e ('\n' :: s) = e ++ withEnds e s := rfl

theorem withEnds_cons {c : Char} (h : c ≠ '\n') (e s : Text) :
    withEnds e (c :: s) = c :: withEnds e s := by
  rw [withEnds, List.flatMap_cons, if_neg h]
  rfl

theorem withReturns_cons {c : Char} (h : c ≠ '\n') (s : Text) :
    withReturns (c :: s) = c :: withReturns s := withEnds_cons h _ s

theorem withEnds_append (e s t : Text) : withEnds e (s ++ t) = withEnds e s ++ withEnds e t :=
  List.flatMap_append

theorem withEnds_of_notMem (h : '\n' ∉ s) (e : Text) : withEnds e s = s := by
  induction s with
  | nil => rfl
  | cons c s ih =>
    have hc : c ≠ '\n' := fun hc => h (hc ▸ List.mem_cons_self)
    rw [withEnds_cons hc, ih fun hs => h (List.mem_cons_of_mem _ hs)]

theorem reverse_withEnds (e s : Text) : (withEnds e s).reverse = withEnds e.reverse s.reverse := by
  induction s with
  | nil => rfl
  | cons c s ih =>
    rw [List.reverse_cons, withEnds_append, ← ih]
    by_cases hc : c = '\n'
    · subst hc
      simp
    · simp [withEnds_cons hc]

theorem IsEnd.accepts_eq (he : IsEnd e) (h : accepts '\r' = accepts '\n') {c : Char} (hc : c ∈ e) :
    accepts c = accepts '\n' := by
  rcases he.breaks c hc with rfl | rfl
  · exact h
  · rfl

theorem takeWhile_withEnds (he : IsEnd e) (h : accepts '\r' = accepts '\n') (s : Text) :
    (withEnds e s).takeWhile accepts = withEnds e (s.takeWhile accepts) := by
  induction s with
  | nil => rfl
  | cons c s ih =>
    by_cases hc : c = '\n'
    · subst hc
      rw [withEnds_newline, List.takeWhile_cons]
      cases hn : accepts '\n' with
      | true =>
        have hall : ∀ d ∈ e, accepts d = true := fun d hd => (he.accepts_eq h hd).trans hn
        rw [List.takeWhile_append_of_pos hall, ih]
        rfl
      | false =>
        obtain ⟨d, t, rfl⟩ := List.exists_cons_of_ne_nil he.ne_nil
        have hd : accepts d = false := (he.accepts_eq h List.mem_cons_self).trans hn
        simp [hd]
    · rw [withEnds_cons hc, List.takeWhile_cons, List.takeWhile_cons, ih]
      cases accepts c with
      | true => exact (withEnds_cons hc _ _).symm
      | false => rfl

theorem dropWhile_withEnds (he : IsEnd e) (h : accepts '\r' = accepts '\n') (s : Text) :
    (withEnds e s).dropWhile accepts = withEnds e (s.dropWhile accepts) := by
  -- what is dropped is what is left after the run that is taken
  have hs : withEnds e (s.takeWhile accepts) ++ withEnds e (s.dropWhile accepts) =
      withEnds e (s.takeWhile accepts) ++ (withEnds e s).dropWhile accepts := by
    rw [← withEnds_append, List.takeWhile_append_dropWhile, ← takeWhile_withEnds he h,
      List.takeWhile_append_dropWhile]
  exact (List.append_cancel_left hs).symm

theorem trim_withReturns (s : Text) : trim (withReturns s) = withReturns (trim s) := by
  have hb : isBlank '\r' = isBlank '\n' := by decide
  have hright : trimRight (withReturns s) = withReturns (trimRight s) := by
    have hr : (withReturns s).reverse = withEnds ['\n', '\r'] s.reverse := reverse_withEnds _ _
    rw [trimRight, hr, dropWhile_withEnds isEnd_newline_return hb, reverse_withEnds]
    rfl
  rw [trim, hright]
  exact dropWhile_withEnds isEnd_return_newline hb _

def Unbroken (part : Text) : Prop := '\r' ∉ part ∧ '\n' ∉ part

instance (part : Text) : Decidable (Unbroken part) := inferInstanceAs (Decidable (_ ∧ _))

theorem Unbroken.of_cons {c : Char} (h : Unbroken (c :: part)) : Unbroken part :=
  ⟨fun hm => h.1 (List.mem_cons_of_mem _ hm), fun hm => h.2 (List.mem_cons_of_mem _ hm)⟩

theorem Unbroken.ne_newline {c : Char} (h : Unbroken (c :: part)) : c ≠ '\n' :=
  fun hc => h.2 (hc ▸ List.mem_cons_self)

theorem Unbroken.notMem_end {c : Char} (h : Unbroken (c :: part)) (he : IsEnd e) : c ∉ e := by
  intro hc
  rcases he.breaks c hc with rfl | rfl
  · exact h.1 List.mem_cons_self
  · exact h.2 List.mem_cons_self

theorem prefix_withEnds_iff (he : IsEnd e) (hp : Unbroken part) :
    part <+: withEnds e s ↔ part <+: s := by
  induction part generalizing s with
  | nil => simp
  | cons d part ih =>
    cases s with
    | nil => rfl
    | cons c s =>
      by_cases hc : c = '\n'
      · subst hc
        obtain ⟨x, t, rfl⟩ := List.exists_cons_of_ne_nil he.ne_nil
        have hx : d ≠ x := fun hd => hp.notMem_end he (hd ▸ List.mem_cons_self)
        simp [List.cons_prefix_cons, hx, hp.ne_newline]
      · rw [withEnds_cons hc, List.cons_prefix_cons, List.cons_prefix_cons, ih hp.of_cons]

theorem prefix_withReturns_iff (hp : Unbroken part) : part <+: withReturns s ↔ part <+: s :=
  prefix_withEnds_iff isEnd_return_newline hp

theorem suffix_withReturns_iff (hp : Unbroken part) : part <:+ withReturns s ↔ part <:+ s := by
  have hr : Unbroken part.reverse := by simpa [Unbroken] using hp
  rw [← List.reverse_prefix, withReturns, reverse_withEnds, ← List.reverse_prefix]
  exact prefix_withEnds_iff isEnd_newline_return hr

theorem infix_withReturns_iff {c : Char} (hp : Unbroken (c :: part)) :
    c :: part <:+: withReturns s ↔ c :: part <:+: s := by
  induction s with
  | nil => rfl
  | cons d s ih =>
    have hprefix : c :: part <+: withReturns (d :: s) ↔ c :: part <+: d :: s :=
      prefix_withReturns_iff hp
    by_cases hd : d = '\n'
    · subst hd
      have hr : c ≠ '\r' := fun hc => hp.1 (hc ▸ List.mem_cons_self)
      rw [withReturns_newline, List.infix_cons_iff, List.infix_cons_iff, List.infix_cons_iff, ih]
      simp [List.cons_prefix_cons, hr, hp.ne_newline]
    · rw [withReturns_cons hd] at hprefix ⊢
      rw [List.infix_cons_iff, List.infix_cons_iff, ih, hprefix]

theorem lines_newline (s : Text) : lines ('\n' :: s) = [] :: lines s := lines_append [] s

theorem lines_cons {c : Char} (h : c ≠ '\n') {l : Text} {ls : List Text} (hs : lines s = l :: ls) :
    lines (c :: s) = (c :: l) :: ls := by
  rw [lines] at hs
  rw [lines, List.splitOn_cons_eq_if_modifyHead, if_neg (mt beq_iff_eq.mp h), hs]
  rfl

theorem lines_withReturns (s : Text) : lines (withReturns s) =
    (lines s).mapIdx fun i l => if i + 1 < (lines s).length then l ++ ['\r'] else l := by
  induction s with
  | nil => rfl
  | cons c s ih =>
    obtain ⟨l, ls, hs⟩ := List.exists_cons_of_ne_nil (List.splitOn_ne_nil '\n' s)
    change lines s = l :: ls at hs
    by_cases hc : c = '\n'
    · subst hc
      have hw : lines (withReturns ('\n' :: s)) = ['\r'] :: lines (withReturns s) := by
        rw [withReturns_newline]
        exact lines_cons (by decide) (lines_newline _)
      rw [hw, ih, lines_newline, List.mapIdx_cons]
      simp [length_lines_pos]
    · rw [hs, List.mapIdx_cons] at ih
      rw [withReturns_cons hc, lines_cons hc ih, lines_cons hc hs, List.mapIdx_cons]
      simp only [List.length_cons]
      split_ifs <;> rfl

theorem length_lines_withReturns (s : Text) :
    (lines (withReturns s)).length = (lines s).length := by
  rw [lines_withReturns, List.length_mapIdx]

theorem trim_append_return (l : Text) : trim (l ++ ['\r']) = trim l :=
  trim_append_blank (List.forall_mem_singleton.mpr isBlank_return) l

theorem map_trim_lines_withReturns (s : Text) :
    (lines (withReturns s)).map trim = (lines s).map trim := by
  rw [lines_withReturns]
  apply List.ext_getElem
  · simp
  · intro i h₁ h₂
    simp only [List.getElem_map, List.getElem_mapIdx]
    split_ifs
    · exact trim_append_return _
    · rfl

theorem endedRows_append (ls : List Text) {ms : List Text} (h : ms ≠ []) :
    endedRows (ls ++ ms) = ls.map dropReturn ++ endedRows ms := by
  induction ls with
  | nil => rfl
  | cons l ls ih =>
    obtain ⟨k, ks, hk⟩ := List.exists_cons_of_ne_nil (List.append_ne_nil_of_right_ne_nil ls h)
    rw [List.cons_append, List.map_cons, List.cons_append, ← ih, hk]
    rfl

theorem map_trim_rows_append (a b : Text) :
    (rows (a ++ '\n' :: b)).map trim = (lines a).map trim ++ (rows b).map trim := by
  have htrim : trim ∘ dropReturn = trim := funext trim_dropReturn
  have hb : lines b ≠ [] := List.splitOn_ne_nil '\n' b
  rw [rows, lines_append, endedRows_append _ hb, List.map_append, List.map_map, htrim, rows]

theorem map_trim_rows_withReturns (s : Text) :
    (rows (withReturns s)).map trim = (rows s).map trim := by
  obtain ⟨ls, l, hs⟩ : ∃ ls l, lines s = ls ++ [l] :=
    ⟨_, _, (List.dropLast_concat_getLast (List.splitOn_ne_nil '\n' s)).symm⟩
  have hw : lines (withReturns s) = ls.map (· ++ ['\r']) ++ [l] := by
    rw [lines_withReturns, hs, List.mapIdx_concat]
    congr 1
    · apply List.ext_getElem
      · simp
      · intro i h₁ h₂
        simp at h₁ ⊢
        omega
    · simp
  have htrim : (trim ∘ dropReturn) ∘ (· ++ ['\r']) = trim ∘ dropReturn := by
    funext m
    simp only [Function.comp_apply, trim_dropReturn, trim_append_return]
  rw [rows, rows, hw, hs, endedRows_append _ (List.cons_ne_nil _ _),
    endedRows_append _ (List.cons_ne_nil _ _), List.map_append, List.map_append, List.map_map,
    List.map_map, List.map_map, htrim]

end

end DiagramReview.Text
