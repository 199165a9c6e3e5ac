import DiagramReview.Proofs.Text.LineStart

namespace DiagramReview.Text

open Piece Pattern

variable {p : Pattern} {ps : List Piece} {accepts : Char → Bool} {l b w x y : Text}
  {ls : List Text} {n : Nat}

def runsOver : List Piece → Text → Prop
  | [], _ => False
  | q :: ps, l => (q.shuns '\n' = false ∧ ∀ c ∈ l, q.shuns c = false) ∨
      ∃ i, q.width? l = some i ∧ runsOver ps (l.drop i)

theorem runsOver_of_width? (hlines : withinLines ps = true)
    (h : widthOf? ps (l ++ '\n' :: b) = some n) (hlen : l.length < n) : runsOver ps l := by
  induction ps generalizing l n with
  | nil =>
    cases h
    cases hlen
  | cons q ps ih =>
    cases q with
    | one accepts =>
      rcases l with - | ⟨c, l⟩
      · rw [List.nil_append, widthOf?_one_cons] at h
        split_ifs at h with hn
        exact .inl ⟨by simp [Piece.shuns, hn], by simp⟩
      · rw [List.cons_append, widthOf?_one_cons] at h
        split_ifs at h with hc
        obtain ⟨k, hk, rfl⟩ := Option.map_eq_some_iff.mp h
        rw [List.length_cons] at hlen
        exact .inr ⟨1, if_pos hc, ih (l := l) hlines hk (by omega)⟩
    | many accepts =>
      by_cases hover : accepts '\n' = true ∧ l.dropWhile accepts = []
      · refine .inl ⟨by simp [Piece.shuns, hover.1], ?_⟩
        intro c hc
        simpa [Piece.shuns] using List.dropWhile_eq_nil_iff.mp hover.2 c hc
      · -- the run ends before the newline
        have hparts : (l.takeWhile accepts).length + (l.dropWhile accepts).length = l.length := by
          rw [← List.length_append, List.takeWhile_append_dropWhile]
        have hrun : (l ++ '\n' :: b).takeWhile accepts = l.takeWhile accepts ∧
            (l ++ '\n' :: b).dropWhile accepts = l.dropWhile accepts ++ '\n' :: b := by
          cases hn : accepts '\n' with
          | false => exact ⟨takeWhile_append_cons hn l b, dropWhile_append_cons hn l b⟩
          | true =>
            have hx := exists_false_of_dropWhile_ne_nil fun hnil => hover ⟨hn, hnil⟩
            exact ⟨takeWhile_append_of_exists hx _, dropWhile_append_of_exists hx _⟩
        rw [widthOf?_many, hrun.1, hrun.2] at h
        obtain ⟨k, hk, rfl⟩ := Option.map_eq_some_iff.mp h
        refine .inr ⟨(l.takeWhile accepts).length, rfl, ?_⟩
        rw [drop_length_takeWhile]
        exact ih hlines hk (by omega)
    | anyOf words =>
      rw [withinLines, Bool.and_eq_true] at hlines
      have hwords : ∀ w ∈ words, '\n' ∉ w := by simpa using hlines.1
      rw [widthOf?_anyOf, find?_isPrefixOf_append hwords] at h
      obtain ⟨w, hw, h⟩ := Option.bind_eq_some_iff.mp h
      obtain ⟨k, hk, rfl⟩ := Option.map_eq_some_iff.mp h
      have hle := (prefix_of_find? hw).length_le
      rw [List.drop_append_of_le_length hle] at hk
      refine .inr ⟨w.length, by rw [Piece.width?, hw]; rfl, ih hlines.2 hk ?_⟩
      rw [List.length_drop]
      omega

theorem runsOver_of_leavesOpen (hlines : withinLines p.pieces = true)
    (h : p.leavesOpen (l :: ls) = true) : runsOver p.pieces l := by
  obtain ⟨-, ⟨n, hn, hlen⟩, -⟩ := exists_of_leavesOpen h
  rw [width?_true] at hn
  exact runsOver_of_width? hlines hn hlen

theorem not_runsOver (h : ∀ q ∈ ps, q.shuns '\n' = true) : ¬ runsOver ps l := by
  induction ps generalizing l with
  | nil => exact id
  | cons q ps ih =>
    rintro (⟨hq, -⟩ | ⟨i, -, hrest⟩)
    · rw [h q List.mem_cons_self] at hq
      cases hq
    · exact ih (fun r hr => h r (List.mem_cons_of_mem _ hr)) hrest

theorem runsOver_many (h : runsOver (many accepts :: ps) l) :
    (∀ c ∈ l, accepts c = true) ∨ runsOver ps (l.dropWhile accepts) := by
  rcases h with ⟨-, hl⟩ | ⟨i, hi, hrest⟩
  · exact .inl fun c hc => by simpa [Piece.shuns] using hl c hc
  · obtain rfl : (l.takeWhile accepts).length = i := Option.some.inj hi
    rw [drop_length_takeWhile] at hrest
    exact .inr hrest

theorem runsOver_one (h : runsOver (one accepts :: ps) l) :
    (∀ c ∈ l, accepts c = true) ∨ ∃ c r, l = c :: r ∧ accepts c = true ∧ runsOver ps r := by
  rcases h with ⟨-, hl⟩ | ⟨i, hi, hrest⟩
  · exact .inl fun c hc => by simpa [Piece.shuns] using hl c hc
  · rcases l with - | ⟨c, l⟩
    · cases hi
    · rw [Piece.width?] at hi
      split_ifs at hi with hc
      obtain rfl : 1 = i := Option.some.inj hi
      exact .inr ⟨c, l, rfl, hc, hrest⟩

theorem runsOver_word (hw : '\n' ∉ w) (h : runsOver (word w :: ps) l) :
    ∃ r, l = w ++ r ∧ runsOver ps r := by
  rcases h with ⟨hq, -⟩ | ⟨i, hi, hrest⟩
  · simp [word, Piece.shuns, hw] at hq
  · obtain ⟨v, hv, rfl⟩ := Option.map_eq_some_iff.mp hi
    obtain rfl := List.mem_singleton.mp (List.mem_of_find?_eq_some hv)
    obtain ⟨r, rfl⟩ := prefix_of_find? hv
    rw [List.drop_left] at hrest
    exact ⟨r, rfl, hrest⟩

theorem runsOver_of_leavesOpen_blanks (hlines : withinLines ps = true)
    (h : (atLineStart (many isBlank :: ps)).leavesOpen (l :: ls) = true) :
    trim l ≠ [] ∧ runsOver ps (l.dropWhile isBlank) := by
  have hover := runsOver_of_leavesOpen (p := atLineStart (many isBlank :: ps)) hlines h
  have hne : trim l ≠ [] := by
    intro hl
    obtain ⟨-, ⟨n, hn, -⟩, hrest⟩ := exists_of_leavesOpen h
    have hblank := isBlank_of_mem_concat_newline (trim_eq_nil_iff.mp hl)
    have hnone := hrest.resolve_left (not_not_intro hl)
    rw [width?_true, atLineStart] at hn hnone
    -- a match over a blank line begins below it
    rw [List.append_cons, widthOf?_blank_append hblank, hnone] at hn
    cases hn
  refine ⟨hne, (runsOver_many hover).resolve_left fun hblank => ?_⟩
  exact hne (trim_eq_nil_iff.mpr hblank)

theorem openLines_eq_zero (hlines : withinLines ps = true) (h : ∀ q ∈ ps, q.shuns '\n' = true)
    (s : Text) : (atLineStart (many isBlank :: ps)).openLines s = 0 := by
  apply List.countP_eq_zero.mpr
  intro ls _ hopen
  rcases ls with - | ⟨l, ls⟩
  · cases hopen
  · exact not_runsOver h (runsOver_of_leavesOpen_blanks hlines hopen).2

theorem isBlank_of_runsOver (h : runsOver (run isBlank ++ ps) l)
    (hps : ∀ q ∈ ps, q.shuns '\n' = true) : ∀ c ∈ l, isBlank c = true := by
  rcases runsOver_one h with hl | ⟨c, r, rfl, hc, hr⟩
  · exact hl
  · have hr := (runsOver_many hr).resolve_right (not_runsOver hps)
    exact List.forall_mem_cons.mpr ⟨hc, hr⟩

theorem trim_of_keyword_open (ps : List Piece) (hw : '\n' ∉ w) (hlines : withinLines ps = true)
    (hps : ∀ q ∈ ps, q.shuns '\n' = true)
    (h : (atLineStart ([many isBlank, word w] ++ run isBlank ++ ps)).leavesOpen (l :: ls) = true) :
    trim l = trim w := by
  have hall : withinLines (word w :: (run isBlank ++ ps)) = true := by
    simp [withinLines, word, Piece.run, hw, hlines]
  obtain ⟨-, hover⟩ := runsOver_of_leavesOpen_blanks hall h
  obtain ⟨r, hr, hrest⟩ := runsOver_word hw hover
  rw [← trim_trimLeft, trimLeft, hr]
  exact trim_append_blank (isBlank_of_runsOver hrest hps) w

theorem accepts_of_run_open (hps : ∀ r, runsOver ps r → ∀ c ∈ r, isBlank c = true)
    (h : runsOver (run accepts ++ ps) x) : ∀ c ∈ trim x, accepts c = true := by
  have hsubset (r : Text) (hr : ∀ c ∈ r, accepts c = true) : ∀ c ∈ trim r, accepts c = true :=
    fun c hc => hr c ((trim_isInfix r).subset hc)
  rcases runsOver_one h with hx | ⟨d, r, rfl, hd, hr⟩
  · exact hsubset x hx
  · have hrun : ∀ c ∈ d :: r.takeWhile accepts, accepts c = true :=
      List.forall_mem_cons.mpr ⟨hd, fun _ => List.mem_takeWhile_imp⟩
    have hrest : ∀ c ∈ r.dropWhile accepts, isBlank c = true := by
      rcases runsOver_many hr with hr | hr
      · rw [List.dropWhile_eq_nil_iff.mpr hr]
        simp
      · exact hps _ hr
    have hparts : (d :: r.takeWhile accepts) ++ r.dropWhile accepts = d :: r := by
      rw [List.cons_append, List.takeWhile_append_dropWhile]
    rw [← hparts, trim_append_blank hrest]
    exact hsubset _ hrun

end DiagramReview.Text
