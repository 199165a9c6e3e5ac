import DiagramReview.Diagram.Metrics
import DiagramReview.Proofs.Text.Front
import DiagramReview.Proofs.Text.LineStart

namespace DiagramReview

open Text Text.Piece Text.Pattern

variable {o c d : Char} {l r b s : Text} {n : Nat}

structure Brackets (o c : Char) : Prop where
  opening : isWord o = false
  closing : isWord c = false
  distinct : o ≠ c

def bracketed (o c : Char) : List Piece := word [o] :: (run (· != c) ++ [word [c]])

def labelledWord (o c : Char) : Pattern := anywhere (run isWord ++ bracketed o c)

def labelStart? (o : Char) : Text → Option Text
  | c :: d :: s => if isWord c && d == o then some s else labelStart? o (d :: s)
  | _ => none

def opensLabel (o : Char) (s : Text) : Bool := (labelStart? o s).any (!·.isEmpty)

theorem opensLabel_cons_opening (hd : isWord d = true) (o : Char) (r : Text) :
    opensLabel o (d :: o :: r) = !r.isEmpty := by
  simp [opensLabel, labelStart?, hd]

theorem opensLabel_cons (h : isWord d = true → l.head? ≠ some o) :
    opensLabel o (d :: l) = opensLabel o l := by
  rcases l with - | ⟨e, l⟩
  · rfl
  · have hnot : (isWord d && e == o) = false := by
      rw [Bool.and_eq_false_imp]
      intro hd
      simpa using h hd
    rw [opensLabel, labelStart?, hnot]
    rfl

theorem opensLabel_append (ho : isWord o = false) (hl : o ∉ l) (hd : isWord d = true) (r : Text) :
    opensLabel o (l ++ d :: o :: r) = !r.isEmpty := by
  have hdo : d ≠ o := by
    rintro rfl
    rw [ho] at hd
    cases hd
  induction l with
  | nil => exact opensLabel_cons_opening hd o r
  | cons e l ih =>
    rw [List.mem_cons, not_or] at hl
    have hhead : (l ++ d :: o :: r).head? ≠ some o := by
      intro hopen
      rcases l with - | ⟨x, l⟩
      · exact hdo (Option.some.inj hopen)
      · exact hl.2 (Option.some.inj hopen ▸ List.mem_cons_self)
    rw [List.cons_append, opensLabel_cons fun _ => hhead, ih hl.2]

theorem opensLabel_of_dropWhile (ho : isWord o = false) (hd : isWord d = true) (hr : r ≠ [])
    (hl : l.dropWhile isWord = o :: r) : opensLabel o (d :: l) = true := by
  induction l generalizing d with
  | nil => cases hl
  | cons e l ih =>
    rw [List.dropWhile_cons] at hl
    split_ifs at hl with he
    · have hne : isWord d = true → (e :: l).head? ≠ some o := by
        rintro - ⟨⟩
        rw [ho] at he
        cases he
      rw [opensLabel_cons hne]
      exact ih he hl
    · obtain ⟨rfl, rfl⟩ := List.cons.inj hl
      simpa [opensLabel_cons_opening hd] using hr

theorem widthOf?_bracketed_nil (o c : Char) (b : Text) : widthOf? (bracketed o c) (o :: c :: b) = none := by
  have hopen := widthOf?_word_append [o] (c :: b) (run (· != c) ++ [word [c]])
  rw [widthOf?_run_cons, if_neg (by simp)] at hopen
  exact hopen

theorem widthOf?_bracketed (hr : r ≠ []) (hc : c ∉ r) (o : Char) (b : Text) :
    widthOf? (bracketed o c) (o :: (r ++ c :: b)) = some (r.length + 2) := by
  obtain ⟨x, r, rfl⟩ := List.exists_cons_of_ne_nil hr
  rw [List.mem_cons, not_or] at hc
  have hx : (x != c) = true := by simpa using Ne.symm hc.1
  have hlast : widthOf? [word [c]] (c :: b) = some 1 := widthOf?_word_append [c] b []
  have hopen := widthOf?_word_append [o] (x :: (r ++ c :: b)) (run (· != c) ++ [word [c]])
  rw [widthOf?_run_cons, if_pos hx, takeWhile_ne_append hc.2, dropWhile_ne_append hc.2, hlast] at hopen
  rw [List.cons_append, bracketed]
  refine hopen.trans ?_
  simp only [Option.map_some, Option.some.injEq, List.length_cons, List.length_nil]
  omega

theorem labelledWord_pieces (o c : Char) :
    (labelledWord o c).pieces = (run isWord ++ word [o] :: run (· != c)) ++ [word [c]] := by
  simp [labelledWord, anywhere, bracketed]

theorem count_of_no_closing (hs : c ∉ s) (o : Char) : (labelledWord o c).count s = 0 := by
  have hnone (t : Text) (ht : t <:+ s) : widthOf? (labelledWord o c).pieces t = none := by
    rw [Option.eq_none_iff_forall_ne_some, labelledWord_pieces]
    intro n hn
    exact hs (ht.subset (mem_of_widthOf?_concat hn))
  rw [count, occurrences, scan_of_suffixes hnone, List.length_nil]

namespace Brackets

variable (h : Brackets o c)
include h

theorem drop_of_widthOf? (hs : widthOf? (labelledWord o c).pieces s = some n) :
    s.drop n = (s.dropWhile (· != c)).drop 1 := by
  have hshuns : ∀ q ∈ run isWord ++ word [o] :: run (· != c), q.shuns c = true := by
    simp [run, word, Piece.shuns, h.closing, h.distinct.symm]
  rw [labelledWord_pieces] at hs
  exact drop_of_shuns hshuns hs

theorem width_eq (hl : c ∉ l) (hs : widthOf? (labelledWord o c).pieces (l ++ c :: b) = some n) :
    n = (l ++ [c]).length := by
  have hle := widthOf?_le hs
  have hdrop := congrArg List.length (h.drop_of_widthOf? hs)
  rw [dropWhile_ne_append hl] at hdrop
  simp only [List.length_drop, List.length_append, List.length_cons, List.length_nil] at hdrop hle ⊢
  omega

theorem opensLabel_of_widthOf?
    (hs : widthOf? (labelledWord o c).pieces (d :: (l ++ c :: b)) = some n) :
    opensLabel o (d :: l) = true := by
  rw [labelledWord, anywhere, widthOf?_run_cons] at hs
  split_ifs at hs with hd
  obtain ⟨k, hk, -⟩ := Option.map_eq_some_iff.mp hs
  rw [dropWhile_append_cons h.closing] at hk
  have hrest := (List.dropWhile_suffix isWord (l := l)).subset
  rcases hw : l.dropWhile isWord with - | ⟨e, r⟩
  · rw [hw, List.nil_append, bracketed, widthOf?_word_of_ne h.distinct.symm] at hk
    cases hk
  · rw [hw] at hk hrest
    by_cases he : e = o
    · subst he
      apply opensLabel_of_dropWhile h.opening hd ?_ hw
      rintro rfl
      rw [List.cons_append, List.nil_append, widthOf?_bracketed_nil] at hk
      cases hk
    · rw [List.cons_append, bracketed, widthOf?_word_of_ne he] at hk
      cases hk

theorem widthOf?_of_opening (hd : isWord d = true) (hr : r ≠ []) (hc : c ∉ r) (b : Text) :
    widthOf? (labelledWord o c).pieces (d :: o :: (r ++ c :: b)) = some (r.length + 3) := by
  have hopen : (o :: (r ++ c :: b)).takeWhile isWord = [] ∧
      (o :: (r ++ c :: b)).dropWhile isWord = o :: (r ++ c :: b) := by
    simp [h.opening]
  rw [labelledWord, anywhere, widthOf?_run_cons, if_pos hd, hopen.1, hopen.2, widthOf?_bracketed hr hc]
  simp only [Option.map_some, Option.some.injEq, List.length_nil]
  omega

theorem opensLabel_of_widthOf?_none (hl : c ∉ l)
    (hnone : widthOf? (labelledWord o c).pieces (d :: (l ++ c :: b)) = none) :
    opensLabel o (d :: l) = opensLabel o l := by
  by_cases hopen : isWord d = true ∧ l.head? = some o
  · -- nothing stands in the brackets
    obtain ⟨hd, ho⟩ := hopen
    obtain ⟨r, rfl⟩ := List.head?_eq_some_iff.mp ho
    have hr : r = [] := by
      by_contra hne
      have hfits := h.widthOf?_of_opening hd hne (fun hc => hl (List.mem_cons_of_mem _ hc)) b
      exact absurd (hfits.symm.trans hnone) (Option.some_ne_none _)
    subst hr
    rw [opensLabel_cons_opening hd]
    rfl
  · exact opensLabel_cons fun hd ho => hopen ⟨hd, ho⟩

theorem count_append_closing (hl : c ∉ l) (b : Text) : (labelledWord o c).count (l ++ c :: b) =
    (labelledWord o c).count b + if opensLabel o l then 1 else 0 := by
  induction l with
  | nil =>
    have hnone : widthOf? (labelledWord o c).pieces (c :: b) = none := by
      rw [labelledWord, anywhere, widthOf?_run_cons, if_neg (by simp [h.closing])]
    exact count_cons rfl hnone
  | cons d l ih =>
    have hrest : c ∉ l := fun hc => hl (List.mem_cons_of_mem d hc)
    rw [List.cons_append]
    cases hw : widthOf? (labelledWord o c).pieces (d :: (l ++ c :: b)) with
    | some n =>
      have hopens := h.opensLabel_of_widthOf? hw
      have hn := h.width_eq hl hw
      have hsplit : d :: (l ++ c :: b) = (d :: l ++ [c]) ++ b := by simp
      rw [hn, hsplit] at hw
      rw [hsplit, count_append rfl (by simp) hw, if_pos hopens]
    | none => rw [count_cons rfl hw, ih hrest, h.opensLabel_of_widthOf?_none hrest hw]

theorem count_append_label (ho : o ∉ l) (hc : c ∉ l) (hd : isWord d = true) (hr : r ≠ [])
    (hcr : c ∉ r) (b : Text) :
    (labelledWord o c).count (l ++ d :: o :: (r ++ c :: b)) = (labelledWord o c).count b + 1 := by
  have hdc : c ≠ d := by
    rintro rfl
    rw [h.closing] at hd
    cases hd
  have hfree : c ∉ l ++ d :: o :: r := by simp [hc, hdc, h.distinct.symm, hcr]
  have hopens : opensLabel o (l ++ d :: o :: r) = true := by
    rw [opensLabel_append h.opening ho hd]
    simpa using hr
  have hsplit : l ++ d :: o :: (r ++ c :: b) = (l ++ d :: o :: r) ++ c :: b := by simp
  rw [hsplit, h.count_append_closing hfree, if_pos hopens]

theorem count_intercalate {ls : List Text} (hne : ls ≠ []) (hls : ∀ l ∈ ls, c ∉ l) :
    (labelledWord o c).count ([c].intercalate ls) = ls.dropLast.countP (opensLabel o) := by
  induction ls with
  | nil => exact absurd rfl hne
  | cons l ls ih =>
    obtain ⟨hl, hrest⟩ := List.forall_mem_cons.mp hls
    rcases ls with - | ⟨m, ls⟩
    · rw [List.intercalate_singleton]
      exact count_of_no_closing hl o
    · rw [List.intercalate_cons_cons, List.append_assoc, List.singleton_append, h.count_append_closing hl, ih (List.cons_ne_nil _ _) hrest,
        List.dropLast_cons_cons, List.countP_cons]

theorem count_eq (s : Text) :
    (labelledWord o c).count s = (s.splitOn c).dropLast.countP (opensLabel o) := by
  have hcount := h.count_intercalate (List.splitOn_ne_nil c s) fun _ => notMem_of_mem_splitOn
  rwa [List.intercalate_splitOn] at hcount

end Brackets

theorem countP_pieces_le (holds : Text → Bool) (sep : Char) (s : Text) :
    (s.splitOn sep).dropLast.countP holds ≤ s.count sep := by
  have hle := List.countP_le_length (p := holds) (l := (s.splitOn sep).dropLast)
  rw [List.length_dropLast, length_splitOn] at hle
  exact hle

theorem brackets_square : Brackets '[' ']' := ⟨by decide, by decide, by decide⟩

theorem brackets_round : Brackets '(' ')' := ⟨by decide, by decide, by decide⟩

namespace Metrics

/-- The nodes of a flowchart are the pieces before closing brackets of both forms that begin a label,
so there are at most as many as closing brackets. -/
theorem nodes_counted_by_bracket : ∀ kind ∈ [Kind.flowchart, Kind.graph], ∀ s,
    (measure kind s).elements = (s.splitOn ']').dropLast.countP (opensLabel '[') +
      (s.splitOn ')').dropLast.countP (opensLabel '(') ∧
    (measure kind s).elements ≤ s.count ']' + s.count ')' := by
  have hnodes (s : Text) : squareNode.count s + roundNode.count s =
      (s.splitOn ']').dropLast.countP (opensLabel '[') +
        (s.splitOn ')').dropLast.countP (opensLabel '(') :=
    congrArg₂ (· + ·) (brackets_square.count_eq s) (brackets_round.count_eq s)
  have hle (s : Text) : squareNode.count s + roundNode.count s ≤ s.count ']' + s.count ')' := by
    rw [hnodes]
    exact Nat.add_le_add (countP_pieces_le _ _ _) (countP_pieces_le _ _ _)
  intro kind hkind s
  simp only [List.mem_cons, List.not_mem_nil, or_false] at hkind
  rcases hkind with rfl | rfl
  · exact ⟨hnodes s, hle s⟩
  · exact ⟨hnodes s, hle s⟩

theorem nodes_counted_by_bracket_over_lines :
    let s := "flowchart TD\nA[x[y] --> B[] --> C(z\n(u)) --> D(E[v]w)".toList
    Kind.flowchart ∈ [Kind.flowchart, Kind.graph] ∧
    (measure .flowchart s).elements = (s.splitOn ']').dropLast.countP (opensLabel '[') +
      (s.splitOn ')').dropLast.countP (opensLabel '(') ∧
    (measure .flowchart s).elements ≤ s.count ']' + s.count ')' ∧
    (measure .flowchart s).elements = 4 := by
  intro s
  have hkind : Kind.flowchart ∈ [Kind.flowchart, Kind.graph] := by decide
  obtain ⟨hnodes, hle⟩ := nodes_counted_by_bracket .flowchart hkind s
  exact ⟨hkind, hnodes, hle, by decide⟩

end Metrics

end DiagramReview
