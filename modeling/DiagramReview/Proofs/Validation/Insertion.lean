import DiagramReview.Proofs.Text.Insertion
import DiagramReview.Proofs.Validation.Declaration
import DiagramReview.Proofs.Validation.Locality

namespace DiagramReview

open Text

def Finding.renumbered (k : Nat) (f : Finding) : Finding :=
  { f with line := f.line.map (renumber k) }

namespace Findings

variable {f : Finding → Finding}

theorem inspect_map {s t : Text} {aspects : List Aspect}
    (h : ∀ a ∈ aspects, a.findings t = (a.findings s).map f) (found : Findings) :
    inspect t (found.map f) aspects = (inspect s found aspects).map f := by
  induction aspects generalizing found with
  | nil => rfl
  | cons a as ih =>
    have htail := ih (fun b hb => h b (List.mem_cons_of_mem _ hb)) (found ++ a.findings s)
    rw [inspect_cons, inspect_cons, h a List.mem_cons_self, ← map_append, htail]

end Findings

namespace Check

variable {k : Nat} {c s : Text}

theorem onLines_insertLine {check : Nat → Text → Findings} (h : Renumbers check)
    (hnone : ∀ n, check n c = .empty) (hline : '\n' ∉ c) (hk : k ≤ (lines s).length) :
    onLines check (insertLine k c s) = (onLines check s).map (Finding.renumbered k) := by
  have hmoved (xs : List (Nat × Text)) :
      (xs.map fun x => (renumber k x.1, x.2)).map (fun x => check x.1 x.2) =
        (xs.map fun x => check x.1 x.2).map (Findings.map (Finding.renumbered k)) := by
    rw [List.map_map, List.map_map]
    apply List.map_congr_left
    intro x hx
    exact h (renumber k) x.1 x.2
  have hsplit : (numberedLines s).take k ++ (numberedLines s).drop k = numberedLines s :=
    List.take_append_drop k _
  have hnew : check (k + 1, c).1 (k + 1, c).2 = .empty := hnone (k + 1)
  have honLines (t : Text) :
      onLines check t = .join ((numberedLines t).map fun x => check x.1 x.2) := rfl
  rw [honLines, honLines, numberedLines_insertLine hline hk, List.map_append, List.map_cons, hmoved,
    hmoved, hnew, Findings.join_append, Findings.join_cons, Findings.empty_append,
    ← Findings.join_append, ← List.map_append, ← List.map_append, hsplit, ← Findings.map_join]

theorem lineComments_of_no_html (hopen : ¬ "<!--".toList <:+: c)
    (hclose : ¬ "-->".toList <+: trim c) (n : Nat) : lineComments n c =
      .ensure (!"//".toList.isPrefixOf (trim c)) (.error (slashComment n c)) := by
  have hpart : hasPart "<!--".toList c = false :=
    Bool.eq_false_iff.mpr fun hp => hopen ((hasPart_iff _ _).mp hp)
  have hprefix : "-->".toList.isPrefixOf (trim c) = false :=
    Bool.eq_false_iff.mpr fun hp => hclose (List.isPrefixOf_iff_prefix.mp hp)
  rw [lineComments, hpart, hprefix]
  exact Findings.append_empty _

structure PlainComment (c : Text) : Prop where
  unbroken : '\n' ∉ c
  marked : "%%".toList <+: trim c
  native : ¬ "<!--".toList <:+: c

theorem PlainComment.isComment (h : PlainComment c) : isComment c = true :=
  List.isPrefixOf_iff_prefix.mpr h.marked

theorem PlainComment.lineComments (h : PlainComment c) (n : Nat) : lineComments n c = .empty := by
  have hclose : ¬ "-->".toList <+: trim c := not_prefix_of_prefix (by decide) h.marked
  have hslashes : "//".toList.isPrefixOf (trim c) = false :=
    Bool.eq_false_iff.mpr fun hp =>
      not_prefix_of_prefix (by decide) h.marked (List.isPrefixOf_iff_prefix.mp hp)
  rw [lineComments_of_no_html h.native hclose, hslashes]
  rfl

theorem PlainComment.not_significant (h : PlainComment c) : ¬ Significant (trim c) :=
  fun hs => hs.2.2 h.marked

theorem lineQuotes_of_isComment (h : isComment c = true) (n : Nat) : lineQuotes n c = .empty :=
  if_pos h

theorem lineArrows_of_isComment (h : isComment c = true) (n : Nat) : lineArrows n c = .empty := by
  apply if_pos
  rw [isCommentOrFence, h, Bool.true_or]

theorem lineLabel_of_isComment (h : isComment c = true) (n : Nat) : lineLabel n c = .empty := by
  apply if_pos
  rw [isCommentOrFence, h, Bool.true_or]

theorem one_le_of_exists_take (h : ∃ l ∈ (lines s).take k, trim l ≠ []) : 1 ≤ k := by
  obtain ⟨l, hl, -⟩ := h
  have hlen := List.length_pos_of_mem hl
  rw [List.length_take] at hlen
  omega

theorem lt_length_of_exists_drop (h : ∃ l ∈ (lines s).drop k, trim l ≠ []) :
    k < (lines s).length := by
  obtain ⟨l, hl, -⟩ := h
  have hlen := List.length_pos_of_mem hl
  rw [List.length_drop] at hlen
  omega

theorem fence_insertLine (hline : '\n' ∉ c) (hbefore : ∃ l ∈ (lines s).take k, trim l ≠ [])
    (hafter : ∃ l ∈ (lines s).drop k, trim l ≠ []) :
    fence (insertLine k c s) = (fence s).map (Finding.renumbered k) := by
  obtain ⟨first, last, hs, hinsert⟩ := trim_insertLine hbefore hafter c
  have hopen : "```mermaid".toList.isPrefixOf (trim (insertLine k c s)) =
      "```mermaid".toList.isPrefixOf (trim s) := by
    rw [Bool.eq_iff_iff, List.isPrefixOf_iff_prefix, List.isPrefixOf_iff_prefix, hs, hinsert,
      prefix_append_cons_iff (by decide), prefix_append_cons_iff (by decide)]
  have hclose : fenceMark.isSuffixOf (trim (insertLine k c s)) = fenceMark.isSuffixOf (trim s) := by
    rw [Bool.eq_iff_iff, List.isSuffixOf_iff_suffix, List.isSuffixOf_iff_suffix, hs, hinsert,
      suffix_append_cons_iff (by decide), suffix_append_cons_iff (by decide),
      suffix_append_cons_iff (by decide)]
  -- the first line stays the first, and the last one moves
  have hone := one_le_of_exists_take hbefore
  have hlast := lt_length_of_exists_drop hafter
  have hcount : (lines (insertLine k c s)).length = (lines s).length + 1 := by
    rw [lines_insertLine hline, List.length_append, List.length_cons, List.length_take,
      List.length_drop]
    omega
  simp only [fence, unopenedBlock, unclosedBlock, hopen, hclose, hcount, Findings.map_append,
    Findings.map_ensure, Findings.map_error, Finding.renumbered, Option.map_some,
    renumber_of_le hone, renumber_of_lt hlast]

theorem firstSignificant_insertLine (hline : '\n' ∉ c) (hc : ¬ Significant (trim c))
    (hk : k ≤ (lines s).length) : firstSignificant (insertLine k c s) =
      (firstSignificant s).map fun x => (renumber k x.1, x.2) := by
  have hsig : isSignificant (trim c) = false :=
    Bool.eq_false_iff.mpr fun h => hc ((isSignificant_iff _).mp h)
  have hfirst (t : Text) : firstSignificant t =
      ((numberedLines t).find? fun x => isSignificant (trim x.2)).map fun x => (x.1, trim x.2) := by
    rw [firstSignificant, List.find?_map]
    rfl
  have hmoved (xs : List (Nat × Text)) :
      (xs.map fun x => (renumber k x.1, x.2)).find? (fun x => isSignificant (trim x.2)) =
        (xs.find? fun x => isSignificant (trim x.2)).map fun x => (renumber k x.1, x.2) := by
    rw [List.find?_map]
    rfl
  have hsplit : (numberedLines s).take k ++ (numberedLines s).drop k = numberedLines s :=
    List.take_append_drop k _
  rw [hfirst, hfirst, numberedLines_insertLine hline hk, List.find?_append,
    List.find?_cons_of_neg (by simp [hsig]), hmoved, hmoved, ← Option.map_or, ← List.find?_append,
    hsplit, Option.map_map, Option.map_map]
  rfl

theorem declaration_insertLine (hline : '\n' ∉ c) (hc : ¬ Significant (trim c)) (hone : 1 ≤ k)
    (hk : k ≤ (lines s).length) :
    declaration (insertLine k c s) = (declaration s).map (Finding.renumbered k) := by
  unfold declaration
  rw [firstSignificant_insertLine hline hc hk]
  cases firstSignificant s with
  | none =>
    simp only [missingDeclaration, Option.map_none, Findings.map_error, Finding.renumbered,
      Option.map_some, renumber_of_le hone]
  | some x =>
    simp only [invalidDeclaration, deprecatedGraph, Option.map_some, Findings.map_append,
      Findings.map_ensure, Findings.map_error, Findings.map_warning, Finding.renumbered]

end Check

theorem Kind.detect_insertLine {k : Nat} {c s : Text} (hline : '\n' ∉ c)
    (hc : ¬ Check.Significant (trim c)) : Kind.detect (insertLine k c s) = Kind.detect s := by
  have hnone : Kind.ofLine? (trim c) = none := Check.ofLine?_of_not_significant hc
  rw [Kind.detect, Kind.detect, findSome?_rows (f := Kind.ofLine?) rfl,
    findSome?_rows (f := Kind.ofLine?) rfl, lines_insertLine hline, List.findSome?_append,
    List.findSome?_cons, hnone]
  conv => rhs; rw [← List.take_append_drop k (lines s), List.findSome?_append]

theorem Aspect.findings_insertLine {k : Nat} {c s : Text} {a : Aspect} (ha : a ∈ structural)
    (hc : Check.PlainComment c) (hbefore : ∃ l ∈ (lines s).take k, trim l ≠ [])
    (hafter : ∃ l ∈ (lines s).drop k, trim l ≠ []) :
    a.findings (insertLine k c s) = (a.findings s).map (Finding.renumbered k) := by
  have hk : k ≤ (lines s).length := Nat.le_of_lt (Check.lt_length_of_exists_drop hafter)
  have hline := hc.unbroken
  cases a with
  | fence => exact Check.fence_insertLine hline hbefore hafter
  | declaration =>
    exact Check.declaration_insertLine hline hc.not_significant
      (Check.one_le_of_exists_take hbefore) hk
  | comments => exact Check.onLines_insertLine Check.renumbers_lineComments hc.lineComments hline hk
  | quotes =>
    exact Check.onLines_insertLine Check.renumbers_lineQuotes
      (Check.lineQuotes_of_isComment hc.isComment) hline hk
  | arrows =>
    exact Check.onLines_insertLine Check.renumbers_lineArrows
      (Check.lineArrows_of_isComment hc.isComment) hline hk
  | labels =>
    exact Check.onLines_insertLine Check.renumbers_lineLabel
      (Check.lineLabel_of_isComment hc.isComment) hline hk
  | specific kind m => simp [structural] at ha

/-- A comment between two lines of a document, with a line that is not blank above and below it,
moves what the structural checks find below it by one line and changes nothing else, for each check
by itself and for all of them one after the other. The kind stays as it is. -/
theorem comment_moves_findings (k : Nat) (c s : Text) (hc : Check.PlainComment c)
    (hbefore : ∃ l ∈ (lines s).take k, trim l ≠ [])
    (hafter : ∃ l ∈ (lines s).drop k, trim l ≠ []) :
    (∀ a ∈ Aspect.structural,
      a.findings (insertLine k c s) = (a.findings s).map (Finding.renumbered k)) ∧
    Findings.inspect (insertLine k c s) .empty Aspect.structural =
      (Findings.inspect s .empty Aspect.structural).map (Finding.renumbered k) ∧
    Kind.detect (insertLine k c s) = Kind.detect s := by
  have hall : ∀ a ∈ Aspect.structural,
      a.findings (insertLine k c s) = (a.findings s).map (Finding.renumbered k) := by
    intro a ha
    exact Aspect.findings_insertLine ha hc hbefore hafter
  refine ⟨hall, ?_, Kind.detect_insertLine hc.unbroken hc.not_significant⟩
  have hinspect := Findings.inspect_map hall .empty
  rwa [Findings.map_empty] at hinspect

theorem comment_below_declaration_moves_findings :
    let s := "```mermaid\ngraph TD\nA > B[open\n\n``".toList
    let c := "  %% \"[ -> note".toList
    Check.PlainComment c ∧ (∃ l ∈ (lines s).take 2, trim l ≠ []) ∧
      (∃ l ∈ (lines s).drop 2, trim l ≠ []) ∧
      (∀ a ∈ Aspect.structural,
        a.findings (insertLine 2 c s) = (a.findings s).map (Finding.renumbered 2)) ∧
      Findings.inspect (insertLine 2 c s) .empty Aspect.structural =
        (Findings.inspect s .empty Aspect.structural).map (Finding.renumbered 2) ∧
      Kind.detect (insertLine 2 c s) = Kind.detect s := by
  intro s c
  have hc : Check.PlainComment c := ⟨by decide, by decide, by decide⟩
  have hbefore : ∃ l ∈ (lines s).take 2, trim l ≠ [] := by decide
  have hafter : ∃ l ∈ (lines s).drop 2, trim l ≠ [] := by decide
  exact ⟨hc, hbefore, hafter, comment_moves_findings 2 c s hc hbefore hafter⟩

end DiagramReview
