import DiagramReview.Proofs.Validation.Categories
import DiagramReview.Proofs.Validation.Declaration
import Mathlib.Algebra.Group.Nat.Even

namespace DiagramReview

open Text Check

structure WellFormed (s : Text) : Prop where
  opens : "```mermaid".toList <+: trim s
  closes : "```".toList <:+ trim s
  declares : ∃ n line, FirstSignificant s n line ∧ ∃ d ∈ declarations, d.toList <+: line
  comments : ∀ l ∈ lines s, ¬ "//".toList <+: trim l ∧ ¬ "-->".toList <+: trim l ∧
    ¬ "<!--".toList <:+: l
  balances : ∀ l ∈ lines s, ¬ "%%".toList <+: trim l →
    Even (l.count '"') ∧ l.count '[' = l.count ']'

theorem errors_fence_eq_nil (s : Text) : (fence s).bucket .error = [] ↔
    "```mermaid".toList <+: trim s ∧ "```".toList <:+ trim s := by
  rw [← List.isPrefixOf_iff_prefix, ← List.isSuffixOf_iff_suffix, fence, fenceMark]
  cases "```mermaid".toList.isPrefixOf (trim s) <;> cases "```".toList.isSuffixOf (trim s) <;> simp

theorem errors_lineComments_eq_nil (n : Nat) (l : Text) : (lineComments n l).bucket .error = [] ↔
    ¬ "//".toList <+: trim l ∧ ¬ "-->".toList <+: trim l ∧ ¬ "<!--".toList <:+: l := by
  rw [← List.isPrefixOf_iff_prefix, ← List.isPrefixOf_iff_prefix, ← hasPart_iff, lineComments]
  cases "//".toList.isPrefixOf (trim l) <;> cases "-->".toList.isPrefixOf (trim l) <;>
    cases hasPart "<!--".toList l <;> simp

theorem errors_lineQuotes_eq_nil (n : Nat) (l : Text) : (lineQuotes n l).bucket .error = [] ↔
    (¬ "%%".toList <+: trim l → Even (l.count '"') ∧ l.count '[' = l.count ']') := by
  rw [← List.isPrefixOf_iff_prefix, Nat.even_iff, lineQuotes, isComment, commentMark]
  cases "%%".toList.isPrefixOf (trim l) with
  | true => simp
  | false =>
    by_cases hq : l.count '"' % 2 = 0 <;> by_cases hb : l.count '[' = l.count ']' <;>
      simp [hq, hb]

theorem errors_structural_eq_nil (s : Text) :
    (Aspect.structural.flatMap fun a => (a.findings s).bucket .error) = [] ↔ WellFormed s := by
  have hdeclaration : (declaration s).bucket .error = [] ↔
      ∃ n line, FirstSignificant s n line ∧ ∃ d ∈ declarations, d.toList <+: line := by
    rw [show (declaration s).bucket .error = (declaration s).errors from rfl,
      errors_declaration_eq_nil]
    simp [isDeclaration]
  have hcomments := bucket_onLines_eq_nil (s := s) errors_lineComments_eq_nil
  have hquotes := bucket_onLines_eq_nil (s := s) errors_lineQuotes_eq_nil
  rw [List.flatMap_eq_nil_iff]
  constructor
  · intro h
    have hfence := (errors_fence_eq_nil s).mp (h .fence (by decide))
    exact
      { opens := hfence.1
        closes := hfence.2
        declares := hdeclaration.mp (h .declaration (by decide))
        comments := hcomments.mp (h .comments (by decide))
        balances := hquotes.mp (h .quotes (by decide)) }
  · intro w a ha
    cases a with
    | fence => exact (errors_fence_eq_nil s).mpr ⟨w.opens, w.closes⟩
    | declaration => exact hdeclaration.mpr w.declares
    | comments => exact hcomments.mpr w.comments
    | quotes => exact hquotes.mpr w.balances
    | arrows | labels => exact Aspect.bucket_eq_nil rfl s
    | specific kind m => simp [Aspect.structural] at ha

theorem errors_ofText (t : Thresholds) (s : Text) : (Verdict.ofText t s).findings.errors =
    (Aspect.structural.flatMap fun a => (a.findings s).bucket .error) ++
      (specific (Kind.detect s) (Verdict.metrics s) s).bucket .error := by
  have hb := Verdict.bucket_ofText t s .error
  rwa [Verdict.bucket_complexityFindings _ _ (by decide), List.append_nil] at hb

theorem valid_of_wellFormed {s : Text} (w : WellFormed s) (t : Thresholds) :
    (Verdict.ofText t s).valid = true := by
  have hs := (errors_structural_eq_nil s).mpr w
  have hd : (declaration s).errors = [] :=
    List.flatMap_eq_nil_iff.mp hs .declaration (by decide)
  rw [Verdict.valid_iff_errors_nil, errors_ofText, hs, errors_specific_of_errors_nil hd,
    List.append_nil]

theorem wellFormed_of_errors {t : Thresholds} {s : Text}
    (h : ∀ e ∈ (Verdict.ofText t s).findings.errors, e.category = .invalidVersion) :
    WellFormed s := by
  rw [← errors_structural_eq_nil, List.eq_nil_iff_forall_not_mem]
  intro e he
  have hc : e.category = .invalidVersion := by
    apply h
    rw [errors_ofText]
    exact List.mem_append_left _ he
  obtain ⟨a, ha, hm⟩ := List.mem_flatMap.mp he
  -- the version is asked of a kind only, never by a structural check
  exact Aspect.category_not_structural ha (by decide) (hc ▸ Aspect.category_mem hm)

theorem wellFormed_of_valid {t : Thresholds} {s : Text} (h : (Verdict.ofText t s).valid = true) :
    WellFormed s := by
  rw [Verdict.valid_iff_errors_nil] at h
  exact wellFormed_of_errors (t := t) (by simp [h])

/-- A document is valid exactly if its text is well-formed. So the thresholds do not matter, and a
document with no error but the one about the version of a state diagram has no error at all. -/
theorem valid_iff_wellFormed (t : Thresholds) (s : Text) :
    ((Verdict.ofText t s).valid = true ↔ WellFormed s) ∧
    (∀ other, (Verdict.ofText other s).valid = (Verdict.ofText t s).valid) ∧
    ((∀ e ∈ (Verdict.ofText t s).findings.errors, e.category = .invalidVersion) →
      (Verdict.ofText t s).valid = true) := by
  have hiff (t : Thresholds) : (Verdict.ofText t s).valid = true ↔ WellFormed s :=
    ⟨wellFormed_of_valid, fun w => valid_of_wellFormed w t⟩
  refine ⟨hiff t, fun other => ?_, fun h => valid_of_wellFormed (wellFormed_of_errors h) t⟩
  rw [Bool.eq_iff_iff, hiff, hiff]

end DiagramReview
