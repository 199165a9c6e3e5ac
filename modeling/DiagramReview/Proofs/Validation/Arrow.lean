import DiagramReview.Proofs.Validation.Label
import DiagramReview.Proofs.Validation.LineEnd

namespace DiagramReview.Check

open Text

def arrowWarnings (n : Nat) (line : Text) : List Finding :=
  if "%%".toList <+: trim line ∨ "```".toList <+: trim line then []
  else
    (if HasLooseRun line then [looseHeadWarning n line] else []) ++
      if HasLoneDash line ∧ ¬ "--".toList <:+: line then [loneDashWarning n line] else []

theorem lineArrows_eq (n : Nat) (line : Text) :
    lineArrows n line = { warnings := arrowWarnings n line } := by
  have hhead : (!hasLooseHead line) = true ↔ ¬ HasLooseRun line := by
    rw [← hasLooseHead_iff, Bool.not_eq_true', Bool.not_eq_true]
  have hdash : (!(loneDash.occursIn line && !hasPart "--".toList line)) = true ↔
      ¬ (HasLoneDash line ∧ ¬ "--".toList <:+: line) := by
    rw [← occursIn_loneDash_iff, ← hasPart_iff, Bool.not_eq_true', ← Bool.not_eq_true,
      Bool.and_eq_true, Bool.not_eq_true', Bool.not_eq_true]
  rw [lineArrows, arrowWarnings, ensure_warning hhead, ensure_warning hdash]
  by_cases hskip : isCommentOrFence line = true
  · rw [if_pos hskip, if_pos ((isCommentOrFence_iff line).mp hskip)]
    rfl
  · rw [if_neg hskip, if_neg (mt (isCommentOrFence_iff line).mpr hskip)]
    rfl

theorem arrows_eq (s : Text) : arrows s =
    { warnings := (numberedLines s).flatMap fun x => arrowWarnings x.1 x.2 } := by
  simp [arrows, onLines, Findings.join, List.flatMap_map, lineArrows_eq]

/-- Into any findings the check of arrows puts warnings only: line by line, one for a maximal run of
`>` that no arrow body precedes and then one for a dash between blanks where no two dashes meet.
The scan over the bytes of a line ends, and its answer is whether there is such a run of characters. -/
theorem arrows_warned_exactly (s : Text) :
    (∀ found, (Aspect.arrows.record s).after found =
      found ++ { warnings := (numberedLines s).flatMap fun x => arrowWarnings x.1 x.2 }) ∧
    ∀ line, hasLooseHead line = decide (HasLooseRun line) ∧
      ∃ turns ≤ (utf8 line).size + 1,
        (scanStep (utf8 line))^[turns] (.inr 0) = .inl (decide (HasLooseRun line)) := by
  refine ⟨fun found => ?_, fun line => ?_⟩
  · rw [(Aspect.writes s .arrows).after_eq, Aspect.findings, arrows_eq]
  · have hanswer : hasLooseHead line = decide (HasLooseRun line) := by
      rw [Bool.eq_iff_iff, decide_eq_true_iff, hasLooseHead_iff]
    obtain ⟨turns, hturns, hend⟩ := exists_scanStep_eq (utf8 line) 0
    exact ⟨hanswer, turns, hturns, hend.trans (congrArg Sum.inl hanswer)⟩

end DiagramReview.Check
