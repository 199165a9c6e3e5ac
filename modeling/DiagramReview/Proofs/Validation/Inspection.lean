import DiagramReview.Validation.Inspection

namespace DiagramReview.Recorder

open Text Findings

/-- A program that leaves the findings so far as they are and puts the same ones behind them each
time. -/
def Writes (r : Recorder) (new : Findings) : Prop := ∀ found, r.run found = ((), found ++ new)

variable {r q : Recorder} {a b new : Findings} {v : Severity} {f : Finding}

theorem Writes.after_eq (h : Writes r new) (found : Findings) : r.after found = found ++ new :=
  congrArg Prod.snd (h found)

theorem writes_nothing : Writes (pure ()) empty := by
  intro found
  rw [append_empty]
  rfl

theorem writes_report (v : Severity) (f : Finding) : Writes (report v f) (single v f) := by
  intro found
  rw [← add_eq_append]
  rfl

theorem Writes.seq (hr : Writes r a) (hq : Writes q b) : Writes (do r; q) (a ++ b) := by
  intro found
  have hrun : (do r; q : Recorder).run found = q.run (r.run found).2 := rfl
  rw [hrun, hr, hq, append_assoc]

theorem Writes.ite {c : Prop} [Decidable c] (hr : Writes r a) (hq : Writes q b) :
    Writes (if c then r else q) (if c then a else b) := by
  split
  · exact hr
  · exact hq

theorem writes_report_if {c : Prop} [Decidable c] {fine : Bool} (hc : c ↔ fine = false) :
    Writes (if c then report v f else pure ()) (ensure fine (single v f)) := by
  cases fine with
  | true =>
    rw [if_neg (by simp [hc])]
    exact writes_nothing
  | false =>
    rw [if_pos (by simp [hc])]
    exact writes_report v f

theorem Writes.report_if_seq {c : Prop} [Decidable c] {fine : Bool} (hc : c ↔ fine = false)
    (hq : Writes q b) :
    Writes (if c then do report v f; q else q) (ensure fine (single v f) ++ b) := by
  cases fine with
  | true =>
    rw [if_neg (by simp [hc])]
    intro found
    rw [hq, ensure, if_pos rfl, empty_append]
  | false =>
    rw [if_pos (by simp [hc])]
    exact (writes_report v f).seq hq

theorem writes_for {α : Type} {body : α → Recorder} {new : α → Findings}
    (h : ∀ x, Writes (body x) (new x)) (xs : List α) :
    Writes (do for x in xs do body x) (join (xs.map new)) := by
  induction xs with
  | nil => exact writes_nothing
  | cons x xs ih =>
    have hrun : (do for x in x :: xs do body x : Recorder) =
        (do body x; for x in xs do body x) := by
      simp only [List.forIn_cons, bind_assoc, pure_bind]
    rw [hrun]
    exact (h x).seq ih

theorem writes_onLines {record : Nat → Text → Recorder} {check : Nat → Text → Findings}
    (h : ∀ n l, Writes (record n l) (check n l)) (s : Text) :
    Writes (onLines record s) (Check.onLines check s) := by
  have hline (x : Nat × Text) : Writes (record x.1 x.2) (check x.1 x.2) := h x.1 x.2
  exact writes_for hline (numberedLines s)

theorem writes_fence (s : Text) : Writes (fence s) (Check.fence s) :=
  .report_if_seq (by simp) (writes_report_if (by simp))

theorem writes_declaration (s : Text) : Writes (declaration s) (Check.declaration s) := by
  unfold declaration Check.declaration
  cases Check.firstSignificant s with
  | none => exact writes_report _ _
  | some entry => exact .report_if_seq (by simp) (writes_report_if (by simp))

theorem writes_lineComments (n : Nat) (l : Text) :
    Writes (lineComments n l) (Check.lineComments n l) := by
  refine .report_if_seq (by simp) (writes_report_if ?_)
  rw [← Bool.not_or, Bool.not_eq_false']

theorem writes_lineQuotes (n : Nat) (l : Text) : Writes (lineQuotes n l) (Check.lineQuotes n l) :=
  .ite writes_nothing (.report_if_seq (by simp) (writes_report_if (by simp)))

theorem writes_lineArrows (n : Nat) (l : Text) : Writes (lineArrows n l) (Check.lineArrows n l) :=
  .ite writes_nothing (.report_if_seq (by simp) (writes_report_if (by simp)))

theorem writes_lineLabel (n : Nat) (l : Text) : Writes (lineLabel n l) (Check.lineLabel n l) := by
  refine .ite writes_nothing ?_
  cases Check.firstLabel? l with
  | none => exact writes_nothing
  | some label =>
    cases label with
    | nil => exact writes_nothing
    | cons c label =>
      show Writes _ (Check.labelFindings n l (c :: label))
      have hbad (bad : Bool) : bad = true ↔ (!bad) = false := by simp
      rw [Check.labelFindings, append_assoc]
      exact .report_if_seq (hbad _) (.report_if_seq (hbad _) (writes_report_if (by simp)))

theorem writes_version (kind : Kind) (s : Text) :
    Writes (version kind s) (Check.version kind s) := by
  unfold version Check.version
  cases kind with
  | state | oldState => exact writes_report_if (by simp)
  | classes | sequence | entities | flowchart | graph =>
    rw [if_neg (by simp)]
    exact writes_nothing

theorem writes_cap (m : Metrics) (c : Cap) : Writes (cap m c) (Check.cap m c) := by
  unfold cap Check.cap
  cases c.remedy with
  | none => exact writes_nothing
  | some remedy => exact writes_report_if (by simp)

theorem writes_specific (kind : Option Kind) (m : Metrics) (s : Text) :
    Writes (specific kind m s) (Check.specific kind m s) := by
  cases kind with
  | none => exact writes_nothing
  | some kind =>
    rw [Check.specific, append_assoc]
    have hcaps := writes_for (writes_cap m) kind.caps
    exact (writes_version kind s).seq (hcaps.seq (writes_report _ _))

end DiagramReview.Recorder

namespace DiagramReview

open Recorder

theorem Aspect.writes (s : Text) (a : Aspect) : Writes (a.record s) (a.findings s) := by
  cases a with
  | fence => exact writes_fence s
  | declaration => exact writes_declaration s
  | comments => exact writes_onLines writes_lineComments s
  | quotes => exact writes_onLines writes_lineQuotes s
  | arrows => exact writes_onLines writes_lineArrows s
  | labels => exact writes_onLines writes_lineLabel s
  | specific kind m => exact writes_specific kind m s

namespace Findings

theorem inspect_nil (s : Text) (found : Findings) : inspect s found [] = found := rfl

theorem inspect_cons (s : Text) (found : Findings) (a : Aspect) (aspects : List Aspect) :
    inspect s found (a :: aspects) = inspect s (found ++ a.findings s) aspects := by
  rw [← (a.writes s).after_eq]
  rfl

end Findings

end DiagramReview
