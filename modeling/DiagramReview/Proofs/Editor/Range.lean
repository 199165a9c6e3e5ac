import DiagramReview.Editor.Diagnostic
import DiagramReview.Proofs.Text.LineEnd
import DiagramReview.Proofs.Text.Units
import DiagramReview.Proofs.Validation.Place
import Mathlib.Data.List.DropRight

namespace DiagramReview

open Text

namespace Text

theorem trim_append_returns (s : Text) (k : Nat) : trim (s ++ List.replicate k '\r') = trim s := by
  apply trim_append_blank
  intro c hc
  rw [List.eq_of_mem_replicate hc]
  exact isBlank_return

end Text

namespace Diagnostic

variable {s line : Text} {f : Finding}

theorem exists_returns (line : Text) :
    ∃ k, line = withoutReturns line ++ List.replicate k '\r' := by
  have hsplit : withoutReturns line ++ line.rtakeWhile (· == '\r') = line :=
    List.rdropWhile_append_rtakeWhile
  have hreturns : ∀ c ∈ line.rtakeWhile (· == '\r'), c = '\r' := by
    intro c hc
    exact beq_iff_eq.mp (List.mem_rtakeWhile_imp (p := (· == '\r')) hc)
  refine ⟨(line.rtakeWhile (· == '\r')).length, ?_⟩
  rw [← List.eq_replicate_of_mem hreturns, hsplit]

theorem getLast?_withoutReturns (line : Text) : (withoutReturns line).getLast? ≠ some '\r' := by
  intro h
  obtain ⟨body, hbody⟩ := List.getLast?_eq_some_iff.mp h
  have hne : line.rdropWhile (· == '\r') ≠ [] := by
    change withoutReturns line ≠ []
    simp [hbody]
  have hlast := List.rdropWhile_last_not (· == '\r') line hne
  have hreturn : (line.rdropWhile (· == '\r')).getLast hne = '\r' := by
    have hh : (line.rdropWhile (· == '\r')).getLast? = some '\r' := h
    rw [List.getLast?_eq_some_getLast hne] at hh
    exact Option.some.inj hh
  exact hlast (beq_iff_eq.mpr hreturn)

def covered (s : Text) (d : Diagnostic) : Text :=
  take16 (d.last.column - d.first.column)
    (drop16 d.first.column ((lines s)[d.first.line]?.getD []))

def Spans (s : Text) (i : Nat) (d : Diagnostic) : Prop :=
  ∃ body k, (lines s)[i]? = some (body ++ List.replicate k '\r') ∧ body.getLast? ≠ some '\r' ∧
    d.first = ⟨i, 0⟩ ∧ d.last = ⟨i, length16 body⟩

theorem covered_of_spans {d : Diagnostic} {i : Nat} (h : d.Spans s i)
    (hline : (lines s)[i]? = some line) : trim (d.covered s) = trim line := by
  obtain ⟨body, k, hi, -, hfirst, hlast⟩ := h
  obtain rfl := Option.some.inj (hline.symm.trans hi)
  have hcovered : d.covered s = body := by
    rw [covered, hfirst, hlast, hi]
    exact (congrArg (take16 _) (drop16_zero _)).trans (take16_length16_append body _)
  rw [hcovered, trim_append_returns]

theorem lineWidth_eq {i : Nat} (hline : (lines s)[i]? = some line) :
    lineWidth s i = length16 (withoutReturns line) := by
  rw [lineWidth, hline]
  rfl

theorem spans_ofFinding (hlines : (lines s).length < Bits.values 32)
    (hwidths : ∀ l ∈ lines s, length16 l < Bits.values 32)
    (hline : (lines s)[lineIndex f]? = some line) (severity : Severity) :
    (ofFinding s severity f).Spans s (lineIndex f) := by
  obtain ⟨k, hk⟩ := exists_returns line
  have hindex : lineIndex f < Bits.values 32 :=
    (List.getElem?_eq_some_iff.mp hline).1.trans hlines
  have hwidth : length16 (withoutReturns line) < Bits.values 32 := by
    have hl := hwidths line (List.mem_of_getElem? hline)
    rw [hk, length16_append] at hl
    omega
  refine ⟨withoutReturns line, k, hline.trans (congrArg some hk), getLast?_withoutReturns line,
    ?_, ?_⟩
  · simp only [ofFinding, Nat.mod_eq_of_lt hindex]
  · simp only [ofFinding, lineWidth_eq hline, Nat.mod_eq_of_lt hindex, Nat.mod_eq_of_lt hwidth]

end Diagnostic

/-- A finding of a validation that names a line names an existing one and quotes only it. Its mark,
under any severity, covers that line, or the first one, up to the returns at its end, and what a
finding quotes is the trimmed text under its mark. -/
theorem findings_marked_in_place (t : Thresholds) (s : Text)
    (hlines : (lines s).length < Bits.values 32)
    (hwidth : ∀ l ∈ lines s, length16 l < Bits.values 32) :
    (Verdict.ofText t s).findings.All fun f =>
      (∀ n, f.line = some n → 1 ≤ n ∧ n ≤ (lines s).length ∧
        ∀ q, f.content = some q → ∃ l, (lines s)[n - 1]? = some l ∧ q = String.ofList (trim l)) ∧
      ∀ severity, (Diagnostic.ofFinding s severity f).Spans s ((f.line.map (· - 1)).getD 0) ∧
        ∀ q, f.content = some q →
          String.ofList (trim ((Diagnostic.ofFinding s severity f).covered s)) = q := by
  intro v f hf
  rcases Verdict.standsIn t s v f hf with ⟨hnone, hcontent⟩ | ⟨n, l, hmem, hline, hcontent⟩
  · obtain ⟨first, hfirst⟩ := Check.exists_first_line s
    obtain ⟨i, hi, hone⟩ := mem_numberedLines.mp hfirst
    obtain rfl : i = 0 := by omega
    refine ⟨by simp [hnone], fun severity => ⟨?_, by simp [hcontent]⟩⟩
    have hindex : Diagnostic.lineIndex f = 0 := by simp [Diagnostic.lineIndex, hnone]
    have hspans := Diagnostic.spans_ofFinding hlines hwidth (hindex ▸ hi) severity
    rw [hindex] at hspans
    simpa [hnone] using hspans
  · obtain ⟨i, hi, rfl⟩ := mem_numberedLines.mp hmem
    have hlt : i < (lines s).length := (List.getElem?_eq_some_iff.mp hi).1
    have hindex : Diagnostic.lineIndex f = i := by simp [Diagnostic.lineIndex, hline]
    have hspans (severity : Severity) : (Diagnostic.ofFinding s severity f).Spans s i := by
      have h := Diagnostic.spans_ofFinding hlines hwidth (hindex ▸ hi) severity
      rwa [hindex] at h
    constructor
    · intro n hn
      obtain rfl := Option.some.inj (hline.symm.trans hn)
      exact ⟨by omega, hlt, fun q hq => ⟨l, hi, hcontent q hq⟩⟩
    · intro severity
      refine ⟨by simpa [hline] using hspans severity, fun q hq => ?_⟩
      rw [Diagnostic.covered_of_spans (hspans severity) hi]
      exact (hcontent q hq).symm

theorem comment_marked_before_returns :
    let s := "```mermaid\r\nflowchart TD\r\n // 😀 \r\r\n```".toList
    let f : Finding :=
      { category := .invalidComment
        message := "JavaScript-style comments (//) are invalid. Use %% instead"
        line := some 3
        content := some "// 😀" }
    (lines s).length < Bits.values 32 ∧ (∀ l ∈ lines s, length16 l < Bits.values 32) ∧
      f ∈ (Verdict.ofText {} s).findings.errors ∧
      ∀ severity, (Diagnostic.ofFinding s severity f).Spans s 2 ∧
        String.ofList (trim ((Diagnostic.ofFinding s severity f).covered s)) = "// 😀" := by
  intro s f
  have hlines : (lines s).length < Bits.values 32 := by decide +kernel
  have hwidth : ∀ l ∈ lines s, length16 l < Bits.values 32 := by decide +kernel
  have hf : f ∈ (Verdict.ofText {} s).findings.errors := by decide +kernel
  obtain ⟨-, hmark⟩ := findings_marked_in_place {} s hlines hwidth .error f hf
  exact ⟨hlines, hwidth, hf, fun severity => ⟨(hmark severity).1, (hmark severity).2 _ rfl⟩⟩

end DiagramReview
