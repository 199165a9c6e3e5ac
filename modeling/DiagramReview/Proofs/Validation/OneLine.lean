import DiagramReview.Proofs.Text.Numeral
import DiagramReview.Proofs.Validation.Form

namespace DiagramReview

open Text

theorem inLine_levelName (level : Level) : InLine level.name := by cases level <;> decide

namespace Finding

def texts (f : Finding) : List String :=
  f.message :: (f.content.toList ++ f.expected.toList ++ f.suggestion.toList)

def OneLine (f : Finding) : Prop := ∀ t ∈ f.texts, InLine t

end Finding

namespace Check

open Finding

variable {s l : Text} {n : Nat} {c : Category} {m : String} {line : Option Nat}
  {suggestion expected : Option String} {f : Finding}

theorem newline_notMem_trim (h : (n, l) ∈ numberedLines s) : '\n' ∉ trim l :=
  fun hmem => newline_notMem_of_mem_lines (mem_lines_of_mem_numberedLines h)
    ((trim_isInfix l).subset hmem)

theorem inLine_quoted (h : (n, l) ∈ numberedLines s) : InLine (quoted l) := by
  rw [InLine, quoted, String.toList_ofList]
  exact newline_notMem_trim h

theorem oneLine_plain (hm : InLine m)
    (hrest : ∀ t ∈ expected.toList ++ suggestion.toList, InLine t) :
    OneLine ⟨c, m, line, none, suggestion, expected⟩ :=
  List.forall_mem_cons.mpr ⟨hm, hrest⟩

theorem oneLine_quoted (hm : InLine m)
    (hrest : ∀ t ∈ expected.toList ++ suggestion.toList, InLine t)
    (hl : (n, l) ∈ numberedLines s) :
    OneLine ⟨c, m, line, some (quoted l), suggestion, expected⟩ :=
  List.forall_mem_cons.mpr ⟨hm, List.forall_mem_cons.mpr ⟨inLine_quoted hl, hrest⟩⟩

theorem inLine_cap {kind : Kind} {cap : Cap} (hcap : cap ∈ kind.caps) :
    InLine cap.noun ∧ ∀ remedy, cap.remedy = some remedy → InLine remedy := by
  have hall : ∀ cap ∈ kind.caps, InLine cap.noun ∧ InLine (cap.remedy.getD "") := by
    cases kind <;> decide
  refine ⟨(hall cap hcap).1, fun remedy hremedy => ?_⟩
  have htext := (hall cap hcap).2
  rwa [hremedy] at htext

theorem inLine_summary (m : Metrics) (kind : Kind) : InLine (summary m kind) := by
  cases kind with
  | sequence =>
    exact (((InLine.append (by decide) (inLine_toString _)).append (by decide)).append
      (inLine_toString _))
  | classes | state | oldState | entities | flowchart | graph =>
    exact .append (by decide) (inLine_toString _)

theorem inLine_faultText {noun : String} (h : InLine noun) (n limit : Nat) :
    InLine (faultText noun n limit) := by
  have hfound : InLine ("Too many " ++ noun ++ " (" ++ toString n) :=
    ((InLine.append (by decide) h).append (by decide)).append (inLine_toString n)
  exact ((hfound.append (by decide)).append (inLine_toString limit)).append (by decide)

theorem Form.oneLine (h : Form s f) : OneLine f := by
  cases h with
  | unopenedBlock | unclosedBlock | missingDeclaration | oldNotation | deprecatedGraph =>
    exact oneLine_plain (inLine_ofList (by decide)) (by decide)
  | @invalidDeclaration n l h =>
    have hline : InLine (String.ofList (trim l)) := inLine_quoted h
    exact oneLine_plain ((InLine.append (by decide) hline).append (by decide)) (by decide +kernel)
  | slashComment h | htmlComment h | unclosedQuote h | unclosedBracket h =>
    exact oneLine_quoted (inLine_ofList (by decide)) (List.forall_mem_nil _) h
  | looseHead h | loneDash h | angle h | brace h =>
    exact oneLine_quoted (inLine_ofList (by decide))
      (List.forall_mem_singleton.mpr (inLine_ofList (by decide))) h
  | longLabel h label =>
    exact oneLine_quoted ((InLine.append (by decide) (inLine_toString _)).append (by decide))
      (by decide) h
  | fault hcap hremedy m =>
    obtain ⟨hnoun, htext⟩ := inLine_cap hcap
    exact oneLine_plain (inLine_faultText hnoun _ _)
      (List.forall_mem_singleton.mpr (htext _ hremedy))
  | counted m kind => exact oneLine_plain (inLine_summary m kind) (List.forall_mem_nil _)
  | @complexity r f h =>
    have hall : (Verdict.complexityFindings r).All OneLine := by
      refine .ensure (Findings.all_warning.mpr (oneLine_plain ?_ ?_)) _
      · exact (((InLine.append (by decide) (inLine_levelName _)).append (by decide)).append
          (inLine_toString _)).append (by decide)
      · cases r.level <;> exact List.forall_mem_singleton.mpr (inLine_ofList (by decide))
    exact hall .warning f h

end Check

theorem Verdict.oneLine (t : Thresholds) (s : Text) :
    (ofText t s).findings.All Finding.OneLine :=
  fun v f hf => (Verdict.form t s v f hf).oneLine

end DiagramReview
