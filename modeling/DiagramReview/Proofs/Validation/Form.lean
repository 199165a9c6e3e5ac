import DiagramReview.Proofs.Validation.Declaration

namespace DiagramReview

open Text

namespace Findings

def All (p : Finding → Prop) (found : Findings) : Prop := ∀ v, ∀ f ∈ found.bucket v, p f

section

variable {p : Finding → Prop} {f : Finding} {a b : Findings}

@[simp] theorem all_empty : All p empty := by simp [All]

@[simp] theorem all_append : All p (a ++ b) ↔ All p a ∧ All p b := by
  simp only [All, bucket_append, List.mem_append, or_imp, forall_and]

@[simp] theorem all_error : All p (error f) ↔ p f := by simp [All]

@[simp] theorem all_warning : All p (warning f) ↔ p f := by simp [All]

@[simp] theorem all_info : All p (info f) ↔ p f := by simp [All]

theorem All.ensure (h : All p a) (fine : Bool) : All p (ensure fine a) := by
  cases fine with
  | true => exact all_empty
  | false => exact h

theorem All.join {fs : List Findings} (h : ∀ a ∈ fs, All p a) : All p (join fs) := by
  intro v f hf
  rw [bucket_join, List.mem_flatMap] at hf
  obtain ⟨a, ha, hf⟩ := hf
  exact h a ha v f hf

end

end Findings

namespace Check

inductive Form (s : Text) : Finding → Prop
  | unopenedBlock : Form s unopenedBlock
  | unclosedBlock : Form s (unclosedBlock (lines s).length)
  | missingDeclaration : Form s missingDeclaration
  | invalidDeclaration {n : Nat} {l : Text} (h : (n, l) ∈ numberedLines s) :
    Form s (invalidDeclaration n (trim l))
  | deprecatedGraph {n : Nat} {l : Text} (h : (n, l) ∈ numberedLines s) :
    Form s (deprecatedGraph n)
  | slashComment {n : Nat} {l : Text} (h : (n, l) ∈ numberedLines s) : Form s (slashComment n l)
  | htmlComment {n : Nat} {l : Text} (h : (n, l) ∈ numberedLines s) : Form s (htmlComment n l)
  | unclosedQuote {n : Nat} {l : Text} (h : (n, l) ∈ numberedLines s) : Form s (unclosedQuote n l)
  | unclosedBracket {n : Nat} {l : Text} (h : (n, l) ∈ numberedLines s) :
    Form s (unclosedBracket n l)
  | looseHead {n : Nat} {l : Text} (h : (n, l) ∈ numberedLines s) : Form s (looseHeadWarning n l)
  | loneDash {n : Nat} {l : Text} (h : (n, l) ∈ numberedLines s) : Form s (loneDashWarning n l)
  | angle {n : Nat} {l : Text} (h : (n, l) ∈ numberedLines s) : Form s (angleWarning n l)
  | brace {n : Nat} {l : Text} (h : (n, l) ∈ numberedLines s) : Form s (braceWarning n l)
  | longLabel {n : Nat} {l : Text} (h : (n, l) ∈ numberedLines s) (label : Text) :
    Form s (longLabelWarning n l label)
  | oldNotation : Form s oldNotation
  | fault {kind : Kind} {c : Cap} {remedy : String} (hc : c ∈ kind.caps)
    (hremedy : c.remedy = some remedy) (m : Metrics) : Form s (c.fault m remedy)
  | counted (m : Metrics) (kind : Kind) : Form s (counted m kind)
  | complexity {r : Rating} {f : Finding} (h : f ∈ (Verdict.complexityFindings r).warnings) :
    Form s f

variable {s l : Text} {n : Nat}

theorem all_onLines {p : Finding → Prop} {check : Nat → Text → Findings}
    (h : ∀ n l, (n, l) ∈ numberedLines s → (check n l).All p) : (onLines check s).All p := by
  intro v f hf
  obtain ⟨n, l, hl, hf⟩ := mem_bucket_onLines.mp hf
  exact h n l hl v f hf

theorem FirstSignificant.exists_mem_numberedLines {line : Text} (h : FirstSignificant s n line) :
    ∃ l, (n, l) ∈ numberedLines s ∧ line = trim l := by
  obtain ⟨before, l, after, hs, rfl, hline, -⟩ := h
  have hl : (lines s)[before.length]? = some l := by simp [hs]
  exact ⟨l, mem_numberedLines.mpr ⟨before.length, hl, rfl⟩, hline⟩

theorem form_fence (s : Text) : (fence s).All (Form s) := by
  refine Findings.all_append.mpr ⟨.ensure ?_ _, .ensure ?_ _⟩
  · exact Findings.all_error.mpr .unopenedBlock
  · exact Findings.all_error.mpr .unclosedBlock

theorem form_declaration (s : Text) : (declaration s).All (Form s) := by
  unfold declaration
  cases h : firstSignificant s with
  | none => exact Findings.all_error.mpr .missingDeclaration
  | some entry =>
    obtain ⟨n, line⟩ := entry
    obtain ⟨l, hl, rfl⟩ := (firstSignificant_eq_some_iff.mp h).exists_mem_numberedLines
    refine Findings.all_append.mpr ⟨.ensure ?_ _, .ensure ?_ _⟩
    · exact Findings.all_error.mpr (.invalidDeclaration hl)
    · exact Findings.all_warning.mpr (.deprecatedGraph hl)

theorem form_lineComments (h : (n, l) ∈ numberedLines s) : (lineComments n l).All (Form s) := by
  refine Findings.all_append.mpr ⟨.ensure ?_ _, .ensure ?_ _⟩
  · exact Findings.all_error.mpr (.slashComment h)
  · exact Findings.all_error.mpr (.htmlComment h)

theorem form_lineQuotes (h : (n, l) ∈ numberedLines s) : (lineQuotes n l).All (Form s) := by
  unfold lineQuotes
  split
  · exact Findings.all_empty
  · refine Findings.all_append.mpr ⟨.ensure ?_ _, .ensure ?_ _⟩
    · exact Findings.all_error.mpr (.unclosedQuote h)
    · exact Findings.all_error.mpr (.unclosedBracket h)

theorem form_lineArrows (h : (n, l) ∈ numberedLines s) : (lineArrows n l).All (Form s) := by
  unfold lineArrows
  split
  · exact Findings.all_empty
  · refine Findings.all_append.mpr ⟨.ensure ?_ _, .ensure ?_ _⟩
    · exact Findings.all_warning.mpr (.looseHead h)
    · exact Findings.all_warning.mpr (.loneDash h)

theorem form_lineLabel (h : (n, l) ∈ numberedLines s) : (lineLabel n l).All (Form s) := by
  unfold lineLabel
  split
  · exact Findings.all_empty
  · split
    · exact Findings.all_empty
    · exact Findings.all_empty
    · refine Findings.all_append.mpr ⟨Findings.all_append.mpr ⟨.ensure ?_ _, .ensure ?_ _⟩,
        .ensure ?_ _⟩
      · exact Findings.all_warning.mpr (.angle h)
      · exact Findings.all_warning.mpr (.brace h)
      · exact Findings.all_warning.mpr (.longLabel h _)

theorem form_specific (kind : Option Kind) (m : Metrics) (s : Text) :
    (specific kind m s).All (Form s) := by
  cases kind with
  | none => exact Findings.all_empty
  | some kind =>
    refine Findings.all_append.mpr ⟨Findings.all_append.mpr ⟨?_, .join ?_⟩, ?_⟩
    · unfold version
      split
      · exact .ensure (Findings.all_error.mpr .oldNotation) _
      · exact .ensure (Findings.all_error.mpr .oldNotation) _
      · exact Findings.all_empty
    · intro found hfound
      obtain ⟨c, hc, rfl⟩ := List.mem_map.mp hfound
      unfold cap
      split
      · exact Findings.all_empty
      · next remedy hremedy =>
        exact .ensure (Findings.all_warning.mpr (.fault hc hremedy m)) _
    · exact Findings.all_info.mpr (.counted m kind)

end Check

theorem Aspect.form (s : Text) (a : Aspect) : (a.findings s).All (Check.Form s) := by
  cases a with
  | fence => exact Check.form_fence s
  | declaration => exact Check.form_declaration s
  | comments => exact Check.all_onLines fun _ _ => Check.form_lineComments
  | quotes => exact Check.all_onLines fun _ _ => Check.form_lineQuotes
  | arrows => exact Check.all_onLines fun _ _ => Check.form_lineArrows
  | labels => exact Check.all_onLines fun _ _ => Check.form_lineLabel
  | specific kind m => exact Check.form_specific kind m s

theorem Verdict.form (t : Thresholds) (s : Text) : (ofText t s).findings.All (Check.Form s) := by
  intro v f hf
  rw [bucket_ofText, List.mem_append, List.mem_append, List.mem_flatMap] at hf
  rcases hf with (⟨a, -, hf⟩ | hf) | hf
  · exact a.form s v f hf
  · exact Check.form_specific _ _ s v f hf
  · by_cases hv : v = .warning
    · subst hv
      exact .complexity hf
    · rw [bucket_complexityFindings _ v hv] at hf
      cases hf

end DiagramReview
