import DiagramReview.Proofs.Validation.Form

namespace DiagramReview

open Text

/-- A finding is about the whole document, or it stands on one of its lines and quotes nothing but
that line. -/
def Finding.StandsIn (s : Text) (f : Finding) : Prop :=
  (f.line = none ∧ f.content = none) ∨
    ∃ n l, (n, l) ∈ numberedLines s ∧ f.line = some n ∧ ∀ q, f.content = some q → q = quoted l

namespace Check

open Finding

variable {s l : Text} {n : Nat} {c : Category} {m : String} {suggestion expected : Option String}
  {f : Finding}

theorem standsIn_whole : StandsIn s ⟨c, m, none, none, suggestion, expected⟩ := .inl ⟨rfl, rfl⟩

theorem standsIn_line (h : (n, l) ∈ numberedLines s) :
    StandsIn s ⟨c, m, some n, none, suggestion, expected⟩ :=
  .inr ⟨n, l, h, rfl, fun _ hq => nomatch hq⟩

theorem standsIn_quoted (h : (n, l) ∈ numberedLines s) :
    StandsIn s ⟨c, m, some n, some (quoted l), suggestion, expected⟩ :=
  .inr ⟨n, l, h, rfl, fun _ hq => (Option.some.inj hq).symm⟩

theorem exists_first_line (s : Text) : ∃ l, (1, l) ∈ numberedLines s := by
  obtain ⟨l, ls, h⟩ := List.exists_cons_of_ne_nil (List.splitOn_ne_nil '\n' s)
  exact ⟨l, mem_numberedLines.mpr ⟨0, by rw [lines, h]; rfl, rfl⟩⟩

theorem exists_last_line (s : Text) : ∃ l, ((lines s).length, l) ∈ numberedLines s := by
  have hpos := length_lines_pos s
  have hlast : (lines s).length - 1 < (lines s).length := by omega
  exact ⟨_, mem_numberedLines.mpr ⟨_, List.getElem?_eq_getElem hlast, by omega⟩⟩

theorem Form.standsIn (h : Form s f) : StandsIn s f := by
  cases h with
  | unopenedBlock | missingDeclaration =>
    obtain ⟨first, hfirst⟩ := exists_first_line s
    exact standsIn_line hfirst
  | unclosedBlock =>
    obtain ⟨last, hlast⟩ := exists_last_line s
    exact standsIn_line hlast
  | invalidDeclaration h | deprecatedGraph h => exact standsIn_line h
  | slashComment h | htmlComment h | unclosedQuote h | unclosedBracket h | looseHead h
  | loneDash h | angle h | brace h | longLabel h label => exact standsIn_quoted h
  | oldNotation | fault | counted => exact standsIn_whole
  | @complexity r f h =>
    have hall : (Verdict.complexityFindings r).All (StandsIn s) :=
      .ensure (Findings.all_warning.mpr standsIn_whole) _
    exact hall .warning f h

end Check

theorem Verdict.standsIn (t : Thresholds) (s : Text) :
    (ofText t s).findings.All (Finding.StandsIn s) :=
  fun v f hf => (Verdict.form t s v f hf).standsIn

end DiagramReview
