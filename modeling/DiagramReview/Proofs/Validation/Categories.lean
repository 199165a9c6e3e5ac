import DiagramReview.Proofs.Validation.Findings

namespace DiagramReview

namespace Findings

variable {fine : Bool} {f g : Finding} {v : Severity}

@[simp] theorem mem_ensure_error :
    f ∈ (ensure fine (error g)).bucket v ↔ fine = false ∧ v = .error ∧ f = g := by
  cases fine <;> cases v <;> simp

@[simp] theorem mem_ensure_warning :
    f ∈ (ensure fine (warning g)).bucket v ↔ fine = false ∧ v = .warning ∧ f = g := by
  cases fine <;> cases v <;> simp

end Findings

namespace Aspect

def categories : Aspect → Severity → List Category
  | fence, .error => [.codeBlock]
  | declaration, .error => [.diagramDeclaration]
  | declaration, .warning => [.deprecated]
  | comments, .error => [.invalidComment]
  | quotes, .error => [.unclosedQuote, .unclosedBracket]
  | arrows, .warning => [.invalidArrow]
  | labels, .warning => [.specialChar, .longLabel]
  | specific _ _, .error => [.invalidVersion]
  | specific _ _, .warning => [.tooManyElements]
  | specific _ _, .info => [.elementCount]
  | _, _ => []

variable {s l : Text} {v : Severity} {f : Finding} {n : Nat}

theorem category_fence (h : f ∈ (Check.fence s).bucket v) : f.category ∈ fence.categories v := by
  simp only [Check.fence, Findings.bucket_append, List.mem_append, Findings.mem_ensure_error] at h
  rcases h with ⟨-, rfl, rfl⟩ | ⟨-, rfl, rfl⟩
  all_goals simp [categories, Check.unopenedBlock, Check.unclosedBlock]

theorem category_declaration (h : f ∈ (Check.declaration s).bucket v) :
    f.category ∈ declaration.categories v := by
  unfold Check.declaration at h
  split at h
  · cases v <;> simp at h
    simp [categories, h, Check.missingDeclaration]
  · simp only [Findings.bucket_append, List.mem_append, Findings.mem_ensure_error,
      Findings.mem_ensure_warning] at h
    rcases h with ⟨-, rfl, rfl⟩ | ⟨-, rfl, rfl⟩
    all_goals simp [categories, Check.invalidDeclaration, Check.deprecatedGraph]

theorem category_lineComments (h : f ∈ (Check.lineComments n l).bucket v) :
    f.category ∈ comments.categories v := by
  simp only [Check.lineComments, Findings.bucket_append, List.mem_append,
    Findings.mem_ensure_error] at h
  rcases h with ⟨-, rfl, rfl⟩ | ⟨-, rfl, rfl⟩
  all_goals simp [categories, Check.slashComment, Check.htmlComment]

theorem category_lineQuotes (h : f ∈ (Check.lineQuotes n l).bucket v) :
    f.category ∈ quotes.categories v := by
  unfold Check.lineQuotes at h
  split at h
  · simp at h
  · simp only [Findings.bucket_append, List.mem_append, Findings.mem_ensure_error] at h
    rcases h with ⟨-, rfl, rfl⟩ | ⟨-, rfl, rfl⟩
    all_goals simp [categories, Check.unclosedQuote, Check.unclosedBracket]

theorem category_lineArrows (h : f ∈ (Check.lineArrows n l).bucket v) :
    f.category ∈ arrows.categories v := by
  unfold Check.lineArrows at h
  split at h
  · simp at h
  · simp only [Findings.bucket_append, List.mem_append, Findings.mem_ensure_warning] at h
    rcases h with ⟨-, rfl, rfl⟩ | ⟨-, rfl, rfl⟩
    all_goals simp [categories, Check.looseHeadWarning, Check.loneDashWarning]

theorem category_labelFindings {label : Text}
    (h : f ∈ (Check.labelFindings n l label).bucket v) : f.category ∈ labels.categories v := by
  simp only [Check.labelFindings, Findings.bucket_append, List.mem_append,
    Findings.mem_ensure_warning] at h
  rcases h with (⟨-, rfl, rfl⟩ | ⟨-, rfl, rfl⟩) | ⟨-, rfl, rfl⟩
  all_goals simp [categories, Check.angleWarning, Check.braceWarning, Check.longLabelWarning]

theorem category_lineLabel (h : f ∈ (Check.lineLabel n l).bucket v) :
    f.category ∈ labels.categories v := by
  unfold Check.lineLabel at h
  split at h
  · simp at h
  · split at h
    · simp at h
    · simp at h
    · exact category_labelFindings h

theorem category_specific {kind : Option Kind} {m : Metrics}
    (h : f ∈ (Check.specific kind m s).bucket v) :
    f.category ∈ (specific kind m).categories v := by
  cases kind with
  | none => simp [Check.specific] at h
  | some kind =>
    rw [Check.bucket_specific, List.mem_append, List.mem_append, List.mem_flatMap] at h
    rcases h with (h | ⟨c, -, h⟩) | h
    · unfold Check.version at h
      split at h
      · obtain ⟨-, rfl, rfl⟩ := Findings.mem_ensure_error.mp h
        simp [categories, Check.oldNotation]
      · obtain ⟨-, rfl, rfl⟩ := Findings.mem_ensure_error.mp h
        simp [categories, Check.oldNotation]
      · simp at h
    · unfold Check.cap at h
      split at h
      · simp at h
      · obtain ⟨-, rfl, rfl⟩ := Findings.mem_ensure_warning.mp h
        simp [categories, Cap.fault]
    · split_ifs at h with hv
      · subst hv
        obtain rfl := List.mem_singleton.mp h
        simp [categories, Check.counted]
      · cases h

theorem category_mem {a : Aspect} (h : f ∈ (a.findings s).bucket v) :
    f.category ∈ a.categories v := by
  cases a with
  | fence => exact category_fence h
  | declaration => exact category_declaration h
  | comments =>
    obtain ⟨n, l, -, hl⟩ := Check.mem_bucket_onLines.mp h
    exact category_lineComments hl
  | quotes =>
    obtain ⟨n, l, -, hl⟩ := Check.mem_bucket_onLines.mp h
    exact category_lineQuotes hl
  | arrows =>
    obtain ⟨n, l, -, hl⟩ := Check.mem_bucket_onLines.mp h
    exact category_lineArrows hl
  | labels =>
    obtain ⟨n, l, -, hl⟩ := Check.mem_bucket_onLines.mp h
    exact category_lineLabel hl
  | specific kind m => exact category_specific h

theorem bucket_eq_nil {a : Aspect} (h : a.categories v = []) (s : Text) :
    (a.findings s).bucket v = [] := by
  rw [List.eq_nil_iff_forall_not_mem]
  intro f hf
  have hm := category_mem hf
  rw [h] at hm
  cases hm

theorem category_not_structural {a : Aspect} {c : Category} (ha : a ∈ structural)
    (hc : c ∈ [Category.invalidVersion, .tooManyElements, .elementCount, .complexity]) :
    c ∉ a.categories v := by
  cases a with
  | specific kind m => simp [structural] at ha
  | fence | declaration | comments | quotes | arrows | labels =>
    revert hc
    cases v <;> cases c <;> decide

end Aspect

end DiagramReview
