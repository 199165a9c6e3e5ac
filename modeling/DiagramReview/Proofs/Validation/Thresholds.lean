import DiagramReview.Proofs.Validation.Agreement

namespace DiagramReview.Verdict

structure AgreeBelowLevel (v w : Verdict) : Prop where
  valid : v.valid = w.valid
  kind : v.kind = w.kind
  raw : v.complexity.raw = w.complexity.raw
  score : v.complexity.score = w.complexity.score
  errors : v.findings.errors = w.findings.errors
  warnings : v.findings.warnings.filter (·.category ≠ .complexity) =
    w.findings.warnings.filter (·.category ≠ .complexity)
  infos : v.findings.infos = w.findings.infos

theorem filter_complexityFindings (r : Rating) :
    (complexityFindings r).warnings.filter (·.category ≠ .complexity) = [] := by
  rw [List.filter_eq_nil_iff]
  intro f hf
  have hcategory : f.category = .complexity := category_complexityFindings (v := .warning) hf
  simp [hcategory]

variable (t u : Thresholds) (s : Text)

theorem bucket_ofText_eq {v : Severity} (hv : v ≠ .warning) :
    (ofText t s).findings.bucket v = (ofText u s).findings.bucket v := by
  rw [bucket_ofText, bucket_ofText, bucket_complexityFindings _ v hv,
    bucket_complexityFindings _ v hv]

theorem otherWarnings_ofText :
    (ofText t s).findings.warnings.filter (·.category ≠ .complexity) =
      ((Aspect.structural.flatMap fun a => (a.findings s).bucket .warning) ++
        (Check.specific (Kind.detect s) (metrics s) s).bucket .warning).filter
          (·.category ≠ .complexity) := by
  change ((ofText t s).findings.bucket .warning).filter _ = _
  rw [bucket_ofText, List.filter_append]
  change _ ++ (complexityFindings _).warnings.filter _ = _
  rw [filter_complexityFindings, List.append_nil]

theorem agreeBelowLevel : AgreeBelowLevel (ofText t s) (ofText u s) := by
  have herrors : (ofText t s).findings.errors = (ofText u s).findings.errors :=
    bucket_ofText_eq t u s (v := .error) (by decide)
  refine ⟨?_, rfl, ?_, ?_, herrors, ?_, bucket_ofText_eq t u s (v := .info) (by decide)⟩
  · rw [Bool.eq_iff_iff, valid_iff_errors_nil, valid_iff_errors_nil, herrors]
  · rw [complexity_ofText, complexity_ofText, Thresholds.rate, Thresholds.rate]
  · rw [complexity_ofText, complexity_ofText, Thresholds.rate, Thresholds.rate]
  · rw [otherWarnings_ofText, otherWarnings_ofText]

end DiagramReview.Verdict
