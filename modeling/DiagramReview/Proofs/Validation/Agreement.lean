import DiagramReview.Complexity.Analysis
import DiagramReview.Proofs.Complexity.Suggestions
import DiagramReview.Proofs.Validation.Categories

namespace DiagramReview

namespace Cap

def faultLead (c : Cap) : String := "Too many " ++ c.noun ++ " ("

theorem faultLead_isPrefix (c : Cap) (m : Metrics) (remedy : String) :
    c.faultLead.toList <+: (c.fault m remedy).message.toList := by
  have h : (c.fault m remedy).message = c.faultLead ++ (toString (m.get c.counter) ++
      "). Recommended: " ++ toString (c.bound m) ++ " or fewer") := by
    simp only [fault, faultText, faultLead, String.append_assoc]
  rw [h, String.toList_append]
  exact List.prefix_append _ _

theorem eq_of_faultLead (kind : Kind) : ∀ c ∈ kind.caps, ∀ d ∈ kind.caps,
    c.faultLead.toList <+: d.faultLead.toList → c = d := by
  cases kind <;> simp [Kind.caps, faultLead]

end Cap

namespace Check

theorem mem_warnings_cap {m : Metrics} {c : Cap} {f : Finding} :
    f ∈ (cap m c).bucket .warning ↔
      ∃ remedy, c.remedy = some remedy ∧ c.exceeded m = true ∧ f = c.fault m remedy := by
  unfold cap
  cases c.remedy with
  | none => simp
  | some remedy => simp [Cap.fault, faultText]

theorem exists_fault_iff {kind : Kind} {c : Counter} {noun : String} {limit : Nat} (m : Metrics)
    (s : Text) (h : (c, noun, limit) ∈ kind.bounded) :
    (∃ w ∈ (specific kind m s).bucket .warning, w.message = faultText noun (m.get c) limit) ↔
      limit < m.get c := by
  obtain ⟨cap, hcap, rfl, rfl, rfl, hp, -, hr⟩ := Kind.exists_cap_of_bounded _ h
  obtain ⟨remedy, hremedy⟩ := Option.isSome_iff_exists.mp hr
  have htext : (cap.fault m remedy).message =
      faultText cap.noun (m.get cap.counter) cap.limit := by
    rw [Cap.fault, Cap.bound_of_total hp]
  have hexceeded := Cap.exceeded_iff_of_total hp m
  simp only [warnings_specific, List.mem_flatMap, mem_warnings_cap]
  constructor
  · rintro ⟨w, ⟨d, hd, other, -, hdm, rfl⟩, he⟩
    have hl := cap.faultLead_isPrefix m remedy
    rw [htext, ← he] at hl
    obtain rfl :=
      Cap.eq_of_text_eq (Cap.eq_of_faultLead kind) hd hcap (d.faultLead_isPrefix m other) hl
    exact hexceeded.mp hdm
  · intro hn
    exact ⟨_, ⟨cap, hcap, remedy, hremedy, hexceeded.mpr hn, rfl⟩, htext⟩

end Check

namespace Verdict

theorem category_complexityFindings {r : Rating} {v : Severity} {w : Finding}
    (h : w ∈ (complexityFindings r).bucket v) : w.category = .complexity := by
  obtain ⟨-, -, rfl⟩ := Findings.mem_ensure_warning.mp h
  rfl

theorem length_complexityFindings (r : Rating) :
    ((complexityFindings r).bucket .warning).length = if r.level = .simple then 0 else 1 := by
  by_cases h : r.level = .simple
  · simp [complexityFindings, h]
  · simp [complexityFindings, h]

theorem infos_ofText (t : Thresholds) (s : Text) : (ofText t s).findings.infos =
    (Check.specific (Kind.detect s) (metrics s) s).bucket .info := by
  have hb := bucket_ofText t s .info
  have hs : (Aspect.structural.flatMap fun a => (a.findings s).bucket .info) = [] := by
    refine List.flatMap_eq_nil_iff.mpr fun a ha => Aspect.bucket_eq_nil ?_ s
    revert a
    decide
  rw [hs, bucket_complexityFindings _ _ (by decide), List.nil_append, List.append_nil] at hb
  exact hb

theorem mem_warnings_ofText_iff {t : Thresholds} {s : Text} {w : Finding}
    (hw : w.category = .tooManyElements) : w ∈ (ofText t s).findings.warnings ↔
      w ∈ (Check.specific (Kind.detect s) (metrics s) s).bucket .warning := by
  have hb : (ofText t s).findings.warnings = _ := bucket_ofText t s .warning
  rw [hb, List.mem_append, List.mem_append, List.mem_flatMap]
  constructor
  · rintro ((⟨a, ha, h⟩ | h) | h)
    · exact absurd (hw ▸ Aspect.category_mem h) (Aspect.category_not_structural ha (by decide))
    · exact h
    · rw [category_complexityFindings h] at hw
      cases hw
  · exact fun h => .inl (.inr h)

theorem complexityWarnings_ofText (t : Thresholds) (s : Text) :
    (ofText t s).findings.warnings.filter (·.category = .complexity) =
      (complexityFindings (ofText t s).complexity).bucket .warning := by
  have hb : (ofText t s).findings.warnings = _ := bucket_ofText t s .warning
  have hstructural : (Aspect.structural.flatMap fun a => (a.findings s).bucket .warning).filter
      (·.category = .complexity) = [] := by
    refine List.filter_eq_nil_iff.mpr fun w h hw => ?_
    obtain ⟨a, ha, h⟩ := List.mem_flatMap.mp h
    exact Aspect.category_not_structural ha (by simp) (of_decide_eq_true hw ▸ Aspect.category_mem h)
  have hspecific : ((Check.specific (Kind.detect s) (metrics s) s).bucket .warning).filter
      (·.category = .complexity) = [] := by
    refine List.filter_eq_nil_iff.mpr fun w h hw => ?_
    have hc := Aspect.category_specific h
    rw [of_decide_eq_true hw] at hc
    simp [Aspect.categories] at hc
  rw [hb, List.filter_append, List.filter_append, hstructural, hspecific]
  exact List.filter_eq_self.mpr fun w h => decide_eq_true (category_complexityFindings h)

end Verdict

structure Agreement (v : Verdict) (a : Analysis) : Prop where
  kind : a.kind = v.kind
  rating : a.complexity = v.complexity
  counted : (v.findings.infos.filter (·.category = .elementCount)).length = 1
  capped : v.complexity.level ≠ .simple → ∀ kind ∈ v.kind, ∀ c noun limit,
    (c, noun, limit) ∈ kind.bounded →
    ((∃ r ∈ a.recommendations, r.tone = .suggestion ∧
        r.message = adviceText noun (a.metrics.get c) limit) ↔
      ∃ w ∈ v.findings.warnings, w.category = .tooManyElements ∧
        w.message = faultText noun (a.metrics.get c) limit) ∧
    ((∃ w ∈ v.findings.warnings, w.category = .tooManyElements ∧
        w.message = faultText noun (a.metrics.get c) limit) ↔ limit < a.metrics.get c)
  clean : v.findings.errors = [] → v.findings.warnings = [] →
    v.complexity.level = .simple ∧ a.recommendations = [Level.simple.recommendation]

namespace Analysis

theorem level_ofKind (t : Thresholds) (kind : Kind) (s : Text) :
    (ofKind t kind s).complexity.level = t.classify (ofKind t kind s).complexity.raw := by
  simp only [ofKind, Thresholds.rate]

theorem recommendations_ofKind (t : Thresholds) (kind : Kind) (s : Text) :
    (ofKind t kind s).recommendations =
      (ofKind t kind s).metrics.advice kind t (ofKind t kind s).complexity.raw := by
  simp only [ofKind, Thresholds.rate]

end Analysis

namespace Verdict

theorem rating_ofText {t : Thresholds} {s : Text} {kind : Kind} (h : Kind.detect s = some kind) :
    (ofText t s).complexity = (Analysis.ofKind t kind s).complexity := by
  simp [ofText, Analysis.ofKind, h, Metrics.measureAny]

theorem metrics_of_detect {t : Thresholds} {s : Text} {kind : Kind}
    (h : Kind.detect s = some kind) : metrics s = (Analysis.ofKind t kind s).metrics := by
  simp [metrics, Analysis.ofKind, h, Metrics.measureAny]

theorem exists_warning_iff {t : Thresholds} {s : Text} {kind : Kind} {c : Counter} {noun : String}
    {limit : Nat} (h : Kind.detect s = some kind) (hb : (c, noun, limit) ∈ kind.bounded) :
    (∃ w ∈ (ofText t s).findings.warnings, w.category = .tooManyElements ∧
        w.message = faultText noun ((metrics s).get c) limit) ↔ limit < (metrics s).get c := by
  rw [← Check.exists_fault_iff (metrics s) s hb]
  constructor
  · rintro ⟨w, hw, hc, hm⟩
    have hs := (mem_warnings_ofText_iff hc).mp hw
    rw [h] at hs
    exact ⟨w, hs, hm⟩
  · rintro ⟨w, hw, hm⟩
    have hc : w.category = .tooManyElements := by
      simpa [Aspect.categories] using Aspect.category_specific hw
    rw [← h] at hw
    exact ⟨w, (mem_warnings_ofText_iff hc).mpr hw, hc, hm⟩

theorem level_of_warnings_nil {t : Thresholds} {s : Text}
    (h : (ofText t s).findings.warnings = []) : (ofText t s).complexity.level = .simple := by
  have hw := complexityWarnings_ofText t s
  rw [h, List.filter_nil] at hw
  have hlen := length_complexityFindings (ofText t s).complexity
  rw [← hw] at hlen
  by_contra hl
  simp [hl] at hlen

end Verdict

theorem agreement_ofKind {t : Thresholds} {s : Text} {kind : Kind} (h : Kind.detect s = some kind) :
    Agreement (.ofText t s) (.ofKind t kind s) := by
  have hkind : (Verdict.ofText t s).kind = some kind := h
  have hrating := Verdict.rating_ofText (t := t) h
  have hmetrics := Verdict.metrics_of_detect (t := t) h
  refine ⟨hkind.symm, hrating.symm, ?_, ?_, ?_⟩
  · rw [Verdict.infos_ofText, h, Check.infos_specific]
    rfl
  · intro hl other hother c noun limit hb
    obtain rfl : kind = other := Option.some.inj (hkind.symm.trans hother)
    have hwarning := Verdict.exists_warning_iff (t := t) h hb
    rw [hmetrics] at hwarning
    rw [hrating, Analysis.level_ofKind] at hl
    refine ⟨?_, hwarning⟩
    rw [hwarning, Analysis.recommendations_ofKind, Metrics.exists_advice_iff hl]
    exact Metrics.exists_suggestion_iff _ hb
  · intro _ hw
    have hl := Verdict.level_of_warnings_nil hw
    refine ⟨hl, ?_⟩
    rw [hrating, Analysis.level_ofKind] at hl
    rw [Analysis.recommendations_ofKind, Metrics.advice, hl]
    rfl

/-- The analysis of a document fails only where its validation finds no kind, and otherwise the two
agree. -/
theorem analysis_agrees_with_verdict (t : Thresholds) (s : Text) :
    (Analysis.ofText? t s = none ↔ (Verdict.ofText t s).kind = none) ∧
    ((Verdict.ofText t s).kind = none →
      (Verdict.ofText t s).complexity.raw = .finite false 0 ∧
        (Verdict.ofText t s).findings.infos = []) ∧
    (∀ a, Analysis.ofText? t s = some a → Agreement (.ofText t s) a) ∧
    ((Verdict.ofText t s).findings.warnings.filter (·.category = .complexity)).length =
      if (Verdict.ofText t s).complexity.level = .simple then 0 else 1 := by
  have hkind : (Verdict.ofText t s).kind = Kind.detect s := rfl
  refine ⟨?_, ?_, ?_, ?_⟩
  · rw [hkind, Analysis.ofText?, Option.map_eq_none_iff]
  · intro h
    rw [hkind] at h
    refine ⟨?_, ?_⟩
    · simp [Verdict.ofText, h, Metrics.score, Thresholds.rate]
    · rw [Verdict.infos_ofText, h]
      rfl
  · intro a ha
    obtain ⟨kind, hdetect, rfl⟩ := Option.map_eq_some_iff.mp ha
    exact agreement_ofKind hdetect
  · rw [Verdict.complexityWarnings_ofText, Verdict.length_complexityFindings]

end DiagramReview
